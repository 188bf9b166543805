import Mathlib.Data.List.TakeWhile
import ProxyTunnel.Url
import ProxyTunnel.Proofs.Idna.Plain
import ProxyTunnel.Proofs.Net.Address
import ProxyTunnel.Proofs.Text.Percent

/-!
# URLs of a server

A URL without a path, of a scheme, perhaps a user name, a host and a port, is read back part by
part. Each host that can be written in a URL and is read as something (`HostText`) can stand in front
of any port, and user information of characters that need no escape can stand in front of the host.

* `parse_eq`: from the text to its authority;
* `splitUserInfo_none`, `splitUserInfo_some`: the user information;
* `parseAuthority_eq`: host and port;
* `hostText_ipv6`, `hostText_web_ipv4`, `hostText_web_domain`, `hostText_opaque`: the hosts there
  are.
-/

namespace ProxyTunnel.Url

open Text Text.Numeral

/-- Characters that no part of a URL drops, and that do not end an authority. -/
structure IsAuthorityChar (c : Char) : Prop where
  visible : 0x20 < c.toNat
  slash : c ≠ '/'
  question : c ≠ '?'
  hash : c ≠ '#'
  backslash : c ≠ '\\'

section

variable {kind : SchemeKind} {s t : List Char} {c : Char}

theorem dropWhile_of_forall {p : Char → Bool} (h : ∀ c ∈ s, p c = false) : s.dropWhile p = s :=
  List.dropWhile_eq_self_iff.mpr fun hl => Bool.eq_false_iff.mp (h _ (List.getElem_mem hl))

theorem clean_of_visible (h : ∀ c ∈ s, 0x20 < c.toNat) : clean s = s := by
  have htrimmed : ∀ c ∈ s, isTrimmed c = false := fun c hc =>
    decide_eq_false (Nat.not_le.mpr (h c hc))
  have hkept : ∀ c ∈ s, (!isDropped c) = true := by
    intro c hc
    have hvisible := h c hc
    have hne (d : Char) (hd : d.toNat ≤ 0x20) : c ≠ d := by
      rintro rfl
      omega
    simp [isDropped, hne]
  rw [clean, dropWhile_of_forall htrimmed,
    dropWhile_of_forall fun c hc => htrimmed c (List.mem_reverse.mp hc), List.reverse_reverse,
    List.filter_eq_self.mpr hkept]

theorem IsAuthorityChar.endsAuthority (h : IsAuthorityChar c) (kind : SchemeKind) :
    endsAuthority kind c = false := by
  simp [Url.endsAuthority, h.slash, h.question, h.hash, h.backslash]

/-- A text is read from the authority on that stands behind its scheme and two slashes. -/
theorem parse_eq {scheme : List Char} (hs : ∀ c ∈ s, 0x20 < c.toNat)
    (hsplit : splitScheme? s = some (scheme, '/' :: '/' :: t))
    (ht : ∀ c ∈ t, IsAuthorityChar c) (hkind : SchemeKind.of scheme ≠ .file) :
    parse s = parseAuthority scheme (SchemeKind.of scheme) t := by
  rw [parse, clean_of_visible hs, hsplit]
  have hslash : t.dropWhile (fun c => c = '/' || c = '\\') = t :=
    dropWhile_of_forall fun c hc => by simp [(ht c hc).slash, (ht c hc).backslash]
  cases hk : SchemeKind.of scheme with
  | web port =>
    simp only [hk]
    exact congrArg (parseAuthority scheme (.web port)) hslash
  | file => exact absurd hk hkind
  | opaqueHost => simp only [hk]

/-! ## User information -/

theorem takeWhile_authority (hs : ∀ c ∈ s, IsAuthorityChar c) (kind : SchemeKind) :
    s.takeWhile (!endsAuthority kind ·) = s ∧ s.dropWhile (!endsAuthority kind ·) = [] := by
  have h : ∀ c ∈ s, (!endsAuthority kind c) = true := fun c hc => by
    rw [(hs c hc).endsAuthority kind]
    rfl
  exact ⟨List.takeWhile_eq_self_iff.mpr h, List.dropWhile_eq_nil_iff.mpr h⟩

theorem splitUserInfo_none (hs : ∀ c ∈ s, IsAuthorityChar c) (hat : '@' ∉ s) :
    splitUserInfo kind s = .ok ⟨[], [], s⟩ := by
  obtain ⟨htake, -⟩ := takeWhile_authority hs kind
  rw [splitUserInfo]
  simp only [htake, splitLast?_eq_none.mpr hat]

theorem splitUserInfo_some {user : List Char} (hs : ∀ c ∈ user ++ '@' :: t, IsAuthorityChar c)
    (hat : '@' ∉ t) (huser : user ≠ []) (hcolon : ':' ∉ user) :
    splitUserInfo kind (user ++ '@' :: t) =
      .ok ⟨Percent.encode isReservedInUserInfo user, [], t⟩ := by
  obtain ⟨htake, hdrop⟩ := takeWhile_authority hs kind
  have hfree : ∀ c ∈ user, decide (c ≠ ':') = true := by
    rintro c hc
    refine decide_eq_true ?_
    rintro rfl
    exact hcolon hc
  have hname := List.takeWhile_eq_self_iff.mpr hfree
  have hpassword := List.dropWhile_eq_nil_iff.mpr hfree
  rw [splitUserInfo]
  simp only [htake, hdrop, splitLast?_append user hat, hname, hpassword, List.append_nil]
  rfl

/-! ## Host and port -/

/-- The port that a scheme usually has. -/
def SchemeKind.usualPort : SchemeKind → Option UInt16
  | .web port => some port
  | .file | .opaqueHost => none

theorem parsePort_toDigits (usual : Option UInt16) (port : UInt16) :
    parsePort usual (Nat.toDigits 10 port.toNat) =
      .ok (if usual = some port then none else some port) := by
  have hlt := port.toNat_lt
  have hdigits := digits_toDigits_append (by decide) (by decide : 10 ≤ 16) port.toNat
    (noDigit_nil 10)
  have hrest := rest_toDigits_append (by decide) (by decide : 10 ≤ 16) port.toNat (noDigit_nil 10)
  rw [List.append_nil] at hdigits hrest
  rw [parsePort]
  simp only [hdigits, hrest, value_toDigits (by decide : 1 < 10) (by decide : 10 ≤ 16),
    UInt16.ofNat_toNat]
  rw [if_neg (by omega), List.head?_nil, Option.any_none, if_neg (by decide)]
  by_cases hport : usual = some port
  · simp [hport]
  · simp [hport, Nat.toDigits_ne_nil]

/-- A text that is read as a host, and ends in front of a colon. -/
structure HostText (kind : SchemeKind) (t : List Char) (host : UrlHost) : Prop where
  ends (s : List Char) : hostLength kind false (t ++ ':' :: s) = t.length
  reads : (if kind.isSpecial then parseDomain t else parseOpaque t) = .ok host
  ne_nil : t ≠ []
  ne_empty : host ≠ .domain []

theorem parseAuthority_eq {scheme : List Char} {info : UserInfo} {host : UrlHost} {port : UInt16}
    (hinfo : splitUserInfo kind s = .ok info)
    (hrest : info.rest = t ++ ':' :: Nat.toDigits 10 port.toNat) (hhost : HostText kind t host) :
    parseAuthority scheme kind s = .ok ⟨scheme, info.userName, info.password, some host,
      if kind.usualPort = some port then none else some port⟩ := by
  have hreads := hhost.reads
  cases kind <;>
    simp only [SchemeKind.isSpecial, if_true, Bool.false_eq_true, if_false] at hreads <;>
    simp [parseAuthority, bind, Except.bind, hinfo, hrest, hhost.ends, hreads, hhost.ne_nil,
      hhost.ne_empty, parsePort_toDigits, SchemeKind.isSpecial, SchemeKind.usualPort]

theorem hostLength_append {inBrackets : Bool} (ht : ∀ c ∈ t, IsAuthorityChar c)
    (hopen : '[' ∉ t) (hclose : ']' ∉ t) (hcolon : ':' ∈ t → inBrackets = true) (s : List Char) :
    hostLength kind inBrackets (t ++ s) = t.length + hostLength kind inBrackets s := by
  induction t with
  | nil => exact (Nat.zero_add _).symm
  | cons c t ih =>
    obtain ⟨hc, ht⟩ := List.forall_mem_cons.mp ht
    rw [List.mem_cons, not_or] at hopen hclose
    have hgoes : ¬((c = ':' && !inBrackets) || endsAuthority kind c) = true := by
      rw [hc.endsAuthority kind, Bool.or_false]
      intro h
      simp only [Bool.and_eq_true, decide_eq_true_eq, Bool.not_eq_true'] at h
      obtain ⟨rfl, hout⟩ := h
      exact Bool.false_ne_true (hout.symm.trans (hcolon List.mem_cons_self))
    rw [List.cons_append, hostLength, if_neg hgoes]
    dsimp only
    rw [if_neg (Ne.symm hopen.1), if_neg (Ne.symm hclose.1),
      ih ht hopen.2 hclose.2 fun h => hcolon (List.mem_cons_of_mem c h), List.length_cons]
    omega

theorem hostLength_colon (kind : SchemeKind) (s : List Char) :
    hostLength kind false (':' :: s) = 0 := rfl

theorem hostLength_brackets (ht : ∀ c ∈ t, IsAuthorityChar c) (hopen : '[' ∉ t) (hclose : ']' ∉ t)
    (s : List Char) :
    hostLength kind false ('[' :: (t ++ [']']) ++ ':' :: s) = ('[' :: (t ++ [']'])).length := by
  have hinner : hostLength kind true (t ++ ']' :: ':' :: s) =
      t.length + hostLength kind true (']' :: ':' :: s) :=
    hostLength_append ht hopen hclose (fun _ => rfl) _
  have hbracket : hostLength kind true (']' :: ':' :: s) = 1 := by cases kind <;> rfl
  have houter : hostLength kind false ('[' :: (t ++ ']' :: ':' :: s)) =
      hostLength kind true (t ++ ']' :: ':' :: s) + 1 := by cases kind <;> rfl
  rw [List.cons_append, List.append_assoc, List.singleton_append, houter, hinner, hbracket]
  simp

end

/-! ## Hosts -/

theorem isAuthorityChar_of_address {c : Char} (h : IsAddressChar c) : IsAuthorityChar c := by
  have hne {d : Char} (hd : ¬IsAddressChar d) : c ≠ d := by
    rintro rfl
    exact hd h
  refine ⟨?_, hne (by decide), hne (by decide), hne (by decide), hne (by decide)⟩
  rcases h with h | rfl | rfl
  · refine Nat.lt_of_not_le fun hlow => ?_
    have hdecimal : ¬(48 ≤ c.toNat ∧ c.toNat ≤ 57) := by omega
    have hsmall : ¬(97 ≤ c.toNat ∧ c.toNat ≤ 102) := by omega
    have hcapital : ¬(65 ≤ c.toNat ∧ c.toNat ≤ 70) := by omega
    simp [isDigit, digit?, hdecimal, hsmall, hcapital] at h
  · decide
  · decide

theorem not_mem_of_address {s : List Char} (hs : ∀ c ∈ s, IsAddressChar c) {c : Char}
    (hc : ¬IsAddressChar c) : c ∉ s := fun hmem => hc (hs c hmem)

theorem parseBracketed_ipv6 (ip : Ipv6) :
    parseBracketed ('[' :: (ip.chars ++ [']'])) = .ok (.ipv6 ip) := by
  have hlast : ('[' :: (ip.chars ++ [']'])).getLast? = some ']' := by
    rw [← List.cons_append, List.getLast?_concat]
  have hparse : Ipv6.parse? ip.chars = some ip := Ipv6.parse?_eq_some.mpr ip.spells_chars
  rw [parseBracketed, if_pos hlast, List.drop_succ_cons, List.drop_zero, List.dropLast_concat,
    hparse]

/-- An IPv6 address in brackets is a host of every URL. -/
theorem hostText_ipv6 (kind : SchemeKind) (ip : Ipv6) :
    HostText kind ('[' :: (ip.chars ++ [']'])) (.ipv6 ip) where
  ends s := by
    have hchars := ip.spells_chars.isAddressChar
    exact hostLength_brackets (fun c hc => isAuthorityChar_of_address (hchars c hc))
      (not_mem_of_address hchars (by decide)) (not_mem_of_address hchars (by decide)) s
  reads := by
    rw [parseDomain, parseOpaque, List.head?_cons, if_pos rfl, if_pos rfl, ite_self]
    exact parseBracketed_ipv6 ip
  ne_nil := List.cons_ne_nil _ _
  ne_empty := nofun

section

open Idna

variable {t : List Char}

theorem isAuthorityChar_of_plain {c : Char} (h : IsPlainChar c) : IsAuthorityChar c := by
  have hne {d : Char} (hd : ¬IsPlainChar d) : c ≠ d := by
    rintro rfl
    exact hd h
  have hnum := h.toNat
  exact ⟨by omega, hne (by decide), hne (by decide), hne (by decide), hne (by decide)⟩

theorem not_mem_of_plain (ht : ∀ c ∈ t, IsPlainChar c) {c : Char} (hc : ¬IsPlainChar c) : c ∉ t :=
  fun hmem => hc (ht c hmem)

theorem head?_ne_bracket (ht : ∀ c ∈ t, IsPlainChar c) : t.head? ≠ some '[' := fun h =>
  not_mem_of_plain ht (by decide) (List.mem_of_head? h)

theorem hostLength_plain (ht : ∀ c ∈ t, IsPlainChar c) (kind : SchemeKind) (s : List Char) :
    hostLength kind false (t ++ ':' :: s) = t.length := by
  have hcolon : ':' ∉ t := not_mem_of_plain ht (by decide)
  rw [hostLength_append (fun c hc => isAuthorityChar_of_plain (ht c hc))
    (not_mem_of_plain ht (by decide)) (not_mem_of_plain ht (by decide))
    (fun h => absurd h hcolon), hostLength_colon]
  rfl

theorem parseOpaque_plain (ht : ∀ c ∈ t, IsPlainChar c) : parseOpaque t = .ok (.domain t) := by
  have hallowed : t.any isForbiddenOpaque = false := by
    rw [List.any_eq_false]
    intro c hc
    have hnum := (ht c hc).toNat
    have hnone : "\t\n\r #/:<>?@[\\]^|".toList.any (IsPlainChar ·) = false := by decide
    have hmem : c ∉ "\t\n\r #/:<>?@[\\]^|".toList := fun h =>
      List.any_eq_false.mp hnone c h (decide_eq_true (ht c hc))
    rw [isForbiddenOpaque, Bool.not_eq_true, Bool.or_eq_false_iff, List.contains_eq_mem]
    exact ⟨decide_eq_false (by omega), decide_eq_false hmem⟩
  have hfree : ∀ c ∈ t, Percent.IsFree Percent.isControl c := by
    intro c hc
    have hnum := (ht c hc).toNat
    refine ⟨by omega, ?_⟩
    rw [Percent.isControl, Bool.or_eq_false_iff]
    exact ⟨decide_eq_false (by omega), decide_eq_false (by omega)⟩
  rw [parseOpaque, if_neg (head?_ne_bracket ht), hallowed, if_neg Bool.false_ne_true,
    Percent.encode_of_free hfree]

theorem parseDomain_plain (ht : ∀ c ∈ t, IsPlainChar c) (hne : t ≠ []) :
    parseDomain t = if endsInNumber t then
      (match parseIpv4? t with
        | some ip => .ok (.ipv4 ip)
        | none => .error .invalidIpv4)
      else .ok (.domain t) := by
  have hpercent : 0x25 ∉ Utf8.encodeChars t := by
    rw [Utf8.mem_encodeChars (by decide)]
    exact not_mem_of_plain ht (by decide)
  rw [parseDomain, if_neg (head?_ne_bracket ht), Percent.decode_of_not_mem hpercent,
    toAscii_encodeChars ht]
  cases t with
  | nil => exact absurd rfl hne
  | cons c t => rfl

/-! ### Numbers and IPv4 addresses -/

theorem isNameChar_toDigits (n : Nat) : ∀ c ∈ Nat.toDigits 10 n, IsNameChar c := by
  intro c hc
  obtain ⟨d, hd⟩ := Option.isSome_iff_exists.mp
    (isDigit_of_mem_toDigits (by decide) (by decide : 10 ≤ 16) n c hc)
  obtain ⟨hlt, rfl⟩ := eq_digitChar_of_digit? hd
  interval_cases d <;> decide

theorem isPlainChar_ipv4 (ip : Ipv4) : ∀ c ∈ ip.chars, IsPlainChar c := by
  have hdigits (b : UInt8) : ∀ c ∈ Nat.toDigits 10 b.toNat, IsPlainChar c := fun c hc =>
    .inl (isNameChar_toDigits _ c hc)
  have hdot : IsPlainChar '.' := .inr rfl
  simp only [Ipv4.chars, List.forall_mem_append, List.forall_mem_cons]
  exact ⟨hdigits _, hdot, hdigits _, hdot, hdigits _, hdot, hdigits _⟩

theorem ipv4_ne_nil (ip : Ipv4) : ip.chars ≠ [] :=
  List.append_ne_nil_of_left_ne_nil Nat.toDigits_ne_nil _

theorem nameParts_ipv4 (ip : Ipv4) : nameParts ip.chars =
    [Nat.toDigits 10 ip.a.toNat, Nat.toDigits 10 ip.b.toNat, Nat.toDigits 10 ip.c.toNat,
      Nat.toDigits 10 ip.d.toNat] := by
  rw [nameParts, ip.splitAll_chars]
  exact if_neg fun h => Nat.toDigits_ne_nil (Option.some.inj h)

/-- A number without a zero in front is decimal. -/
theorem ipv4Number?_cons {c : Char} (hc : c ≠ '0') (s : List Char) :
    ipv4Number? (c :: s) =
      if (c :: s).all (isDigit 10) then some (value 10 (c :: s)) else none := by
  unfold ipv4Number?
  split
  rename_i base digits hread
  have hdecimal : (base, digits) = (10, c :: s) := by
    rw [← hread]
    split
    · exact absurd (List.cons.inj ‹_›).1 hc
    · exact absurd (List.cons.inj ‹_›).1 hc
    · exact absurd (List.cons.inj ‹_›).1 hc
    · rfl
  cases hdecimal
  cases hall : (c :: s).all (isDigit 10) <;> rfl

theorem ipv4Number?_toDigits (n : Nat) : ipv4Number? (Nat.toDigits 10 n) = some n := by
  by_cases hzero : (Nat.toDigits 10 n).head? = some '0'
  · rw [eq_zero_of_head?_toDigits (by decide) (by decide) hzero]
    rfl
  · have hds := isDigit_of_mem_toDigits (by decide) (by decide : 10 ≤ 16) n
    have hvalue := value_toDigits (by decide) (by decide : 10 ≤ 16) n
    obtain ⟨c, s, hcons⟩ := List.exists_cons_of_ne_nil (Nat.toDigits_ne_nil (n := n) (b := 10))
    rw [hcons] at hzero hds hvalue
    have hc : c ≠ '0' := fun h => hzero (congrArg some h)
    rw [hcons, ipv4Number?_cons hc, if_pos (List.all_eq_true.mpr hds), hvalue]

theorem ipv4OfNumbers?_bytes (ip : Ipv4) :
    ipv4OfNumbers? [ip.a.toNat, ip.b.toNat, ip.c.toNat, ip.d.toNat] = some ip := by
  obtain ⟨a, b, c, d⟩ := ip
  have ha := a.toNat_lt
  have hb := b.toNat_lt
  have hc := c.toNat_lt
  have hd := d.toNat_lt
  have hfit : ¬(decide (3 < 3) || [c.toNat, b.toNat, a.toNat].any (255 < ·) ||
      decide (256 ≤ d.toNat)) = true := by
    simp only [lt_irrefl, decide_false, Bool.false_or, List.any_cons, List.any_nil, Bool.or_false,
      Bool.or_eq_true, decide_eq_true_eq]
    omega
  have hoctets : Ipv4.ofNat ((((0 * 256 + a.toNat) * 256 + b.toNat) * 256 + c.toNat) * 256 +
      d.toNat) = ⟨a, b, c, d⟩ := by
    simp only [Ipv4.ofNat, Ipv4.mk.injEq, ← UInt8.toNat_inj, UInt8.toNat_ofNat']
    omega
  exact (if_neg hfit).trans (congrArg some hoctets)

theorem parseIpv4?_chars (ip : Ipv4) : parseIpv4? ip.chars = some ip := by
  rw [parseIpv4?, nameParts_ipv4]
  simp only [List.mapM_cons, List.mapM_nil, ipv4Number?_toDigits]
  exact ipv4OfNumbers?_bytes ip

theorem endsInNumber_ipv4 (ip : Ipv4) : endsInNumber ip.chars = true := by
  have hdigits : (Nat.toDigits 10 ip.d.toNat).all (isDigit 10) = true :=
    List.all_eq_true.mpr (isDigit_of_mem_toDigits (by decide) (by decide : 10 ≤ 16) _)
  rw [endsInNumber, nameParts_ipv4]
  show ((Nat.toDigits 10 ip.d.toNat ≠ [] && (Nat.toDigits 10 ip.d.toNat).all (isDigit 10)) || _) =
    true
  rw [hdigits]
  simp [Nat.toDigits_ne_nil]

/-- The last label of a domain name is no number. -/
theorem endsInNumber_domain (ht : IsDomain t) : endsInNumber t = false := by
  obtain ⟨labels, c, l, hsplit, hc⟩ := ht.exists_last
  have hlast : (splitAll (· = '.') t).getLast? = some (c :: l) := by
    rw [hsplit, List.getLast?_concat]
  have hparts : (nameParts t).getLast? = some (c :: l) := by
    rw [nameParts, hlast, if_neg (by simp)]
    exact hlast
  have hdigit : isDigit 10 c = false := by
    refine Bool.eq_false_iff.mpr fun h => ?_
    obtain ⟨d, hd⟩ := Option.isSome_iff_exists.mp h
    obtain ⟨hlt, rfl⟩ := eq_digitChar_of_digit? hd
    interval_cases d <;> cases hc
  have hnot : (c :: l).all (isDigit 10) = false := by
    rw [List.all_cons, hdigit, Bool.false_and]
  have hzero : c ≠ '0' := by
    rintro rfl
    cases hc
  rw [endsInNumber, hparts]
  simp only [hnot, ipv4Number?_cons hzero]
  rfl

/-! ### Which texts are hosts -/

/-- On the web an IPv4 address is recognised. -/
theorem hostText_web_ipv4 (usual : UInt16) (ip : Ipv4) :
    HostText (.web usual) ip.chars (.ipv4 ip) where
  ends := hostLength_plain (isPlainChar_ipv4 ip) _
  reads := by
    show parseDomain ip.chars = _
    rw [parseDomain_plain (isPlainChar_ipv4 ip) (ipv4_ne_nil ip),
      if_pos (endsInNumber_ipv4 ip), parseIpv4?_chars]
  ne_nil := ipv4_ne_nil ip
  ne_empty := nofun

/-- Elsewhere it is a name like any other. -/
theorem hostText_opaque (ht : ∀ c ∈ t, IsPlainChar c) (hne : t ≠ []) :
    HostText .opaqueHost t (.domain t) where
  ends := hostLength_plain ht _
  reads := parseOpaque_plain ht
  ne_nil := hne
  ne_empty := fun h => hne (UrlHost.domain.inj h)

theorem hostText_web_domain (usual : UInt16) (ht : IsDomain t) :
    HostText (.web usual) t (.domain t) where
  ends := hostLength_plain ht.isPlainChar _
  reads := by
    show parseDomain t = _
    rw [parseDomain_plain ht.isPlainChar ht.ne_nil, endsInNumber_domain ht,
      if_neg Bool.false_ne_true]
  ne_nil := ht.ne_nil
  ne_empty := fun h => ht.ne_nil (UrlHost.domain.inj h)

end

end ProxyTunnel.Url

import Mathlib.Data.List.Chain
import Mathlib.Data.List.Infix
import ProxyTunnel.Proofs.Endpoint

/-!
# Colons in front of the port

The port of an endpoint stands behind the last colon of its text, so the text of an IPv6 address
without brackets and port is taken apart there as well.

* `parse_eq_domain_iff`: which texts are read as domain names;
* `Ipv6.Spells.cut`: an IPv6 address up to its last colon is an IPv6 address again if two colons
  stand next to each other in it, and no address otherwise;
* `domain_colon_iff`: a domain name with a colon comes of every text with more than one, and of an
  IPv6 address whose last piece can be a port if what stands in front of it is no address;
* `domain_colon_misread`: so an IPv6 address is read as a domain name.
-/

namespace ProxyTunnel

open Text Text.Numeral Net

/-! ## Colons in addresses -/

/-- No two colons stand next to each other. -/
def Uncompressed (s : List Char) : Prop := s.IsChain fun a b => a = ':' → b ≠ ':'

theorem Uncompressed.not_infix {s : List Char} (h : Uncompressed s) : ¬[':', ':'] <:+: s := by
  intro hinfix
  have hcolons := h.infix hinfix
  rw [List.isChain_pair] at hcolons
  exact hcolons rfl rfl

theorem uncompressed_of_not_mem {s : List Char} (h : ':' ∉ s) : Uncompressed s := by
  refine List.Pairwise.isChain (List.pairwise_of_forall_mem_list fun a ha b _ hcolon => ?_)
  exact absurd (hcolon ▸ ha) h

theorem colon_not_mem_of_isDigit {ds : List Char} (hds : ∀ c ∈ ds, isDigit 16 c = true) :
    ':' ∉ ds := fun h => by cases hds _ h

theorem Ipv4.colon_not_mem (ip : Ipv4) : ':' ∉ ip.chars := by
  have hdigits (n : Nat) : ':' ∉ Nat.toDigits 10 n := fun h => by
    cases isDigit_of_mem_toDigits (by decide) (by decide) n _ h
  simp [chars, hdigits]

namespace Ipv6

variable {gs gs' : List UInt16} {dotted dotted' : Bool} {s t : List Char}

/-- Colons in a row of groups have something else on either side. -/
structure Separated (s : List Char) : Prop where
  uncompressed : Uncompressed s
  head_ne : ':' ∉ s.head?
  last_ne : ':' ∉ s.getLast?

theorem separated_of_not_mem (h : ':' ∉ s) : Separated s where
  uncompressed := uncompressed_of_not_mem h
  head_ne hc := h (List.mem_of_mem_head? hc)
  last_ne hc := h (List.mem_of_mem_getLast? hc)

theorem Separated.append_colon (hs : Separated s) : Uncompressed (s ++ [':']) := by
  refine List.isChain_append.mpr ⟨hs.uncompressed, .singleton _, fun a ha b _ hcolon => ?_⟩
  exact absurd (hcolon ▸ ha) hs.last_ne

theorem Separated.append (hs : Separated s) (hs' : s ≠ []) (ht : Separated t) (ht' : t ≠ []) :
    Separated (s ++ ':' :: t) where
  uncompressed := by
    have hbehind : Uncompressed (':' :: t) := by
      refine List.isChain_cons.mpr ⟨fun b hb _ hcolon => ?_, ht.uncompressed⟩
      exact absurd (hcolon ▸ hb) ht.head_ne
    refine List.isChain_append.mpr ⟨hs.uncompressed, hbehind, fun a ha b _ hcolon => ?_⟩
    exact absurd (hcolon ▸ ha) hs.last_ne
  head_ne := by
    rw [List.head?_append_of_ne_nil _ hs']
    exact hs.head_ne
  last_ne := by
    rw [List.getLast?_append_of_ne_nil _ (List.cons_ne_nil _ _), List.getLast?_cons_of_ne_nil ht']
    exact ht.last_ne

theorem Row.ne_nil (h : Row gs dotted s) : s ≠ [] := by
  cases h with
  | group hg => exact hg.ne_nil
  | dotted ip => simp [Ipv4.chars]
  | cons hg more => simp

theorem Row.separated (h : Row gs dotted s) : Separated s := by
  induction h with
  | group hg => exact separated_of_not_mem (colon_not_mem_of_isDigit hg.isDigit)
  | dotted ip => exact separated_of_not_mem ip.colon_not_mem
  | cons hg more ih =>
    exact (separated_of_not_mem (colon_not_mem_of_isDigit hg.isDigit)).append hg.ne_nil ih
      more.ne_nil

theorem Part.separated (h : Part gs dotted s) : Separated s := by
  cases h with
  | nil => exact separated_of_not_mem List.not_mem_nil
  | row h => exact h.separated

/-- A row is one piece without colons, or it is cut at its last colon into a row and a piece. -/
theorem Row.cut (h : Row gs dotted s) :
    ':' ∉ s ∨ ∃ before piece t last, gs = before ++ piece ∧ Row before false t ∧
      Row piece dotted last ∧ ':' ∉ last ∧ s = t ++ ':' :: last := by
  induction h with
  | group hg => exact .inl (colon_not_mem_of_isDigit hg.isDigit)
  | dotted ip => exact .inl ip.colon_not_mem
  | @cons g gs ds s dotted hg more ih =>
    rcases ih with hpiece | ⟨before, piece, t, last, rfl, ht, hlast, hcolon, rfl⟩
    · exact .inr ⟨[g], gs, ds, s, rfl, .group hg, more, hpiece, rfl⟩
    · exact .inr ⟨g :: before, piece, ds ++ ':' :: t, last, rfl, .cons hg ht, hlast, hcolon,
        by simp⟩

/-- A row without colons is a group or an IPv4 address. -/
theorem Row.length_le_two (h : Row gs dotted s) (hs : ':' ∉ s) : gs.length ≤ 2 := by
  refine Nat.le_of_not_lt fun hlong => hs ?_
  obtain ⟨ds, t, rfl, -⟩ := h.colonFirst hlong
  exact List.mem_append_right _ List.mem_cons_self

theorem Row.length_pos (h : Row gs dotted s) : 0 < gs.length := by
  cases h <;> simp [groupsOfIpv4]

/-- A text is a row of the same groups in any way it is one. -/
theorem Row.groups_eq (h : Row gs dotted s) (h' : Row gs' dotted' s) : gs = gs' := by
  have hnil : Stops [] := closes_nil.stops
  have hread := readGroups_row h (Nat.le_max_left gs.length gs'.length) hnil true
  rw [readGroups_row h' (Nat.le_max_right gs.length gs'.length) hnil true] at hread
  exact (congrArg Groups.groups hread).symm

/-- Where no two colons stand next to each other only a row of eight groups is an address. -/
theorem Spells.full_of_uncompressed {ip : Ipv6} (h : ip.Spells s) (hs : Uncompressed s) :
    ∃ dotted, Row ip.groups dotted s := by
  cases h with
  | full h => exact ⟨_, h⟩
  | @compressed before behind s t dotted zeros _ _ _ =>
    exact absurd ⟨s, t, by simp⟩ hs.not_infix

/-- An address up to its last colon. If there are two colons next to each other left it is an
address again, and otherwise it is none. -/
theorem Spells.cut {ip : Ipv6} (h : ip.Spells s) :
    ∃ host last, s = host ++ ':' :: last ∧ ':' ∉ last ∧ host ≠ [] ∧ ':' ∈ host ∧
      if [':', ':'] <:+: host then ∃ ip' : Ipv6, ip'.Spells host
      else ∀ ip' : Ipv6, ¬ip'.Spells host := by
  cases h with
  | full h =>
    rcases h.cut with hpiece | ⟨before, piece, t, last, hgroups, ht, hlast, hcolon, rfl⟩
    · have := h.length_le_two hpiece
      rw [ip.length_eq] at this
      omega
    · have hlength : before.length + piece.length = 8 := by
        rw [← List.length_append, ← hgroups, ip.length_eq]
      have htwo := hlast.length_le_two hcolon
      have hmem : ':' ∈ t := by
        by_contra hmem
        have := ht.length_le_two hmem
        omega
      refine ⟨t, last, rfl, hcolon, ht.ne_nil, hmem, ?_⟩
      rw [if_neg ht.separated.uncompressed.not_infix]
      intro ip' hspells
      obtain ⟨dotted', hrow⟩ := hspells.full_of_uncompressed ht.separated.uncompressed
      have hone := hlast.length_pos
      rw [ht.groups_eq hrow, ip'.length_eq] at hlength
      omega
  | @compressed before behind s t dotted zeros hs ht hgroups =>
    -- With one piece behind the two colons the cut is between them.
    have hbetween (hfree : ':' ∉ t) : ∃ host last, s ++ ':' :: ':' :: t = host ++ ':' :: last ∧
        ':' ∉ last ∧ host ≠ [] ∧ ':' ∈ host ∧
        if [':', ':'] <:+: host then ∃ ip' : Ipv6, ip'.Spells host
        else ∀ ip' : Ipv6, ¬ip'.Spells host := by
      have hcolon := hs.separated.append_colon
      refine ⟨s ++ [':'], t, by simp, hfree, by simp, by simp, ?_⟩
      rw [if_neg hcolon.not_infix]
      intro ip' hspells
      obtain ⟨dotted', hrow⟩ := hspells.full_of_uncompressed hcolon
      exact hrow.separated.last_ne (by simp)
    cases ht with
    | nil => exact hbetween List.not_mem_nil
    | row ht =>
      rcases ht.cut with hfree | ⟨front, piece, t, last, rfl, hfront, -, hcolon, rfl⟩
      · exact hbetween hfree
      · refine ⟨s ++ ':' :: ':' :: t, last, by simp, hcolon, by simp, by simp, ?_⟩
        rw [if_pos ⟨s, t, by simp⟩]
        have hlength : (before ++ List.replicate (zeros + piece.length + 1) 0 ++ front).length =
            8 := by
          rw [← ip.length_eq, hgroups]
          simp only [List.length_append, List.length_replicate]
          omega
        exact ⟨⟨_, hlength⟩, .compressed (zeros + piece.length) hs (.row hfront) rfl⟩

/-- No address is a socket address as it stands. -/
theorem Spells.socket_eq_none {ip : Ipv6} (h : ip.Spells s) : SocketAddress.parse? s = none := by
  have hv4 : SocketAddress.parseV4? s = none := by
    rw [SocketAddress.parseV4?, h.read?_eq_none]
    rfl
  rw [SocketAddress.parse?, hv4, Option.none_or]
  refine Option.eq_none_iff_forall_ne_some.mpr fun a ha => ?_
  have hbracket := (SocketAddress.parseV6?_eq_some ha).1
  exact absurd (h.isAddressChar _ (List.mem_of_mem_head? hbracket)) (by decide)

end Ipv6

namespace Endpoint

variable {text : String}

/-- A text is taken apart at its last colon unless it is a socket address as it stands. -/
theorem parse_of_splitLast {host last : List Char}
    (hsocket : SocketAddress.parse? text.toList = none)
    (hsplit : text.toList = host ++ ':' :: last) (hlast : ':' ∉ last) :
    parse text = match port? last with
      | none => .error (.invalidPort text (String.ofList last))
      | some n =>
        if host = [] ∨ host.head? = some '[' then .error (.noHost text)
        else .ok (ofHost host n) := by
  rw [parse, hsocket]
  cases hport : port? last <;> simp only [hsplit, splitLast?_append host hlast, hport]

theorem ofHost_eq_domain {host : List Char} {name : String} {n port : UInt16} :
    ofHost host n = .domain name port ↔
      IpAddress.parse? host = none ∧ host = name.toList ∧ n = port := by
  rw [ofHost]
  cases IpAddress.parse? host with
  | some ip => simp
  | none =>
    simp only [domain.injEq, true_and, and_congr_left_iff]
    intro _
    constructor
    · rintro rfl
      exact String.toList_ofList.symm
    · rintro rfl
      exact String.ofList_toList

/-- The texts that are read as a domain name: a name that a text can say, a colon, and a port. -/
theorem parse_eq_domain_iff {name : String} {port : UInt16} :
    parse text = .ok (.domain name port) ↔ (domain name port).IsTextual ∧
      ∃ last, text.toList = name.toList ++ ':' :: last ∧ ':' ∉ last ∧ port? last = some port := by
  constructor
  · intro h
    refine ⟨isTextual_of_parse h, ?_⟩
    rw [parse] at h
    split at h
    · cases h
    · rename_i hsocket
      cases hsplit : splitLast? ':' text.toList with
      | none => simp [hsplit] at h
      | some cut =>
        obtain ⟨htext, hlast⟩ := eq_append_of_splitLast? hsplit
        refine ⟨cut.2, ?_⟩
        simp only [hsplit] at h
        split at h
        · cases h
        · rename_i n hport
          split at h
          · cases h
          · obtain ⟨-, hname, rfl⟩ := ofHost_eq_domain.mp (Except.ok.inj h)
            exact ⟨hname ▸ htext, hlast, hport⟩
  · rintro ⟨⟨hempty, hhead, hname⟩, last, htext, hlast, hport⟩
    have hnil : name.toList ≠ [] := by simpa using hempty
    have hsocket : SocketAddress.parse? text.toList = none := by
      rw [htext]
      exact parse?_domain hnil hhead hname hlast
    rw [parse_of_splitLast hsocket htext hlast, hport]
    simp [hempty, hhead, ofHost, hname]

/-- What the text of an IPv6 address is read as: its last piece is the port. -/
theorem parse_of_spells {ip : Ipv6} (h : ip.Spells text.toList) :
    ∃ host last, text.toList = host ++ ':' :: last ∧ ':' ∉ last ∧ ':' ∈ host ∧
      match port? last with
      | none => parse text = .error (.invalidPort text (String.ofList last))
      | some port =>
        if [':', ':'] <:+: host then
          ∃ ip' : Ipv6, ip'.Spells host ∧ parse text = .ok (.socket (.v6 ip' port 0 0))
        else parse text = .ok (.domain (String.ofList host) port) := by
  obtain ⟨host, last, htext, hlast, hnil, hcolon, haddress⟩ := h.cut
  have hhead : host.head? ≠ some '[' := by
    intro hhead
    have hmem : '[' ∈ text.toList := by
      rw [htext]
      exact List.mem_append_left _ (List.mem_of_mem_head? hhead)
    exact absurd (h.isAddressChar _ hmem) (by decide)
  have hparse := parse_of_splitLast h.socket_eq_none htext hlast
  refine ⟨host, last, htext, hlast, hcolon, ?_⟩
  cases hport : port? last with
  | none => rw [hparse, hport]
  | some port =>
    rw [hport] at hparse
    dsimp only at hparse ⊢
    rw [if_neg (not_or.mpr ⟨hnil, hhead⟩)] at hparse
    split <;> rename_i hcolons
    · rw [if_pos hcolons] at haddress
      obtain ⟨ip', hip⟩ := haddress
      refine ⟨ip', hip, ?_⟩
      rw [hparse, ofHost, IpAddress.parse?_eq_some.mpr (.v6 hip)]
      rfl
    · rw [if_neg hcolons] at haddress
      have hname : IpAddress.parse? host = none := by
        refine Option.eq_none_iff_forall_ne_some.mpr fun ip' hip => ?_
        cases IpAddress.parse?_eq_some.mp hip with
        | v4 ip' => exact ip'.colon_not_mem hcolon
        | v6 hip => exact haddress _ hip
      rw [hparse, ofHost, hname]

/-- Exactly the texts with a name in front of a port are read as domain names, and the name has a
colon when there are two or more in the text. The text of an IPv6 address is among them when its
last piece can be a port and no two colons stand next to each other in front of it. -/
theorem domain_colon_iff (text : String) :
    (∀ name port, parse text = .ok (.domain name port) ↔ (domain name port).IsTextual ∧
      ∃ last, text.toList = name.toList ++ ':' :: last ∧ ':' ∉ last ∧ port? last = some port) ∧
    (∀ name port, parse text = .ok (.domain name port) →
      (':' ∈ name.toList ↔ 1 < text.toList.count ':')) ∧
    ∀ ip : Ipv6, ip.Spells text.toList → ∃ host last, text.toList = host ++ ':' :: last ∧
      ':' ∉ last ∧ ':' ∈ host ∧
      match port? last with
      | none => parse text = .error (.invalidPort text (String.ofList last))
      | some port =>
        if [':', ':'] <:+: host then
          ∃ ip' : Ipv6, ip'.Spells host ∧ parse text = .ok (.socket (.v6 ip' port 0 0))
        else parse text = .ok (.domain (String.ofList host) port) := by
  refine ⟨fun name port => parse_eq_domain_iff, fun name port h => ?_, fun ip => parse_of_spells⟩
  obtain ⟨-, last, htext, hlast, -⟩ := parse_eq_domain_iff.mp h
  have hcount : text.toList.count ':' = name.toList.count ':' + 1 := by
    rw [htext, List.count_append, List.count_cons_self, List.count_eq_zero.mpr hlast]
  rw [hcount, ← List.count_pos_iff]
  omega

/-- An address that is left out in part up to its last piece is no socket address without it. -/
theorem domain_colon_iff_compressed :
    ∃ ip : Ipv6, ip.Spells "2001:db8::1".toList ∧
      parse "2001:db8::1" = .ok (.domain "2001:db8:" 1) := by
  have hip : Ipv6.parse? "2001:db8::1".toList =
      some ⟨[0x2001, 0xdb8, 0, 0, 0, 0, 0, 1], rfl⟩ := by decide
  have hspells := Ipv6.parse?_eq_some.mp hip
  refine ⟨_, hspells, ?_⟩
  obtain ⟨host, last, htext, hlast, -, h⟩ := (domain_colon_iff "2001:db8::1").2.2 _ hspells
  have hsplit := splitLast?_append host hlast
  rw [← htext, show splitLast? ':' "2001:db8::1".toList =
    some (['2', '0', '0', '1', ':', 'd', 'b', '8', ':'], ['1']) by decide] at hsplit
  cases hsplit
  rw [show port? ['1'] = some 1 by decide] at h
  have hcolons : ¬[':', ':'] <:+: ['2', '0', '0', '1', ':', 'd', 'b', '8', ':'] := by decide
  dsimp only at h
  rw [if_neg hcolons] at h
  exact h

/-- The text of an IPv6 address without a port is read as a domain name that has a colon in it. -/
theorem domain_colon_misread :
    ∃ (ip : Ipv6) (name : String) (port : UInt16), ip.Spells "1:2:3:4:5:6:7:8".toList ∧
      parse "1:2:3:4:5:6:7:8" = .ok (.domain name port) ∧ ':' ∈ name.toList :=
  ⟨⟨[1, 2, 3, 4, 5, 6, 7, 8], rfl⟩, "1:2:3:4:5:6:7", 8, Ipv6.parse?_eq_some.mp (by decide),
    by decide, by decide⟩

end Endpoint

end ProxyTunnel

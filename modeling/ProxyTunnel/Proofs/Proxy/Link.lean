import ProxyTunnel.Proxy.Link
import ProxyTunnel.Proofs.Url

/-!
# Proxy URLs are read back

The URL of a proxy server gives the server and the user name back, and all that it does not tell as
nothing: no password, no user agent, no verification (`parse_of_display`). This holds of all servers
that a URL names in one way only (`IsLinkable`), on the usual port of the scheme or not, and of all
user names but the empty one: what would end the user name, or would be dropped from a URL, is
escaped (`isAuthorityChar_userChars`), and the escapes are undone (`decodeUserInfo_userChars`).
-/

namespace ProxyTunnel.Proxy

open Text Url Idna

/-! ## User names -/

/-- The user name in a URL. -/
def userChars (userName : String) : List Char :=
  Percent.encode isReservedInUserName userName.toList

/-- What is escaped in user information is escaped in user names to begin with. -/
theorem isReservedInUserName_of_userInfo {c : Char} (h : isReservedInUserInfo c = true) :
    isReservedInUserName c = true := by
  have hsub : " \"#<>?`\x7b\x7d/:;=@[\\]^|".toList.all
      " \"#%/:;<=>?@[\\]^`\x7b|\x7d".toList.contains = true := by decide
  rw [isReservedInUserInfo, Bool.or_eq_true] at h
  rw [isReservedInUserName, Bool.or_eq_true]
  exact h.imp_right fun hmem => List.all_eq_true.mp hsub c (List.contains_iff_mem.mp hmem)

theorem isFree_upperDigit {d : Nat} (hd : d < 16) :
    Percent.IsFree isReservedInUserName (Percent.upperDigit d) := by
  interval_cases d <;> exact ⟨by decide, by decide⟩

/-- A character of a user name in a URL. -/
theorem mem_userChars {userName : String} {c : Char} (h : c ∈ userChars userName) :
    c = '%' ∨ Percent.IsFree isReservedInUserName c := by
  rcases Percent.mem_encode h with hfree | hpercent | ⟨d, hd, rfl⟩
  · exact .inr hfree
  · exact .inl hpercent
  · exact .inr (isFree_upperDigit hd)

theorem ne_of_free {c d : Char} (h : Percent.IsFree isReservedInUserName c)
    (hd : isReservedInUserName d = true) : c ≠ d := by
  rintro rfl
  exact Bool.false_ne_true (h.2.symm.trans hd)

theorem isAuthorityChar_of_free {c : Char} (h : Percent.IsFree isReservedInUserName c) :
    IsAuthorityChar c := by
  have hblank : c ≠ ' ' := ne_of_free h (by decide)
  have hcontrol : Percent.isControl c = false := by
    have hfree := h.2
    rw [isReservedInUserName, Bool.or_eq_false_iff] at hfree
    exact hfree.1
  have hlow : ¬c.toNat < 0x20 := by
    rw [Percent.isControl, Bool.or_eq_false_iff] at hcontrol
    exact of_decide_eq_false hcontrol.1
  have hne : c.toNat ≠ 0x20 := fun heq => hblank (Char.toNat_inj.mp heq)
  exact ⟨by omega, ne_of_free h (by decide), ne_of_free h (by decide), ne_of_free h (by decide),
    ne_of_free h (by decide)⟩

/-- A user name is written without anything that has a meaning in a URL. -/
theorem isAuthorityChar_userChars (userName : String) :
    ∀ c ∈ userChars userName, IsAuthorityChar c ∧ c ≠ '@' ∧ c ≠ ':' := by
  intro c hc
  rcases mem_userChars hc with rfl | hfree
  · exact ⟨⟨by decide, by decide, by decide, by decide, by decide⟩, by decide, by decide⟩
  · exact ⟨isAuthorityChar_of_free hfree, ne_of_free hfree (by decide),
      ne_of_free hfree (by decide)⟩

/-- A URL takes the user name as it is written. -/
theorem encode_userChars (userName : String) :
    Percent.encode isReservedInUserInfo (userChars userName) = userChars userName := by
  refine Percent.encode_of_free fun c hc => ?_
  rcases mem_userChars hc with rfl | ⟨hascii, hfree⟩
  · exact ⟨by decide, by decide⟩
  · refine ⟨hascii, Bool.eq_false_iff.mpr fun h => ?_⟩
    exact Bool.false_ne_true (hfree.symm.trans (isReservedInUserName_of_userInfo h))

theorem decodeUserInfo_userChars (userName : String) :
    decodeUserInfo (userChars userName) = .ok userName := by
  have hdecode : Percent.decode (Utf8.encodeChars (userChars userName)) = Utf8.encode userName :=
    Percent.decode_encode (by decide) _
  rw [decodeUserInfo, hdecode, Utf8.decode_encode]
  rfl

theorem userChars_ne_nil {userName : String} (h : userName ≠ "") : userChars userName ≠ [] :=
  Percent.encode_ne_nil (by simpa using h)

/-! ## Servers -/

/-- The servers that a URL names in one way only: IPv4 addresses, IPv6 addresses without scope and
flow information, and domain names of small letters and digits. -/
inductive IsLinkable : Endpoint → Prop where
  | ipv4 (ip : Ipv4) (port : UInt16) : IsLinkable (.socket (.v4 ip port))
  | ipv6 (ip : Ipv6) (port : UInt16) : IsLinkable (.socket (.v6 ip port 0 0))
  | domain {name : String} (h : IsDomain name.toList) (port : UInt16) :
    IsLinkable (.domain name port)

/-- No domain name spells an IP address. -/
theorem parse?_domain {s : List Char} (hs : IsDomain s) : IpAddress.parse? s = none := by
  rw [Option.eq_none_iff_forall_ne_some]
  intro ip hip
  cases IpAddress.parse?_eq_some.mp hip with
  | v4 ip =>
    exact Bool.false_ne_true ((endsInNumber_domain hs).symm.trans (endsInNumber_ipv4 ip))
  | v6 h =>
    obtain ⟨ds, t, rfl, -⟩ := h.colonFirst
    have hcolon : IsPlainChar ':' := hs.isPlainChar ':' (by simp)
    exact absurd hcolon (by decide)

theorem authority_of_plain {c : Char} (h : IsPlainChar c) : IsAuthorityChar c ∧ c ≠ '@' := by
  refine ⟨isAuthorityChar_of_plain h, ?_⟩
  rintro rfl
  exact absurd h (by decide)

theorem authority_of_address {c : Char} (h : IsAddressChar c) : IsAuthorityChar c ∧ c ≠ '@' := by
  refine ⟨isAuthorityChar_of_address h, ?_⟩
  rintro rfl
  exact absurd h (by decide)

/-- A server in a URL: a host text in front of the port, read as a host that stands for the
server. -/
structure Hosts (kind : SchemeKind) (e : Endpoint) (t : List Char) (host : UrlHost) : Prop where
  chars : e.chars = t ++ ':' :: Nat.toDigits 10 e.port.toNat
  reads : HostText kind t host
  authority : ∀ c ∈ t, IsAuthorityChar c ∧ c ≠ '@'
  server : serverOfHost host e.port = e

theorem hosts_ipv4 {kind : SchemeKind} (hkind : kind ≠ .file) (ip : Ipv4) (port : UInt16) :
    ∃ host, Hosts kind (.socket (.v4 ip port)) ip.chars host := by
  have hauthority : ∀ c ∈ ip.chars, IsAuthorityChar c ∧ c ≠ '@' := fun c hc =>
    authority_of_plain (isPlainChar_ipv4 ip c hc)
  cases kind with
  | web usual => exact ⟨.ipv4 ip, rfl, hostText_web_ipv4 usual ip, hauthority, rfl⟩
  | file => exact absurd rfl hkind
  | opaqueHost =>
    have hreads := hostText_opaque (isPlainChar_ipv4 ip) (ipv4_ne_nil ip)
    refine ⟨.domain ip.chars, rfl, hreads, hauthority, ?_⟩
    rw [serverOfHost, Endpoint.ofHost, IpAddress.parse?_eq_some.mpr (.v4 ip)]
    rfl

theorem hosts_ipv6 (kind : SchemeKind) (ip : Ipv6) (port : UInt16) :
    Hosts kind (.socket (.v6 ip port 0 0)) ('[' :: (ip.chars ++ [']'])) (.ipv6 ip) where
  chars := by simp [Endpoint.chars, SocketAddress.chars, Endpoint.port, SocketAddress.port]
  reads := hostText_ipv6 kind ip
  authority := by
    have hinner : ∀ c ∈ ip.chars, IsAuthorityChar c ∧ c ≠ '@' := fun c hc =>
      authority_of_address (ip.spells_chars.isAddressChar c hc)
    have hbracket (c : Char) (h : c = '[' ∨ c = ']') : IsAuthorityChar c ∧ c ≠ '@' := by
      rcases h with rfl | rfl <;>
        exact ⟨⟨by decide, by decide, by decide, by decide, by decide⟩, by decide⟩
    simp only [List.forall_mem_cons, List.forall_mem_append]
    exact ⟨hbracket _ (.inl rfl), hinner, hbracket _ (.inr rfl), List.forall_mem_nil _⟩
  server := rfl

theorem hosts_domain {kind : SchemeKind} (hkind : kind ≠ .file) {name : String}
    (h : IsDomain name.toList) (port : UInt16) :
    Hosts kind (.domain name port) name.toList (.domain name.toList) where
  chars := rfl
  reads := by
    cases kind with
    | web usual => exact hostText_web_domain usual h
    | file => exact absurd rfl hkind
    | opaqueHost => exact hostText_opaque h.isPlainChar h.ne_nil
  authority c hc := authority_of_plain (h.isPlainChar c hc)
  server := by
    show Endpoint.ofHost name.toList port = _
    rw [Endpoint.ofHost, parse?_domain h, String.ofList_toList]

/-- Such a server can be the host of every URL but those of files. -/
theorem IsLinkable.hosts {e : Endpoint} (h : IsLinkable e) {kind : SchemeKind}
    (hkind : kind ≠ .file) : ∃ t host, Hosts kind e t host := by
  cases h with
  | ipv4 ip port => exact ⟨_, hosts_ipv4 hkind ip port⟩
  | ipv6 ip port => exact ⟨_, _, hosts_ipv6 kind ip port⟩
  | domain h port => exact ⟨_, _, hosts_domain hkind h port⟩

/-! ## Whole URLs -/

section

variable {kind : SchemeKind} {e : Endpoint} {t : List Char} {host : UrlHost}

theorem isAuthorityChar_server (h : Hosts kind e t host) :
    ∀ c ∈ e.chars, IsAuthorityChar c ∧ c ≠ '@' := by
  have hport : ∀ c ∈ ':' :: Nat.toDigits 10 e.port.toNat, IsAuthorityChar c ∧ c ≠ '@' := by
    intro c hc
    rcases List.mem_cons.mp hc with rfl | hc
    · exact authority_of_address (by decide)
    · exact authority_of_address (isAddressChar_toDigits _ c hc)
  rw [h.chars]
  exact List.forall_mem_append.mpr ⟨h.authority, hport⟩

/-- The user information of a URL, with its sign. -/
def userInfo : Option Credential → List Char
  | some c => userChars c.userName ++ ['@']
  | none => []

/-- The user name that a URL is read to have. -/
def userName : Option Credential → List Char
  | some c => userChars c.userName
  | none => []

theorem isAuthorityChar_authority (h : Hosts kind e t host) (credential : Option Credential) :
    ∀ c ∈ userInfo credential ++ e.chars, IsAuthorityChar c := by
  have hserver := isAuthorityChar_server h
  refine List.forall_mem_append.mpr ⟨?_, fun c hc => (hserver c hc).1⟩
  cases credential with
  | none => exact List.forall_mem_nil _
  | some c =>
    rw [userInfo, List.forall_mem_append, List.forall_mem_singleton]
    exact ⟨fun x hx => (isAuthorityChar_userChars _ x hx).1,
      by decide, by decide, by decide, by decide, by decide⟩

theorem splitUserInfo_userInfo (h : Hosts kind e t host) {credential : Option Credential}
    (hc : ∀ c, credential = some c → c.userName ≠ "") :
    splitUserInfo kind (userInfo credential ++ e.chars) =
      .ok ⟨userName credential, [], e.chars⟩ := by
  have hauthority := isAuthorityChar_authority h credential
  have hat : '@' ∉ e.chars := fun hmem => (isAuthorityChar_server h '@' hmem).2 rfl
  cases credential with
  | none => exact splitUserInfo_none hauthority hat
  | some c =>
    have hcolon : ':' ∉ userChars c.userName := fun hmem =>
      (isAuthorityChar_userChars _ ':' hmem).2.2 rfl
    rw [userInfo, List.append_assoc, List.singleton_append] at hauthority ⊢
    rw [splitUserInfo_some hauthority hat (userChars_ne_nil (hc c rfl)) hcolon, encode_userChars,
      userName]

theorem chars_eq (p : Proxy) : p.chars =
    p.protocol.scheme.toList ++ "://".toList ++ (userInfo p.credential ++ p.server.chars) := by
  rw [chars, ← List.append_assoc]
  cases p.credential <;> rfl

theorem splitScheme?_scheme (protocol : Protocol) (s : List Char) :
    splitScheme? (protocol.scheme.toList ++ "://".toList ++ s) =
      some (protocol.scheme.toList, '/' :: '/' :: s) := by
  cases protocol <;> rfl

theorem visible_scheme (protocol : Protocol) :
    ∀ c ∈ protocol.scheme.toList ++ "://".toList, 0x20 < c.toNat := by
  have hall : (protocol.scheme.toList ++ "://".toList).all (0x20 < ·.toNat) = true := by
    cases protocol <;> rfl
  exact fun c hc => of_decide_eq_true (List.all_eq_true.mp hall c hc)

theorem schemeKind_ne_file (protocol : Protocol) :
    SchemeKind.of protocol.scheme.toList ≠ .file := by
  cases protocol <;> decide

/-- The parts of the URL of a proxy server. -/
theorem parse_chars {p : Proxy} (h : Hosts (SchemeKind.of p.protocol.scheme.toList) p.server t host)
    (hc : ∀ c, p.credential = some c → c.userName ≠ "") :
    Url.parse p.chars = .ok ⟨p.protocol.scheme.toList, userName p.credential, [], some host,
      if (SchemeKind.of p.protocol.scheme.toList).usualPort = some p.server.port then none
      else some p.server.port⟩ := by
  have hauthority := isAuthorityChar_authority h p.credential
  have hvisible : ∀ c ∈ p.chars, 0x20 < c.toNat := by
    rw [chars_eq]
    exact List.forall_mem_append.mpr
      ⟨visible_scheme p.protocol, fun c hc => (hauthority c hc).visible⟩
  have hsplit : splitScheme? p.chars = some (p.protocol.scheme.toList,
      '/' :: '/' :: (userInfo p.credential ++ p.server.chars)) := by
    rw [chars_eq]
    exact splitScheme?_scheme _ _
  rw [parse_eq hvisible hsplit hauthority (schemeKind_ne_file _),
    parseAuthority_eq (splitUserInfo_userInfo h hc) h.chars h.reads]

/-- The usual port of a scheme is left out of the parts, and is the port of the protocol. -/
theorem getD_port (protocol : Protocol) (port : UInt16) :
    (if (SchemeKind.of protocol.scheme.toList).usualPort = some port then none
      else some port).getD protocol.defaultPort = port := by
  split
  · rename_i husual
    cases protocol <;> cases husual <;> rfl
  · rfl

theorem credentialOfUrl_userName {url : Url} {credential : Option Credential}
    (huser : url.userName = userName credential) (hpassword : url.password = [])
    (hc : ∀ c, credential = some c → c.userName ≠ "") :
    credentialOfUrl url = .ok (credential.map fun c => ⟨c.userName, ""⟩) := by
  rw [credentialOfUrl, huser, hpassword]
  cases credential with
  | none => rfl
  | some c =>
    have hne : userName (some c) ≠ [] := userChars_ne_nil (hc c rfl)
    rw [if_neg hne, userName, decodeUserInfo_userChars]
    rfl

end

/-- The URL of a proxy server is read as a proxy server of the same protocol at the same place, for
which the user name is known and no more. -/
theorem parse_of_display (p : Proxy) (hs : IsLinkable p.server)
    (hc : ∀ c, p.credential = some c → c.userName ≠ "") :
    parse p.display =
      .ok (ofProtocol p.protocol p.server (p.credential.map fun c => ⟨c.userName, ""⟩)) := by
  obtain ⟨t, host, h⟩ := hs.hosts (schemeKind_ne_file p.protocol)
  have hscheme : protocolOfScheme? p.protocol.scheme.toList = some p.protocol := by
    cases p.protocol <;> rfl
  rw [parse, display, String.toList_ofList, parse_chars h hc]
  simp only [hscheme, getD_port, h.server]
  rw [credentialOfUrl_userName rfl rfl hc]
  rfl

/-- A user name of signs that have a meaning in a URL, on the usual port of the scheme. -/
theorem parse_of_display_signs :
    parse (display (.https (.domain "proxy1.example" 443) (some ⟨"a:b@\t/ü%41", "secret"⟩)
      (some "agent") .webpki)) =
        .ok (.https (.domain "proxy1.example" 443) (some ⟨"a:b@\t/ü%41", ""⟩) none .disabled) := by
  have hall {l : List Char} (h : l.all (IsNameChar ·) = true) : ∀ c ∈ l, IsNameChar c :=
    fun c hc => of_decide_eq_true (List.all_eq_true.mp h c hc)
  have hname : IsDomain "proxy1.example".toList :=
    .label (l := "proxy1".toList) (by decide) (hall rfl)
      (.last (c := 'e') (l := "xample".toList) rfl (hall rfl))
  refine parse_of_display (.https (.domain "proxy1.example" 443) _ _ _) (.domain hname 443) ?_
  rintro c ⟨⟩
  decide

end ProxyTunnel.Proxy

import ProxyTunnel.Proofs.Endpoint
import ProxyTunnel.Proofs.Http.Request
import ProxyTunnel.Proofs.Socks.Version4
import ProxyTunnel.Proofs.Socks.Version5

/-!
# Targets are the same in every protocol

An IP address is a target as a socket address, or under a domain name that is one of its texts, with
brackets or without (`Endpoint.Spelled`, `spelled_domain`).

* `sentAsAddress_of_spelled`, `sentAlike_of_normalize`: whichever way an address is spelled, each
  protocol sends the address, in the same bytes, or refuses it in the same way;
* `sentVerbatim`: any other name is sent as it is;
* `spelled_sent`: both together, and that normalizing twice is normalizing once.
-/

namespace ProxyTunnel.Endpoint

open Text Net Socks Http

variable {ip : IpAddress} {name : String} {port : UInt16} {e e' : Endpoint}

/-! ## Spellings -/

/-- The target is the address with the port, in one of its spellings. -/
inductive Spelled (ip : IpAddress) (port : UInt16) : Endpoint → Prop
  | socket : Spelled ip port (.socket (.ofIp ip port))
  | plain {text : String} (h : ip.Spells text.toList) : Spelled ip port (.domain text port)
  | bracketed {text : String} (h : ip.Spells text.toList) :
    Spelled ip port (.domain ("[" ++ text ++ "]") port)

theorem unbracket_brackets (s : List Char) : unbracket ('[' :: (s ++ [']'])) = s := by
  rw [unbracket, List.getLast?_concat, if_pos rfl, List.dropLast_concat]

/-- Brackets are taken off, or the text is left as it is. -/
theorem unbracket_cases (s : List Char) :
    unbracket s = s ∨ s = '[' :: (unbracket s ++ [']']) := by
  fun_cases unbracket s with
  | case1 t hlast => exact .inr (by rw [List.dropLast_append_getLast? _ hlast])
  | case2 => exact .inl rfl
  | case3 => exact .inl rfl

theorem unbracket_of_spells {s : List Char} (h : ip.Spells s) : unbracket s = s := by
  refine unbracket_of_head fun hhead => ?_
  have hbracket : IsAddressChar '[' :=
    IpAddress.isAddressChar_of_spells h '[' (List.mem_of_mem_head? hhead)
  exact absurd hbracket (by decide)

/-- A domain name is a spelling of the address just if one of its texts is left without brackets. -/
theorem spelled_domain :
    Spelled ip port (.domain name port) ↔ ip.Spells (unbracket name.toList) := by
  constructor
  · intro h
    cases h with
    | plain h => rwa [unbracket_of_spells h]
    | @bracketed text h =>
      have hname : ("[" ++ text ++ "]").toList = '[' :: (text.toList ++ [']']) := by simp
      rwa [hname, unbracket_brackets]
  · intro h
    obtain hplain | hbrackets := unbracket_cases name.toList
    · exact .plain (hplain ▸ h)
    · have hname : name = "[" ++ String.ofList (unbracket name.toList) ++ "]" := by
        rw [← String.toList_inj]
        simpa using hbrackets
      rw [hname]
      exact .bracketed (by rwa [String.toList_ofList])

theorem Spelled.normalize_eq (h : Spelled ip port e) : e.normalize = .socket (.ofIp ip port) := by
  cases e with
  | socket a =>
    cases h
    rfl
  | domain name port' =>
    obtain rfl : port' = port := by cases h <;> rfl
    rw [normalize, IpAddress.parse?_eq_some.mpr (spelled_domain.mp h)]

theorem normalize_of_not_spelled (h : ∀ ip, ¬Spelled ip port (.domain name port)) :
    (domain name port).normalize = .domain name port := by
  cases hread : IpAddress.parse? (unbracket name.toList) with
  | some ip => exact absurd (spelled_domain.mpr (IpAddress.parse?_eq_some.mp hread)) (h ip)
  | none => rw [normalize, hread]

theorem normalize_normalize (e : Endpoint) : e.normalize.normalize = e.normalize := by
  cases e with
  | socket a => rfl
  | domain name port =>
    cases hread : IpAddress.parse? (unbracket name.toList) with
    | some ip => simp only [normalize, hread]
    | none => simp only [normalize, hread]

theorem port_normalize (e : Endpoint) : e.normalize.port = e.port := by
  cases e with
  | socket a => rfl
  | domain name port =>
    rw [normalize]
    split
    · rename_i ip _
      cases ip <;> rfl
    · rfl

/-! ## What is sent of a target -/

/-- The address in messages of SOCKS5. -/
def socks5Address (e : Endpoint) : Except SocksError Bytes := (Address.ofEndpoint e).map (·.toBytes)

/-- The request to a SOCKS5 proxy. -/
def socks5Request (e : Endpoint) : Except SocksError Bytes :=
  (Address.ofEndpoint e).map fun address => (Socks5.Request.mk address).toBytes

/-- The request to a SOCKS4a proxy. -/
def socks4Request (e : Endpoint) (userId : Bytes) : Except SocksError Bytes :=
  (Socks4.Request.build e userId).map (·.toBytes)

/-- The request to an HTTP proxy. -/
def httpRequest (e : Endpoint) (userAgent : Option String) (credential : Option Credential) :
    Except HttpError Bytes := (ConnectRequest.mk e userAgent credential).toBytes

/-- The same is sent of both targets in each protocol, or they are refused alike. -/
structure SentAlike (e e' : Endpoint) : Prop where
  socks5Address : e.socks5Address = e'.socks5Address
  socks5Request : e.socks5Request = e'.socks5Request
  socks4Request : ∀ userId, e.socks4Request userId = e'.socks4Request userId
  httpRequest : ∀ userAgent credential,
    e.httpRequest userAgent credential = e'.httpRequest userAgent credential

theorem sentAlike_of_normalize (h : e.normalize = e'.normalize) : SentAlike e e' where
  socks5Address := by rw [Endpoint.socks5Address, Endpoint.socks5Address, Address.ofEndpoint, h,
    Address.ofEndpoint]
  socks5Request := by rw [Endpoint.socks5Request, Endpoint.socks5Request, Address.ofEndpoint, h,
    Address.ofEndpoint]
  socks4Request userId := by rw [Endpoint.socks4Request, Endpoint.socks4Request,
    Socks4.Request.build, h, Socks4.Request.build]
  httpRequest userAgent credential := by
    simp only [Endpoint.httpRequest, ConnectRequest.toBytes, ConnectRequest.text, h,
      ConnectRequest.lines]

/-- A request is refused for what would end a line in the text of its target or in the user agent.
Otherwise it starts with the request line and `Host`, and both say the text. -/
structure OpensWith (authority : List Char) (userAgent : Option String)
    (request : Except HttpError Bytes) : Prop where
  refused : request = .error (.invalidHeaderValue .host) ↔ Breaks authority
  refusedAgent : request = .error (.invalidHeaderValue .userAgent) ↔
    ¬Breaks authority ∧ ∃ agent, userAgent = some agent ∧ Breaks agent.toList
  sent : ¬Breaks authority → (∀ agent, userAgent = some agent → ¬Breaks agent.toList) →
    ∃ rest, request = .ok (Utf8.encode "CONNECT " ++ Utf8.encodeChars authority ++
      Utf8.encode " HTTP/1.1\r\nHost: " ++ Utf8.encodeChars authority ++ Utf8.encode "\r\n" ++ rest)

theorem opensWith_httpRequest (e : Endpoint) (userAgent : Option String)
    (credential : Option Credential) :
    OpensWith e.normalize.chars userAgent (e.httpRequest userAgent credential) := by
  have hhost : (ConnectRequest.mk e userAgent credential).host.toList = e.normalize.chars :=
    String.toList_ofList
  rw [httpRequest, ← hhost]
  refine ⟨?_, ?_, fun htarget hagent => ?_⟩
  · simp [ConnectRequest.toBytes_eq_error]
  · simp [ConnectRequest.toBytes_eq_error]
  · rw [ConnectRequest.toBytes_eq_ok.mpr ⟨⟨htarget, hagent⟩, rfl⟩, ConnectRequest.sentLines,
      ConnectRequest.lines]
    have hbetween : Utf8.encode " HTTP/1.1\r\nHost: " =
        Utf8.encodeChars " HTTP/1.1".toList ++ ([13, 10] ++ Utf8.encodeChars "Host: ".toList) := by
      decide
    have hend : Utf8.encode "\r\n" = [13, 10] := by decide
    simp only [hbetween, hend, List.cons_append, List.map_cons, List.flatMap_cons,
      Utf8.encodeChars_append, List.append_assoc, List.nil_append]
    exact ⟨_, rfl⟩

/-! ## Addresses -/

/-- An address behind its type in messages of SOCKS5. -/
def typedBytes : IpAddress → Bytes
  | .v4 ip => 1 :: ip.bytes
  | .v6 ip => 4 :: ip.bytes

/-- The request of SOCKS4 for an address, which can not be one of IPv6. -/
def socks4OfIp (ip : IpAddress) (port : UInt16) (userId : Bytes) : Except SocksError Bytes :=
  if 0 ∈ userId then .error (.nullByte .userId)
  else match ip with
    | .v4 ip => .ok ([4, 1] ++ Word.bytes port ++ ip.bytes ++ userId ++ [0])
    | .v6 ip => .error (.unsupportedAddress (.socket (.v6 ip port 0 0)))

/-- No protocol sends a name for the target, and HTTP the text of a socket address, in which an IPv6
address has brackets and which is never refused. -/
structure SentAsAddress (ip : IpAddress) (port : UInt16) (e : Endpoint) : Prop where
  socks5Address : e.socks5Address = .ok (typedBytes ip ++ Word.bytes port)
  socks5Request : e.socks5Request = .ok ([5, 1, 0] ++ (typedBytes ip ++ Word.bytes port))
  socks4Request : ∀ userId, e.socks4Request userId = socks4OfIp ip port userId
  httpRequest : ∀ userAgent credential,
    OpensWith (SocketAddress.ofIp ip port).chars userAgent (e.httpRequest userAgent credential)
  not_breaks : ¬Breaks (SocketAddress.ofIp ip port).chars

theorem sentAsAddress_of_spelled (h : Spelled ip port e) : SentAsAddress ip port e where
  socks5Address := by
    rw [Endpoint.socks5Address, Address.ofEndpoint, h.normalize_eq]
    cases ip <;> rfl
  socks5Request := by
    rw [Endpoint.socks5Request, Address.ofEndpoint, h.normalize_eq]
    cases ip <;> rfl
  socks4Request userId := by
    rw [Endpoint.socks4Request, Socks4.Request.build, h.normalize_eq, socks4OfIp.eq_def]
    by_cases hid : 0 ∈ userId
    · rw [if_pos hid, if_pos (List.contains_iff_mem.mpr hid)]
      rfl
    · rw [if_neg hid, if_neg (List.contains_iff_mem.not.mpr hid)]
      cases ip <;> rfl
  httpRequest userAgent credential := by
    have hopens := opensWith_httpRequest e userAgent credential
    rwa [h.normalize_eq] at hopens
  not_breaks := by
    have hchar := (SocketAddress.ofIp ip port).isAddressChar
    rintro (h | h | h) <;> exact absurd (hchar _ h) (by decide)

/-! ## Names -/

/-- Each protocol sends the name as it is, unless it has no place for it: SOCKS5 for more than 255
bytes, SOCKS4a for a zero byte, and HTTP for what would end a line. -/
structure SentVerbatim (name : String) (port : UInt16) : Prop where
  socks5Address : (domain name port).socks5Address =
    if 255 < (Utf8.encode name).length then .error (.domainTooLong (Utf8.encode name).length)
    else .ok ([3, UInt8.ofNat (Utf8.encode name).length] ++ Utf8.encode name ++ Word.bytes port)
  socks5Request : (domain name port).socks5Request =
    (domain name port).socks5Address.map ([5, 1, 0] ++ ·)
  socks4Request : ∀ userId, (domain name port).socks4Request userId =
    if 0 ∈ userId then .error (.nullByte .userId)
    else if 0 ∈ Utf8.encode name then .error (.nullByte .hostName)
    else .ok ([4, 1] ++ Word.bytes port ++ [0, 0, 0, 1] ++ userId ++ 0 :: Utf8.encode name ++ [0])
  httpRequest : ∀ userAgent credential,
    OpensWith (name.toList ++ ':' :: Nat.toDigits 10 port.toNat) userAgent
      ((domain name port).httpRequest userAgent credential)
  breaks : Breaks (name.toList ++ ':' :: Nat.toDigits 10 port.toNat) ↔ Breaks name.toList

theorem sentVerbatim (h : ∀ ip, ¬Spelled ip port (.domain name port)) :
    SentVerbatim name port where
  socks5Address := by
    rw [Endpoint.socks5Address, Address.ofEndpoint, normalize_of_not_spelled h]
    by_cases hlong : 255 < (Utf8.encode name).length
    · rw [if_pos hlong]
      exact congrArg (Except.map _) (if_pos hlong)
    · rw [if_neg hlong]
      exact congrArg (Except.map _) (if_neg hlong)
  socks5Request := by
    rw [Endpoint.socks5Request, Endpoint.socks5Address]
    cases Address.ofEndpoint (.domain name port) <;> rfl
  socks4Request userId := by
    rw [Endpoint.socks4Request, Socks4.Request.build, normalize_of_not_spelled h]
    simp only [List.contains_iff_mem]
    split
    · rfl
    · split
      · rfl
      · rfl
  httpRequest userAgent credential := by
    have hopens := opensWith_httpRequest (.domain name port) userAgent credential
    rwa [normalize_of_not_spelled h] at hopens
  breaks := by
    have hchar : ∀ c ∈ ':' :: Nat.toDigits 10 port.toNat, IsAddressChar c :=
      List.forall_mem_cons.mpr ⟨.inr (.inl rfl), isAddressChar_toDigits _⟩
    have hport : ¬Breaks (':' :: Nat.toDigits 10 port.toNat) := by
      rintro (h | h | h) <;> exact absurd (hchar _ h) (by decide)
    rw [breaks_append, or_iff_left hport]

/-- Whichever way an IP address is spelled as a target, the same is sent of it in each protocol, and
it is the address. Its canonical text is one of the spellings. Any other name is sent as it is.
Normalizing a target twice is normalizing it once, and its port is kept. -/
theorem spelled_sent :
    (∀ (ip : IpAddress) (port : UInt16),
      Spelled ip port (.domain (String.ofList ip.chars) port) ∧
      (∀ e, Spelled ip port e → SentAsAddress ip port e) ∧
      ∀ e e', Spelled ip port e → Spelled ip port e' → SentAlike e e') ∧
    (∀ (name : String) (port : UInt16),
      (∀ ip, ¬Spelled ip port (.domain name port)) → SentVerbatim name port) ∧
    ∀ e : Endpoint, e.normalize.normalize = e.normalize ∧ e.normalize.port = e.port := by
  refine ⟨fun ip port => ⟨.plain ?_, fun e => sentAsAddress_of_spelled, fun e e' h h' => ?_⟩,
    fun name port => sentVerbatim, fun e => ⟨e.normalize_normalize, e.port_normalize⟩⟩
  · rw [String.toList_ofList]
    exact ip.spells_chars
  · exact sentAlike_of_normalize (h.normalize_eq.trans h'.normalize_eq.symm)

/-- Two spellings of the same address, and a name that is close to one. -/
theorem spelled_sent_mapped :
    SentAlike (.domain "::FFFF:1.2.3.4" 80) (.domain "[0:0::ffff:102:0304]" 80) ∧
      SentVerbatim "::ffff:01.2.3.4" 80 := by
  obtain ⟨haddress, hname, -⟩ := spelled_sent
  let ip : IpAddress := .v6 ⟨[0, 0, 0, 0, 0, 0xFFFF, 0x0102, 0x0304], rfl⟩
  have hspelled : ∀ name : String, ip.Spells (unbracket name.toList) →
      Spelled ip 80 (.domain name 80) := fun _ => spelled_domain.mpr
  refine ⟨(haddress ip 80).2.2 _ _ (hspelled _ (by decide)) (hspelled _ (by decide)),
    hname _ 80 fun ip' h => ?_⟩
  have hread := IpAddress.parse?_eq_some.mpr (spelled_domain.mp h)
  rw [show IpAddress.parse? (unbracket "::ffff:01.2.3.4".toList) = none by decide] at hread
  cases hread

end ProxyTunnel.Endpoint

import Mathlib.Data.List.Basic
import ProxyTunnel.Http.Request
import ProxyTunnel.Proofs.Net.Address
import ProxyTunnel.Proofs.Text.Base64

/-!
# The lines of CONNECT requests

A server cuts the head of a request behind every CR LF (`cutLines`) and the first line at its
spaces.

* `toBytes_lines`: which requests are refused, and that of the others a server finds just the lines
  that were meant. Nothing in a target, a user agent or a credential can end a line, and requests
  that differ in what they say are never sent alike;
* `requestLine_fields`: the fields of the first line are the method, the target and the version,
  unless there is a space in the domain name of the target, which nothing keeps out
  (`requestLine_fields_forged`).
-/

namespace ProxyTunnel.Http

open Text

/-! ## Cutting lines -/

/-- The lines that end in CR LF, and what stands behind the last of them. -/
def cutLines : Bytes → List Bytes × Bytes
  | [] => ([], [])
  | [a] => ([], [a])
  | a :: b :: s =>
    if a = 13 ∧ b = 10 then ([] :: (cutLines s).1, (cutLines s).2)
    else match cutLines (b :: s) with
      | ([], rest) => ([], a :: rest)
      | (l :: ls, rest) => ((a :: l) :: ls, rest)

theorem cutLines_append {l : Bytes} (hl : 13 ∉ l) (s : Bytes) :
    cutLines (l ++ 13 :: 10 :: s) = (l :: (cutLines s).1, (cutLines s).2) := by
  induction l with
  | nil => rfl
  | cons a l ih =>
    rw [List.mem_cons, not_or] at hl
    obtain ⟨b, t, ht⟩ : ∃ b t, l ++ 13 :: 10 :: s = b :: t := by
      cases l with
      | nil => exact ⟨_, _, rfl⟩
      | cons b l => exact ⟨_, _, rfl⟩
    have ih := ih hl.2
    rw [ht] at ih
    rw [List.cons_append, ht, cutLines, if_neg fun h => hl.1 h.1.symm, ih]

/-- Cutting loses nothing but the line ends. -/
theorem flatMap_cutLines (s : Bytes) :
    (cutLines s).1.flatMap (· ++ [13, 10]) ++ (cutLines s).2 = s := by
  fun_induction cutLines s with
  | case1 => rfl
  | case2 a => rfl
  | case3 a b s hend ih =>
    obtain ⟨rfl, rfl⟩ := hend
    exact congrArg (13 :: 10 :: ·) ih
  | case4 a b s hend rest hcut ih =>
    rw [hcut] at ih
    exact congrArg (a :: ·) ih
  | case5 a b s hend l ls rest hcut ih =>
    rw [hcut] at ih
    exact congrArg (a :: ·) ih

/-- Lines without CR are found again. -/
theorem cutLines_flatMap {ls : List Bytes} (hls : ∀ l ∈ ls, 13 ∉ l) :
    cutLines (ls.flatMap (· ++ [13, 10])) = (ls, []) := by
  induction ls with
  | nil => rfl
  | cons l ls ih =>
    rw [List.forall_mem_cons] at hls
    rw [List.flatMap_cons, List.append_assoc, List.cons_append, List.cons_append, List.nil_append,
      cutLines_append hls.1, ih hls.2]

/-! ## What can stand in a line -/

/-- CR, LF or NUL stands in the text. -/
def Breaks (s : List Char) : Prop := '\r' ∈ s ∨ '\n' ∈ s ∨ '\x00' ∈ s

instance (s : List Char) : Decidable (Breaks s) := inferInstanceAs (Decidable (_ ∨ _ ∨ _))

theorem breaks_append {s t : List Char} : Breaks (s ++ t) ↔ Breaks s ∨ Breaks t := by
  simp only [Breaks, List.mem_append]
  tauto

theorem not_breaks_nil : ¬Breaks [] := by simp [Breaks]

/-- Neither CR nor LF nor NUL stands in the bytes. -/
def IsClean (l : Bytes) : Prop := 13 ∉ l ∧ 10 ∉ l ∧ 0 ∉ l

theorem isClean_encodeChars {s : List Char} : IsClean (Utf8.encodeChars s) ↔ ¬Breaks s := by
  rw [IsClean, Utf8.mem_encodeChars (by decide), Utf8.mem_encodeChars (by decide),
    Utf8.mem_encodeChars (by decide), Breaks, not_or, not_or]
  rfl

theorem not_breaks_base64 (bs : Bytes) : ¬Breaks (Base64.encode bs) := by
  have hletter : ∀ n < 64, Base64.letter n ≠ '\r' ∧ Base64.letter n ≠ '\n' ∧
      Base64.letter n ≠ '\x00' := by decide
  have hmem : ∀ c ∈ Base64.encode bs, c ≠ '\r' ∧ c ≠ '\n' ∧ c ≠ '\x00' := by
    intro c hc
    obtain rfl | ⟨n, hn, rfl⟩ := Base64.mem_encode bs c hc
    · decide
    · exact hletter n hn
  rintro (h | h | h)
  · exact (hmem _ h).1 rfl
  · exact (hmem _ h).2.1 rfl
  · exact (hmem _ h).2.2 rfl

/-! ## Credentials -/

/-- Credentials are presented alike exactly if user name and password with a colon between them are
the same text. -/
theorem basic_inj {c c' : Credential} : c.basic = c'.basic ↔ c.pair = c'.pair := by
  constructor
  · intro h
    rw [Credential.basic, Credential.basic, String.append_right_inj, String.ofList_inj] at h
    exact Utf8.encode_injective (Base64.encode_injective h)
  · intro h
    rw [Credential.basic, Credential.basic, h]

theorem not_breaks_basic (c : Credential) : ¬Breaks c.basic.toList := by
  simp only [Credential.basic, String.toList_append, String.toList_ofList, breaks_append, not_or]
  exact ⟨by decide, not_breaks_base64 _⟩

namespace ConnectRequest

variable {r r' : ConnectRequest} {bytes bytes' : Bytes}

/-- The target as it is written in a request. -/
def host (r : ConnectRequest) : String := r.target.normalize.display

/-! ## Refusals -/

theorem isHeaderValue_eq_true {s : List Char} : isHeaderValue s = true ↔ ¬Breaks s := by
  simp only [isHeaderValue, Breaks, Bool.not_eq_true', List.any_eq_false, Bool.or_eq_true,
    decide_eq_true_eq]
  grind

theorem isHeaderValue_eq_false {s : List Char} : isHeaderValue s = false ↔ Breaks s := by
  rw [← Bool.not_eq_true, isHeaderValue_eq_true, not_not]

/-- Nothing in target and user agent would end a line. -/
structure IsSendable (r : ConnectRequest) : Prop where
  host : ¬Breaks r.host.toList
  agent : ∀ agent, r.userAgent = some agent → ¬Breaks agent.toList

/-- The lines of a request in bytes. -/
def sentLines (r : ConnectRequest) : List Bytes := (r.lines r.host.toList).map Utf8.encodeChars

theorem encodeChars_flatMap_line (ls : List (List Char)) :
    Utf8.encodeChars (ls.flatMap line) = (ls.map Utf8.encodeChars).flatMap (· ++ [13, 10]) := by
  induction ls with
  | nil => rfl
  | cons l ls ih =>
    rw [List.flatMap_cons, Utf8.encodeChars_append, ih, line, Utf8.encodeChars_append]
    rfl

/-- A request is refused for its target, for its user agent, or not at all. -/
theorem toBytes_cases (r : ConnectRequest) :
    Breaks r.host.toList ∧ r.toBytes = .error (.invalidHeaderValue .host) ∨
    (¬Breaks r.host.toList ∧ ∃ agent, r.userAgent = some agent ∧ Breaks agent.toList) ∧
      r.toBytes = .error (.invalidHeaderValue .userAgent) ∨
    r.IsSendable ∧ r.toBytes = .ok (r.sentLines.flatMap (· ++ [13, 10])) := by
  have hhost : r.host.toList = r.target.normalize.chars := String.toList_ofList
  rw [toBytes, text, ← hhost]
  split
  · rename_i h
    exact .inl ⟨isHeaderValue_eq_false.mp (by simpa using h), rfl⟩
  rename_i h
  have hfree : ¬Breaks r.host.toList := isHeaderValue_eq_true.mp (by simpa using h)
  split
  · rename_i hagent
    obtain ⟨agent, hsome, hbreaks⟩ := (Option.any_eq_true _ _).mp hagent
    have hbreaks : Breaks agent.toList := isHeaderValue_eq_false.mp (by simpa using hbreaks)
    exact .inr (.inl ⟨⟨hfree, agent, hsome, hbreaks⟩, rfl⟩)
  · rename_i hagent
    refine .inr (.inr ⟨⟨hfree, fun agent hsome => ?_⟩, ?_⟩)
    · rw [hsome] at hagent
      exact isHeaderValue_eq_true.mp (by simpa using hagent)
    · rw [Except.map, encodeChars_flatMap_line, sentLines]

theorem toBytes_eq_error {e : HttpError} :
    r.toBytes = .error e ↔
      Breaks r.host.toList ∧ e = .invalidHeaderValue .host ∨
      (¬Breaks r.host.toList ∧ ∃ agent, r.userAgent = some agent ∧ Breaks agent.toList) ∧
        e = .invalidHeaderValue .userAgent := by
  obtain ⟨hhost, h⟩ | ⟨hagent, h⟩ | ⟨hsend, h⟩ := toBytes_cases r
  · simp [h, hhost, eq_comm]
  · simp [h, hagent, eq_comm]
  · have hnone : ¬∃ agent, r.userAgent = some agent ∧ Breaks agent.toList :=
      fun ⟨agent, hsome, hbreaks⟩ => hsend.agent agent hsome hbreaks
    simp [h, hsend.host, hnone]

theorem toBytes_eq_ok :
    r.toBytes = .ok bytes ↔ r.IsSendable ∧ bytes = r.sentLines.flatMap (· ++ [13, 10]) := by
  obtain ⟨hhost, h⟩ | ⟨⟨-, agent, hsome, hbreaks⟩, h⟩ | ⟨hsend, h⟩ := toBytes_cases r
  · rw [h]
    exact ⟨nofun, fun hok => absurd hhost hok.1.host⟩
  · rw [h]
    exact ⟨nofun, fun hok => absurd hbreaks (hok.1.agent agent hsome)⟩
  · simp [h, hsend, eq_comm]

/-! ## Lines -/

theorem IsSendable.isClean (h : r.IsSendable) : ∀ l ∈ r.sentLines, IsClean l := by
  have hbreaks : ∀ l ∈ r.lines r.host.toList, ¬Breaks l := by
    simp only [lines, List.forall_mem_append, List.forall_mem_cons, breaks_append, not_or]
    refine ⟨⟨⟨⟨⟨⟨by decide, h.host⟩, by decide⟩, ⟨by decide, h.host⟩, List.forall_mem_nil _⟩,
      fun l hl => ?_⟩, fun l hl => ?_⟩, not_breaks_nil, List.forall_mem_nil _⟩
    · obtain ⟨agent, hsome, rfl⟩ := Option.map_eq_some_iff.mp (Option.mem_toList.mp hl)
      exact breaks_append.not.mpr (not_or.mpr ⟨by decide, h.agent agent hsome⟩)
    · obtain ⟨c, -, rfl⟩ := Option.map_eq_some_iff.mp (Option.mem_toList.mp hl)
      exact breaks_append.not.mpr (not_or.mpr ⟨by decide, not_breaks_basic c⟩)
  exact List.forall_mem_map.mpr fun l hl => isClean_encodeChars.mpr (hbreaks l hl)

/-- A server finds the lines that were meant, and nothing behind the last of them. -/
theorem cutLines_of_toBytes (h : r.toBytes = .ok bytes) : cutLines bytes = (r.sentLines, []) := by
  obtain ⟨hsend, rfl⟩ := toBytes_eq_ok.mp h
  exact cutLines_flatMap fun l hl => (hsend.isClean l hl).1

/-- What a request says can be read off its lines. -/
theorem lines_inj {host host' : List Char} :
    r.lines host = r'.lines host' ↔ host = host' ∧ r.userAgent = r'.userAgent ∧
      r.credential.map Credential.pair = r'.credential.map Credential.pair := by
  obtain ⟨target, agent, credential⟩ := r
  obtain ⟨target', agent', credential'⟩ := r'
  simp only [lines]
  cases agent <;> cases agent' <;> cases credential <;> cases credential' <;>
    simp [basic_inj, String.toList_inj]

theorem sentLines_inj :
    r.sentLines = r'.sentLines ↔ r.host = r'.host ∧ r.userAgent = r'.userAgent ∧
      r.credential.map Credential.pair = r'.credential.map Credential.pair := by
  rw [sentLines, sentLines,
    (List.map_injective_iff.mpr fun _ _ => Utf8.encodeChars_injective).eq_iff, lines_inj,
    String.toList_inj]

theorem sentLines_eq (r : ConnectRequest) :
    r.sentLines =
      [Utf8.encode ("CONNECT " ++ r.host ++ " HTTP/1.1"), Utf8.encode ("Host: " ++ r.host)] ++
        (r.userAgent.map fun agent => Utf8.encode ("User-Agent: " ++ agent)).toList ++
        (r.credential.map fun c => Utf8.encode ("Proxy-Authorization: Basic " ++
          String.ofList (Base64.encode (Utf8.encode c.pair)))).toList ++ [[]] := by
  obtain ⟨target, agent, credential⟩ := r
  cases agent <;> cases credential <;>
    simp [sentLines, lines, Utf8.encode, Credential.basic, Utf8.encodeChars]

/-- A request is refused exactly for CR, LF or NUL in the target as it is written, and otherwise in
the user agent. Of any other request a server finds just these lines, whatever stands in user name
and password: the request line, `Host`, the two optional headers, and an empty line at the end. None
of them has CR, LF or NUL in it. Requests are sent alike exactly if targets as they are written,
user agents, and user names and passwords with a colon between them are the same. -/
theorem toBytes_lines (r : ConnectRequest) :
    (∀ e, r.toBytes = .error e ↔
      Breaks r.host.toList ∧ e = .invalidHeaderValue .host ∨
      (¬Breaks r.host.toList ∧ ∃ agent, r.userAgent = some agent ∧ Breaks agent.toList) ∧
        e = .invalidHeaderValue .userAgent) ∧
    (∀ bytes, r.toBytes = .ok bytes →
      cutLines bytes =
        ([Utf8.encode ("CONNECT " ++ r.host ++ " HTTP/1.1"), Utf8.encode ("Host: " ++ r.host)] ++
          (r.userAgent.map fun agent => Utf8.encode ("User-Agent: " ++ agent)).toList ++
          (r.credential.map fun c => Utf8.encode ("Proxy-Authorization: Basic " ++
            String.ofList (Base64.encode (Utf8.encode c.pair)))).toList ++ [[]], []) ∧
      ∀ l ∈ (cutLines bytes).1, 13 ∉ l ∧ 10 ∉ l ∧ 0 ∉ l) ∧
    ∀ (r' : ConnectRequest) bytes bytes', r.toBytes = .ok bytes → r'.toBytes = .ok bytes' →
      (bytes = bytes' ↔ r.host = r'.host ∧ r.userAgent = r'.userAgent ∧
        r.credential.map Credential.pair = r'.credential.map Credential.pair) := by
  refine ⟨fun e => toBytes_eq_error, fun bytes h => ?_, fun r' bytes bytes' h h' => ?_⟩
  · have hcut := cutLines_of_toBytes h
    refine ⟨by rw [hcut, sentLines_eq], ?_⟩
    rw [hcut]
    exact (toBytes_eq_ok.mp h).1.isClean
  · rw [← sentLines_inj]
    constructor
    · intro heq
      have hcut := cutLines_of_toBytes h
      rw [heq, cutLines_of_toBytes h'] at hcut
      exact (congrArg Prod.fst hcut).symm
    · intro heq
      rw [← flatMap_cutLines bytes, ← flatMap_cutLines bytes', cutLines_of_toBytes h,
        cutLines_of_toBytes h', heq]

/-- Line ends in a user name stay within the token, of which no server can tell where the user name
ends. -/
theorem toBytes_lines_credential :
    let request := fun c => ConnectRequest.mk (.domain "::1" 80) (some "x") (some c)
    let bytes := Utf8.encode ("CONNECT [::1]:80 HTTP/1.1\r\nHost: [::1]:80\r\nUser-Agent: x\r\n" ++
      "Proxy-Authorization: Basic DQo6Ojo=\r\n\r\n")
    (request ⟨"\r\n", "::"⟩).toBytes = .ok bytes ∧ (cutLines bytes).1.length = 5 ∧
      ∃ bytes', (request ⟨"\r\n:", ":"⟩).toBytes = .ok bytes' ∧ bytes = bytes' := by
  intro request bytes
  obtain ⟨-, hlines, hsame⟩ := toBytes_lines (request ⟨"\r\n", "::"⟩)
  have h : (request ⟨"\r\n", "::"⟩).toBytes = .ok bytes := by decide
  refine ⟨h, ?_, _, rfl, (hsame (request ⟨"\r\n:", ":"⟩) _ _ h rfl).mpr ⟨rfl, rfl, by decide⟩⟩
  rw [(hlines _ h).1]
  rfl

/-! ## Fields of the request line -/

theorem splitOn_eq_singleton_iff {a : UInt8} {xs : Bytes} : xs.splitOn a = [xs] ↔ a ∉ xs := by
  constructor
  · intro h hmem
    obtain ⟨s, t, rfl⟩ := List.append_of_mem hmem
    have hlength := congrArg List.length h
    rw [List.splitOn_append_cons_self, List.length_append, List.length_singleton] at hlength
    have hs := List.length_pos_of_ne_nil (List.splitOn_ne_nil a s)
    have ht := List.length_pos_of_ne_nil (List.splitOn_ne_nil a t)
    omega
  · exact List.splitOn_eq_singleton

/-- The fields of the request line are method, fields of the target, and version. -/
theorem splitOn_requestLine (host : String) :
    (Utf8.encode ("CONNECT " ++ host ++ " HTTP/1.1")).splitOn 32 =
      Utf8.encode "CONNECT" :: ((Utf8.encode host).splitOn 32 ++ [Utf8.encode "HTTP/1.1"]) := by
  have hline : Utf8.encode ("CONNECT " ++ host ++ " HTTP/1.1") =
      Utf8.encode "CONNECT" ++ 32 :: (Utf8.encode host ++ 32 :: Utf8.encode "HTTP/1.1") := by
    have hmethod : Utf8.encodeChars "CONNECT ".toList = Utf8.encode "CONNECT" ++ [32] := by decide
    have hversion : Utf8.encodeChars " HTTP/1.1".toList = 32 :: Utf8.encode "HTTP/1.1" := by decide
    rw [Utf8.encode, String.toList_append, String.toList_append, Utf8.encodeChars_append,
      Utf8.encodeChars_append, hmethod, hversion, List.append_assoc, List.append_assoc]
    rfl
  have hlast : (Utf8.encode "HTTP/1.1").splitOn 32 = [Utf8.encode "HTTP/1.1"] :=
    List.splitOn_eq_singleton (by decide)
  rw [hline, List.splitOn_append_cons_self_of_not_mem (by decide), List.splitOn_append_cons_self,
    hlast]

/-- Only the domain name of a target can bring a space into a request. -/
theorem space_mem_host : ' ' ∈ r.host.toList ↔
    ∃ name port, r.target.normalize = .domain name port ∧ ' ' ∈ name.toList := by
  have hhost : r.host.toList = r.target.normalize.chars := String.toList_ofList
  rw [hhost]
  cases r.target.normalize with
  | socket a =>
    have hspace : ' ' ∉ a.chars := fun h => absurd (a.isAddressChar ' ' h) (by decide)
    simp [Endpoint.chars, hspace]
  | domain name port =>
    have hport : ' ' ∉ Nat.toDigits 10 port.toNat := fun h =>
      absurd (isAddressChar_toDigits _ ' ' h) (by decide)
    simp [Endpoint.chars, hport]

/-- The first line of a request is the method, the fields of the target and the version. These are
three fields unless there is a space in the domain name of the target. -/
theorem requestLine_fields (h : r.toBytes = .ok bytes) :
    ∃ line rest, cutLines bytes = (line :: rest, []) ∧
      line.splitOn 32 =
        Utf8.encode "CONNECT" :: ((Utf8.encode r.host).splitOn 32 ++ [Utf8.encode "HTTP/1.1"]) ∧
      (line.splitOn 32 = [Utf8.encode "CONNECT", Utf8.encode r.host, Utf8.encode "HTTP/1.1"] ↔
        ¬∃ name port, r.target.normalize = .domain name port ∧ ' ' ∈ name.toList) := by
  obtain ⟨rest, hrest⟩ : ∃ rest, r.sentLines =
      Utf8.encode ("CONNECT " ++ r.host ++ " HTTP/1.1") :: rest := ⟨_, sentLines_eq r⟩
  have hspace : (32 : UInt8) ∈ Utf8.encode r.host ↔ ' ' ∈ r.host.toList :=
    Utf8.mem_encodeChars (by decide)
  refine ⟨_, rest, by rw [cutLines_of_toBytes h, hrest], splitOn_requestLine r.host, ?_⟩
  rw [splitOn_requestLine, ← space_mem_host, ← hspace, ← splitOn_eq_singleton_iff]
  constructor
  · intro heq
    exact List.append_cancel_right (List.cons.inj heq).2
  · intro heq
    rw [heq]
    rfl

/-- A request whose first line has just three fields. -/
theorem requestLine_fields_bracketed :
    let r : ConnectRequest := ⟨.domain "0:0::1" 80, none, none⟩
    ∃ bytes line rest, r.toBytes = .ok bytes ∧ cutLines bytes = (line :: rest, []) ∧
      line.splitOn 32 =
        [Utf8.encode "CONNECT", Utf8.encode "[::1]:80", Utf8.encode "HTTP/1.1"] := by
  intro r
  have h : r.toBytes = .ok _ := rfl
  obtain ⟨line, rest, hcut, -, hfields⟩ := requestLine_fields h
  refine ⟨_, line, rest, h, hcut, hfields.mpr ?_⟩
  rintro ⟨name, port, hdomain, -⟩
  cases hdomain

/-- A text that is read as a target, and sent so that the first line says another target and another
version. -/
theorem requestLine_fields_forged :
    let r : ConnectRequest := ⟨.domain "a HTTP/1.0 b" 80, none, none⟩
    Endpoint.parse "a HTTP/1.0 b:80" = .ok r.target ∧
      ∃ bytes line rest, r.toBytes = .ok bytes ∧ cutLines bytes = (line :: rest, []) ∧
        line.splitOn 32 = [Utf8.encode "CONNECT", Utf8.encode "a", Utf8.encode "HTTP/1.0",
          Utf8.encode "b:80", Utf8.encode "HTTP/1.1"] := by
  refine ⟨by decide, _, _, _, rfl, rfl, ?_⟩
  decide

end ConnectRequest

end ProxyTunnel.Http

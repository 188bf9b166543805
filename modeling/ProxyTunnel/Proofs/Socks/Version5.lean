import ProxyTunnel.Socks.Version5
import ProxyTunnel.Proofs.Socks.Address

/-!
# How SOCKS5 servers read messages

Readers for the other side, written from the layout of the messages alone: fields behind their
length bytes (`field?`), the greeting, user name and password, and the request. A server that has
made its choice reads a whole conversation with them (`serve`).

* `Reads`: bytes that a reader takes whole, whatever follows;
* `reads_field`, `reads_login`, `reads_request`: fields that fit behind their length bytes, and the
  messages made of them, are so;
* `Login.build_eq_error`, `Login.build_eq_ok`: which user names and passwords have a message.
-/

namespace ProxyTunnel.Socks5

open Text Net Socks

/-- A field behind its length byte, and what follows it. -/
def field? : Bytes → Option (Bytes × Bytes)
  | [] => none
  | length :: bs =>
    if length.toNat ≤ bs.length then some (bs.take length.toNat, bs.drop length.toNat) else none

/-- Version and the methods offered. -/
def readGreeting : Bytes → Option (Bytes × Bytes)
  | 5 :: bs => field? bs
  | _ => none

/-- Version, user name and password. -/
def readLogin : Bytes → Option (Login × Bytes)
  | 1 :: bs => do
    let (userName, bs) ← field? bs
    let (password, bs) ← field? bs
    some (⟨userName, password⟩, bs)
  | _ => none

/-- The host of a request as a server sees it. -/
inductive Host where
  | ipv4 (ip : Ipv4)
  | ipv6 (ip : Ipv6)
  | name (bytes : Bytes)
  deriving DecidableEq, Repr

/-- Type and address. -/
def readHost : Bytes → Option (Host × Bytes)
  | 1 :: a :: b :: c :: d :: bs => some (.ipv4 ⟨a, b, c, d⟩, bs)
  | 3 :: bs => do
    let (name, bs) ← field? bs
    some (.name name, bs)
  | 4 :: bs =>
    if h : 16 ≤ bs.length then some (.ipv6 (.ofVector (Conversation.head h)), bs.drop 16) else none
  | _ => none

/-- Host and port of a request as a server sees them. -/
structure Destination where
  host : Host
  port : UInt16
  deriving DecidableEq, Repr

/-- Version, the command to connect, the reserved byte, host and port. -/
def readRequest : Bytes → Option (Destination × Bytes)
  | 5 :: 1 :: 0 :: bs => do
    let (host, bs) ← readHost bs
    match bs with
    | hi :: lo :: bs => some (⟨host, Word.ofBytes hi lo⟩, bs)
    | _ => none
  | _ => none

/-- What a server understands of a whole conversation. -/
structure Reading where
  methods : Bytes
  login : Option Login
  destination : Destination
  deriving DecidableEq, Repr

/-- User name and password, if the server chose the method that asks for them. -/
def readChosen (choice : UInt8) (bs : Bytes) : Option (Option Login × Bytes) :=
  if choice = 2 then do
    let (login, bs) ← readLogin bs
    some (some login, bs)
  else some (none, bs)

/-- How a server that chooses a method reads all that the client says, up to what follows the
request. -/
def serve (choice : UInt8) (bs : Bytes) : Option (Reading × Bytes) := do
  let (methods, bs) ← readGreeting bs
  let (login, bs) ← readChosen choice bs
  let (destination, bs) ← readRequest bs
  some (⟨methods, login, destination⟩, bs)

/-- Host and port of an endpoint, without flow information and scope, names in bytes. -/
def Destination.of : Endpoint → Destination
  | .socket (.v4 ip port) => ⟨.ipv4 ip, port⟩
  | .socket (.v6 ip port _ _) => ⟨.ipv6 ip, port⟩
  | .domain name port => ⟨.name (Utf8.encode name), port⟩

/-- Whatever follows a message, the reader finds `a` in it and stops right behind it. -/
def Reads {α : Type} (read : Bytes → Option (α × Bytes)) (m : Bytes) (a : α) : Prop :=
  ∀ rest, read (m ++ rest) = some (a, rest)

theorem Reads.bind {α β : Type} {read : Bytes → Option (α × Bytes)} {m : Bytes} {a : α}
    (h : Reads read m a) (rest : Bytes) (next : α × Bytes → Option β) :
    (do let p ← read (m ++ rest); next p) = next (a, rest) := by
  rw [h rest]
  rfl

theorem field?_append {xs : Bytes} {length : UInt8} (h : xs.length = length.toNat) (rest : Bytes) :
    field? (length :: (xs ++ rest)) = some (xs, rest) := by
  rw [field?, ← h, if_pos (by rw [List.length_append]; omega), List.take_left, List.drop_left]

/-- A field that fits behind its length byte is found there. -/
theorem reads_field {xs : Bytes} (h : xs.length ≤ maxFieldLength) :
    Reads field? (UInt8.ofNat xs.length :: xs) xs := by
  have hlen : xs.length ≤ 255 := h
  refine field?_append ?_
  rw [UInt8.toNat_ofNat']
  omega

/-! ## The messages of a client -/

theorem reads_login {x : Login} (hu : x.userName.length ≤ maxFieldLength)
    (hp : x.password.length ≤ maxFieldLength) : Reads readLogin x.toBytes x := by
  intro rest
  have hbytes : x.toBytes ++ rest = 1 :: (UInt8.ofNat x.userName.length :: x.userName ++
      (UInt8.ofNat x.password.length :: x.password ++ rest)) := by
    simp only [Login.toBytes, List.append_assoc, List.cons_append]
  rw [hbytes, readLogin, (reads_field hu).bind]
  exact (reads_field hp).bind rest _

theorem reads_chosen {l : Bytes} {x : Login} (h : Reads readLogin l x) :
    Reads (readChosen 2) l (some x) := by
  intro rest
  rw [readChosen, if_pos rfl]
  exact h.bind rest _

theorem readHost_append {a : Address} (ha : a.Fits) (rest : Bytes) :
    readHost (a.type.code :: (a.body ++ rest)) = some ((Destination.of a.endpoint).host, rest) := by
  obtain ⟨address | ⟨name, port⟩⟩ := a
  · cases address with
    | v4 ip port => rfl
    | v6 ip port flow scope =>
      have hlen : 16 ≤ (ip.bytes ++ rest).length := by
        rw [List.length_append, ip.length_bytes]
        omega
      have hip : Ipv6.ofVector (Conversation.head hlen) = ip := by
        apply Ipv6.bytes_injective
        rw [Ipv6.bytes_ofVector, Conversation.toList_head, List.take_left' ip.length_bytes]
      show (if h : 16 ≤ (ip.bytes ++ rest).length then
        some (Host.ipv6 (.ofVector (Conversation.head h)), (ip.bytes ++ rest).drop 16) else none) =
        some (.ipv6 ip, rest)
      rw [dif_pos hlen, hip, List.drop_left' ip.length_bytes]
  · exact (reads_field (ha name port rfl)).bind rest _

theorem port_of (e : Endpoint) : (Destination.of e).port = e.port := by
  obtain ⟨_ | _⟩ | _ := e <;> rfl

theorem reads_request {a : Address} (ha : a.Fits) :
    Reads readRequest (Request.mk a).toBytes (.of a.endpoint) := by
  intro rest
  have hbytes : (Request.mk a).toBytes ++ rest = 5 :: 1 :: 0 :: (a.type.code ::
      (a.body ++ (Word.bytes a.endpoint.port ++ rest))) := by
    simp only [Request.toBytes, Address.toBytes, Version.code, List.append_assoc, List.cons_append,
      List.nil_append]
  rw [hbytes, readRequest, readHost_append ha]
  show some (Destination.mk (Destination.of a.endpoint).host (Word.ofBytes _ _), rest) = _
  rw [Word.ofBytes_bytes, ← port_of]

/-! ## What comes of a credential -/

namespace Login

variable {userName password : Bytes}

theorem build_eq_error {e : SocksError} :
    build userName password = .error e ↔
      (maxFieldLength < userName.length ∧ e = .userNameTooLong userName.length) ∨
        userName.length ≤ maxFieldLength ∧ maxFieldLength < password.length ∧
          e = .passwordTooLong password.length := by
  rw [build]
  by_cases hu : maxFieldLength < userName.length
  · rw [if_pos hu, Except.error.injEq, eq_comm]
    simp only [hu, Nat.not_le.mpr hu, true_and, false_and, or_false]
  · rw [if_neg hu]
    by_cases hp : maxFieldLength < password.length
    · rw [if_pos hp, Except.error.injEq, eq_comm]
      simp only [hu, Nat.le_of_not_lt hu, hp, true_and, false_and, false_or]
    · rw [if_neg hp]
      simp only [hu, hp, false_and, and_false, or_self, reduceCtorEq]

theorem build_eq_ok {x : Login} :
    build userName password = .ok x ↔ userName.length ≤ maxFieldLength ∧
      password.length ≤ maxFieldLength ∧ x = ⟨userName, password⟩ := by
  rw [build]
  constructor
  · intro h
    split at h
    · cases h
    · split at h <;> cases h
      exact ⟨Nat.le_of_not_lt ‹_›, Nat.le_of_not_lt ‹_›, rfl⟩
  · intro h
    obtain ⟨hu, hp, rfl⟩ := h
    rw [if_neg (Nat.not_lt.mpr hu), if_neg (Nat.not_lt.mpr hp)]

/-- What a credential is presented as. -/
def of (c : Credential) : Login := ⟨Utf8.encode c.userName, Utf8.encode c.password⟩

theorem of_mapM_eq_ok {credential : Option Credential} {login : Option Login}
    (h : credential.mapM ofCredential = .ok login) :
    login = credential.map of ∧ ∀ x, login = some x →
      x.userName.length ≤ maxFieldLength ∧ x.password.length ≤ maxFieldLength := by
  cases credential with
  | none =>
    cases h
    exact ⟨rfl, nofun⟩
  | some c =>
    cases hc : ofCredential c with
    | error e =>
      rw [Option.mapM_some, hc] at h
      cases h
    | ok x =>
      rw [Option.mapM_some, hc] at h
      cases h
      obtain ⟨hu, hp, rfl⟩ := build_eq_ok.mp hc
      refine ⟨rfl, fun x hx => ?_⟩
      cases hx
      exact ⟨hu, hp⟩

end Login

end ProxyTunnel.Socks5

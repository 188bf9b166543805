import ProxyTunnel.Stream.Script
import ProxyTunnel.Proofs.Stream.Runs
import ProxyTunnel.Proofs.Net.Octets

/-!
# What a conversation hears

The meaning of a conversation by itself, without a stream. `c.Hears l heard r l'` says that the
conversation `c` ends with the result `r` as soon as the other end has said exactly the bytes
`heard`, provided that everything it writes goes through. The ledgers `l` and `l'` hold what was
sent before and after.

* `hears_bind`, `hears_ofSocks_bind`, `hears_block_bind`, `hears_word_bind`, `hears_send_bind`, …:
  what each part of a conversation hears;
* `EndsWith p`: wherever the other end may fall silent too early, that shows as an error with `p`.
-/

namespace ProxyTunnel

/-- How far a stream was read, what was sent on it, and what was written since. -/
structure Ledger where
  consumed : Nat := 0
  sent : List Message := []
  pending : Option Message := none
  deriving DecidableEq, Repr

namespace Ledger

/-- The ledger with more bytes read. -/
def read (n : Nat) (l : Ledger) : Ledger := { l with consumed := l.consumed + n }

/-- The ledger with more bytes written. -/
def write (bs : Bytes) (l : Ledger) : Ledger :=
  if bs = [] then l
  else
    let m := match l.pending with
      | some m => { m with bytes := m.bytes ++ bs }
      | none => ⟨l.consumed, bs⟩
    { l with pending := some m }

/-- The ledger with everything flushed. -/
def flush (l : Ledger) : Ledger := { l with sent := l.sent ++ l.pending.toList, pending := none }

/-- The ledger with one more message. -/
def say (bs : Bytes) (l : Ledger) : Ledger := (l.write bs).flush

theorem read_read (m n : Nat) (l : Ledger) : (l.read m).read n = l.read (m + n) := by
  simp only [read, Nat.add_assoc]

theorem consumed_write (bs : Bytes) (l : Ledger) : (l.write bs).consumed = l.consumed := by
  unfold write
  split <;> rfl

theorem consumed_say (bs : Bytes) (l : Ledger) : (l.say bs).consumed = l.consumed :=
  consumed_write bs l

/-- A message that is said when nothing waits for a flush stands by itself. -/
theorem say_of_settled {l : Ledger} {bs : Bytes} (hl : l.pending = none) (hb : bs ≠ []) :
    l.say bs = { l with sent := l.sent ++ [⟨l.consumed, bs⟩] } := by
  simp [say, write, flush, hl, hb]

end Ledger

namespace Conversation

variable {ε ε' α β : Type} {l l' : Ledger} {heard : Bytes}

/-- From the ledger `l`, the conversation ends with `r` and the ledger `l'` once it has heard
exactly the bytes `heard`. -/
def Hears : Conversation ε α → Ledger → Bytes → Except ε α → Ledger → Prop
  | .done a, l, heard, r, l' => heard = [] ∧ r = .ok a ∧ l' = l
  | .fail e, l, heard, r, l' => heard = [] ∧ r = .error e ∧ l' = l
  | .write m _ next, l, heard, r, l' => Hears next (l.write m) heard r l'
  | .flush _ next, l, heard, r, l' => Hears next l.flush heard r l'
  | .receive n _ _ next, l, heard, r, l' =>
    ∃ (v : Vector UInt8 n) (rest : Bytes),
      heard = v.toList ++ rest ∧ Hears (next v) (l.read n) rest r l'

theorem hears_pure {a : α} {r : Except ε α} :
    (pure a : Conversation ε α).Hears l heard r l' ↔ heard = [] ∧ r = .ok a ∧ l' = l := Iff.rfl

theorem hears_ofExcept {x r : Except ε α} :
    (ofExcept x).Hears l heard r l' ↔ heard = [] ∧ r = x ∧ l' = l := by
  cases x <;> rfl

theorem hears_ofExcept_bind {x : Except ε α} {k : α → Conversation ε β} {r : Except ε β} :
    (ofExcept x >>= k).Hears l heard r l' ↔
      match x with
      | .ok a => (k a).Hears l heard r l'
      | .error e => heard = [] ∧ r = .error e ∧ l' = l := by
  cases x <;> rfl

/-- Two conversations one behind the other hear one behind the other, unless the first fails. -/
theorem hears_bind {c : Conversation ε α} {k : α → Conversation ε β} {r : Except ε β} :
    (c >>= k).Hears l heard r l' ↔
      (∃ e, r = .error e ∧ c.Hears l heard (.error e) l') ∨
      ∃ a first rest l₁, heard = first ++ rest ∧ c.Hears l first (.ok a) l₁ ∧
        (k a).Hears l₁ rest r l' := by
  show (c.bind k).Hears l heard r l' ↔ _
  induction c generalizing l heard with
  | done a =>
    constructor
    · intro h
      exact .inr ⟨a, [], heard, l, rfl, ⟨rfl, rfl, rfl⟩, h⟩
    · intro h
      obtain ⟨_, _, _, h, _⟩ | ⟨_, _, _, _, rfl, ⟨rfl, h, rfl⟩, hk⟩ := h <;> cases h
      exact hk
  | fail e =>
    constructor
    · intro h
      obtain ⟨rfl, rfl, rfl⟩ := h
      exact .inl ⟨e, rfl, rfl, rfl, rfl⟩
    · intro h
      obtain ⟨_, rfl, rfl, h, rfl⟩ | ⟨_, _, _, _, _, ⟨_, h, _⟩, _⟩ := h <;> cases h
      exact ⟨rfl, rfl, rfl⟩
  | write m f next ih => exact ih
  | flush f next ih => exact ih
  | receive n z f next ih =>
    simp only [bind, Hears, ih]
    constructor
    · intro h
      obtain ⟨v, tail, rfl, ⟨e, rfl, h⟩ | ⟨a, first, rest, l₁, rfl, h, hk⟩⟩ := h
      · exact .inl ⟨e, rfl, v, tail, rfl, h⟩
      · exact .inr ⟨a, v.toList ++ first, rest, l₁, by rw [List.append_assoc],
          ⟨v, first, rfl, h⟩, hk⟩
    · intro h
      obtain ⟨e, rfl, v, tail, rfl, h⟩ | ⟨a, _, rest, l₁, rfl, ⟨v, first, rfl, h⟩, hk⟩ := h
      · exact ⟨v, tail, rfl, .inl ⟨e, rfl, h⟩⟩
      · exact ⟨v, first ++ rest, by rw [List.append_assoc], .inr ⟨a, first, rest, l₁, rfl, h, hk⟩⟩

theorem hears_mapError {f : ε → ε'} {c : Conversation ε α} {r : Except ε' α} :
    (c.mapError f).Hears l heard r l' ↔ ∃ r₀, r = r₀.mapError f ∧ c.Hears l heard r₀ l' := by
  induction c generalizing l heard with
  | done a =>
    constructor
    · intro h
      obtain ⟨rfl, rfl, rfl⟩ := h
      exact ⟨.ok a, rfl, rfl, rfl, rfl⟩
    · intro h
      obtain ⟨_, rfl, rfl, rfl, rfl⟩ := h
      exact ⟨rfl, rfl, rfl⟩
  | fail e =>
    constructor
    · intro h
      obtain ⟨rfl, rfl, rfl⟩ := h
      exact ⟨.error e, rfl, rfl, rfl, rfl⟩
    · intro h
      obtain ⟨_, rfl, rfl, rfl, rfl⟩ := h
      exact ⟨rfl, rfl, rfl⟩
  | write m g next ih => exact ih
  | flush g next ih => exact ih
  | receive n z g next ih =>
    simp only [mapError, Hears, ih]
    constructor
    · intro h
      obtain ⟨v, rest, rfl, r₀, rfl, h⟩ := h
      exact ⟨r₀, rfl, v, rest, rfl, h⟩
    · intro h
      obtain ⟨r₀, rfl, v, rest, rfl, h⟩ := h
      exact ⟨v, rest, rfl, r₀, rfl, h⟩

theorem hears_ofSocks_bind {c : Conversation SocksError α} {k : α → Conversation HandshakeError β}
    {r : Except HandshakeError β} :
    (ofSocks c >>= k).Hears l heard r l' ↔
      (∃ e, r = .error (.ofSocks e) ∧ c.Hears l heard (.error e) l') ∨
      ∃ a first rest l₁, heard = first ++ rest ∧ c.Hears l first (.ok a) l₁ ∧
        (k a).Hears l₁ rest r l' := by
  rw [ofSocks, hears_bind]
  simp only [hears_mapError]
  constructor
  · intro h
    obtain ⟨_, rfl, r₀, h₀, h⟩ | ⟨a, first, rest, l₁, rfl, ⟨r₀, h₀, h⟩, hk⟩ := h <;>
      cases r₀ <;> cases h₀
    · exact .inl ⟨_, rfl, h⟩
    · exact .inr ⟨_, first, rest, l₁, rfl, h, hk⟩
  · intro h
    obtain ⟨e, rfl, h⟩ | ⟨a, first, rest, l₁, rfl, h, hk⟩ := h
    · exact .inl ⟨_, rfl, .error e, rfl, h⟩
    · exact .inr ⟨a, first, rest, l₁, rfl, ⟨.ok a, rfl, h⟩, hk⟩

theorem hears_block_bind {n : Nat} {f : Fault → ε} {k : Vector UInt8 n → Conversation ε α}
    {r : Except ε α} :
    (block n f >>= k).Hears l heard r l' ↔
      ∃ v rest, heard = v.toList ++ rest ∧ (k v).Hears (l.read n) rest r l' := Iff.rfl

theorem hears_byte_bind {f : Fault → ε} {k : UInt8 → Conversation ε α} {r : Except ε α} :
    (byte f >>= k).Hears l heard r l' ↔
      ∃ b rest, heard = b :: rest ∧ (k b).Hears (l.read 1) rest r l' := by
  constructor
  · intro h
    obtain ⟨⟨⟨bs⟩, h⟩, rest, rfl, hk⟩ := h
    match bs, h with
    | [b], _ => exact ⟨b, rest, rfl, hk⟩
  · intro h
    obtain ⟨b, rest, rfl, hk⟩ := h
    exact ⟨#v[b], rest, rfl, hk⟩

theorem hears_word_bind {f : Fault → ε} {k : UInt16 → Conversation ε α} {r : Except ε α} :
    (word f >>= k).Hears l heard r l' ↔
      ∃ w rest, heard = Net.Word.bytes w ++ rest ∧ (k w).Hears (l.read 2) rest r l' := by
  constructor
  · intro h
    obtain ⟨v, rest, rfl, h⟩ := h
    obtain ⟨hi, lo, rfl⟩ := Net.exists_two v
    refine ⟨Net.Word.ofBytes hi lo, rest, ?_, h⟩
    rw [Net.Word.bytes_ofBytes]; rfl
  · intro h
    obtain ⟨w, rest, rfl, h⟩ := h
    refine ⟨#v[UInt8.ofNat (w.toNat / 256), UInt8.ofNat w.toNat], rest, rfl, ?_⟩
    rw [← Net.Word.ofBytes_bytes w] at h
    exact h

theorem hears_send_bind {m : Bytes} {k : Unit → Conversation HandshakeError α}
    {r : Except HandshakeError α} :
    (send m >>= k).Hears l heard r l' ↔ (k ()).Hears (l.say m) heard r l' := Iff.rfl

/-! ## Early ends -/

/-- Wherever the other end may fall silent too early, that shows as an error with `p`. -/
def EndsWith (p : ε → Prop) : Conversation ε α → Prop
  | .done _ | .fail _ => True
  | .write _ _ next | .flush _ next => EndsWith p next
  | .receive _ z f next => p (f z) ∧ ∀ v, EndsWith p (next v)

end Conversation

end ProxyTunnel

import ProxyTunnel.Handshake.Error
import ProxyTunnel.Proofs.Stream.Hearing

/-!
# What SOCKS5 servers say

The messages of a server byte by byte, and what each of them is understood as:

* `Address.hears_receiveBody`: the bytes of an address (`Address.Body`) and the endpoint they stand
  for;
* `Socks5.hears_selection`, `Socks5.hears_loginReply`: two bytes each;
* `Socks5.hears_reply`: the replies (`Socks5.Answer`), a whole address block behind them whatever
  the server decides.
-/

namespace ProxyTunnel

open Net Conversation

variable {α : Type} {l l' : Ledger} {heard : Bytes}

namespace Socks

theorem AddressType.ofCode_eq_ok {code : UInt8} {type : AddressType} :
    AddressType.ofCode code = .ok type ↔ code = type.code := by
  constructor
  · unfold AddressType.ofCode
    split <;> intro h <;> cases h <;> rfl
  · rintro rfl
    cases type <;> rfl

theorem AddressType.ofCode_eq_error {code : UInt8} {e : SocksError} :
    AddressType.ofCode code = .error e ↔
      (code ≠ 1 ∧ code ≠ 3 ∧ code ≠ 4) ∧ e = .invalidAddressType code := by
  constructor
  · unfold AddressType.ofCode
    split <;> intro h <;> cases h
    exact ⟨⟨‹_›, ‹_›, ‹_›⟩, rfl⟩
  · intro h
    obtain ⟨⟨h₁, h₃, h₄⟩, rfl⟩ := h
    simp [AddressType.ofCode]

namespace Address

/-- The bytes of an address behind its type, and the endpoint they stand for. -/
inductive Body : AddressType → Bytes → Endpoint → Prop where
  | ipv4 (ip : Ipv4) (port : UInt16) :
    Body .ipv4 (ip.bytes ++ Word.bytes port) (.socket (.v4 ip port))
  | ipv6 (ip : Ipv6) (port : UInt16) :
    Body .ipv6 (ip.bytes ++ Word.bytes port) (.socket (.v6 ip port 0 0))
  | domain {length : UInt8} {name : Bytes} (h : name.length = length.toNat) (port : UInt16) :
    Body .domain (length :: name ++ Word.bytes port) (.domain (Text.Utf8.decodeLossy name) port)

/-- The bytes of an address with its type in front, and the endpoint they stand for. -/
inductive Block : Bytes → Endpoint → Prop where
  | mk {type : AddressType} {body : Bytes} {e : Endpoint} (h : Body type body e) :
    Block (type.code :: body) e

theorem exists_block {bs : Bytes} {n : Nat} (h : bs.length = n) :
    ∃ v : Vector UInt8 n, v.toList = bs :=
  ⟨⟨bs.toArray, h⟩, rfl⟩

/-- A block and a port behind it. -/
theorem hears_block_word {ε : Type} {n : Nat} {f : Fault → ε} {g : Vector UInt8 n → UInt16 → α}
    {r : Except ε α} :
    (do
      let v ← Conversation.block n f
      let w ← Conversation.word f
      pure (g v w) : Conversation ε α).Hears l heard r l' ↔
      ∃ v w, heard = v.toList ++ Word.bytes w ∧ r = .ok (g v w) ∧ l' = l.read heard.length := by
  simp only [hears_block_bind, hears_word_bind, hears_pure]
  constructor
  · intro h
    obtain ⟨v, _, rfl, w, _, rfl, rfl, rfl, rfl⟩ := h
    refine ⟨v, w, by rw [List.append_nil], rfl, ?_⟩
    rw [List.append_nil, List.length_append, v.length_toList, Word.length_bytes, Ledger.read_read]
  · intro h
    obtain ⟨v, w, rfl, rfl, rfl⟩ := h
    refine ⟨v, _, rfl, w, [], (List.append_nil _).symm, rfl, rfl, ?_⟩
    rw [List.length_append, v.length_toList, Word.length_bytes, Ledger.read_read]

theorem hears_receiveBody {type : AddressType} {r : Except SocksError Address} :
    (receiveBody type).Hears l heard r l' ↔
      ∃ e, Body type heard e ∧ r = .ok ⟨e⟩ ∧ l' = l.read heard.length := by
  cases type with
  | ipv4 =>
    rw [receiveBody, hears_block_word]
    constructor
    · intro h
      obtain ⟨v, port, rfl, rfl, rfl⟩ := h
      rw [← Ipv4.bytes_ofVector]
      exact ⟨_, .ipv4 _ port, rfl, rfl⟩
    · intro h
      obtain ⟨_, hb, rfl, rfl⟩ := h
      cases hb with
      | ipv4 ip port =>
        obtain ⟨v, hv⟩ := exists_block ip.length_bytes
        refine ⟨v, port, by rw [hv], ?_, rfl⟩
        rw [Ipv4.bytes_injective ((Ipv4.bytes_ofVector v).trans hv)]
  | ipv6 =>
    rw [receiveBody, hears_block_word]
    constructor
    · intro h
      obtain ⟨v, port, rfl, rfl, rfl⟩ := h
      rw [← Ipv6.bytes_ofVector]
      exact ⟨_, .ipv6 _ port, rfl, rfl⟩
    · intro h
      obtain ⟨_, hb, rfl, rfl⟩ := h
      cases hb with
      | ipv6 ip port =>
        obtain ⟨v, hv⟩ := exists_block ip.length_bytes
        refine ⟨v, port, by rw [hv], ?_, rfl⟩
        rw [Ipv6.bytes_injective ((Ipv6.bytes_ofVector v).trans hv)]
  | domain =>
    simp only [receiveBody, hears_byte_bind, hears_block_word]
    constructor
    · intro h
      obtain ⟨length, _, rfl, v, port, rfl, rfl, rfl⟩ := h
      refine ⟨_, .domain v.length_toList port, rfl, ?_⟩
      rw [Ledger.read_read, Nat.add_comm]; rfl
    · intro h
      obtain ⟨_, hb, rfl, rfl⟩ := h
      cases hb with
      | @domain length name h port =>
        obtain ⟨v, rfl⟩ := exists_block h
        refine ⟨length, _, rfl, v, port, rfl, rfl, ?_⟩
        rw [Ledger.read_read, Nat.add_comm]; rfl

theorem hears_receiveBody_bind {type : AddressType} {k : Address → Conversation SocksError α}
    {r : Except SocksError α} :
    (receiveBody type >>= k).Hears l heard r l' ↔
      ∃ body e rest, heard = body ++ rest ∧ Body type body e ∧
        (k ⟨e⟩).Hears (l.read body.length) rest r l' := by
  simp only [hears_bind, hears_receiveBody]
  constructor
  · intro h
    obtain ⟨_, _, _, _, h, _⟩ | ⟨_, body, rest, _, rfl, ⟨e, hb, h, rfl⟩, hk⟩ := h <;> cases h
    exact ⟨body, e, rest, rfl, hb, hk⟩
  · intro h
    obtain ⟨body, e, rest, rfl, hb, hk⟩ := h
    exact .inr ⟨_, body, rest, _, rfl, ⟨e, hb, rfl, rfl⟩, hk⟩

end Address

end Socks

namespace Socks5

open Socks

/-- The replies of a server, and what they are understood as. -/
inductive Answer : Bytes → Except SocksError Reply → Prop where
  | wrongVersion {v : UInt8} (h : v ≠ 5) (c rsv t : UInt8) :
    Answer [v, c, rsv, t] (.error (.invalidVersion v))
  | wrongType {t : UInt8} (h : t ≠ 1 ∧ t ≠ 3 ∧ t ≠ 4) (c rsv : UInt8) :
    Answer [5, c, rsv, t] (.error (.invalidAddressType t))
  | reply (c rsv : UInt8) {block : Bytes} {bound : Endpoint} (h : Address.Block block bound) :
    Answer ([5, c, rsv] ++ block) (.ok ⟨.ofCode c, ⟨bound⟩⟩)

theorem hears_selection {r : Except SocksError Selection} :
    Selection.receive.Hears l heard r l' ↔
      ∃ v m, heard = [v, m] ∧ l' = l.read 2 ∧
        r = if v = 5 then .ok ⟨.ofCode m⟩ else .error (.invalidVersion v) := by
  rw [Selection.receive, hears_block_bind]
  simp only [hears_ofExcept]
  constructor
  · intro h
    obtain ⟨v, _, rfl, rfl, rfl, rfl⟩ := h
    obtain ⟨v, m, rfl⟩ := exists_two v
    exact ⟨v, m, rfl, rfl, rfl⟩
  · intro h
    obtain ⟨v, m, rfl, rfl, rfl⟩ := h
    exact ⟨#v[v, m], [], rfl, rfl, rfl, rfl⟩

theorem hears_loginReply {r : Except SocksError LoginReply} :
    LoginReply.receive.Hears l heard r l' ↔
      ∃ v st, heard = [v, st] ∧ r = .ok ⟨v, st⟩ ∧ l' = l.read 2 := by
  rw [LoginReply.receive, hears_block_bind]
  simp only [hears_pure]
  constructor
  · intro h
    obtain ⟨v, _, rfl, rfl, rfl, rfl⟩ := h
    obtain ⟨v, m, rfl⟩ := exists_two v
    exact ⟨v, m, rfl, rfl, rfl⟩
  · intro h
    obtain ⟨v, m, rfl, rfl, rfl⟩ := h
    exact ⟨#v[v, m], [], rfl, rfl, rfl, rfl⟩

theorem Reply.headOfVector_mk (v c rsv t : UInt8) :
    headOfVector #v[v, c, rsv, t] =
      if v = 5 then (AddressType.ofCode t).map (ReplyField.ofCode c, ·)
      else .error (.invalidVersion v) := rfl

theorem hears_reply {r : Except SocksError Reply} :
    Reply.receive.Hears l heard r l' ↔ Answer heard r ∧ l' = l.read heard.length := by
  rw [Reply.receive, hears_block_bind]
  simp only [hears_ofExcept_bind]
  constructor
  · intro h
    obtain ⟨v, rest, rfl, h⟩ := h
    obtain ⟨v, c, rsv, t, rfl⟩ := exists_four v
    rw [Reply.headOfVector_mk] at h
    by_cases hv : v = 5
    · subst hv
      rw [if_pos rfl] at h
      cases ht : AddressType.ofCode t with
      | error e =>
        obtain ⟨hne, rfl⟩ := AddressType.ofCode_eq_error.mp ht
        rw [ht] at h
        obtain ⟨rfl, rfl, rfl⟩ := h
        exact ⟨.wrongType hne c rsv, rfl⟩
      | ok type =>
        obtain rfl := AddressType.ofCode_eq_ok.mp ht
        rw [ht] at h
        obtain ⟨body, e, _, rfl, hb, rfl, rfl, rfl⟩ := Address.hears_receiveBody_bind.mp h
        rw [List.append_nil]
        refine ⟨.reply c rsv (.mk hb), ?_⟩
        rw [Ledger.read_read, Nat.add_comm]; rfl
    · rw [if_neg hv] at h
      obtain ⟨rfl, rfl, rfl⟩ := h
      exact ⟨.wrongVersion hv c rsv t, rfl⟩
  · intro h
    obtain ⟨h, rfl⟩ := h
    cases h with
    | @wrongVersion v hv c rsv t =>
      refine ⟨#v[v, c, rsv, t], [], rfl, ?_⟩
      rw [Reply.headOfVector_mk, if_neg hv]
      exact ⟨rfl, rfl, rfl⟩
    | @wrongType t ht c rsv =>
      refine ⟨#v[5, c, rsv, t], [], rfl, ?_⟩
      rw [Reply.headOfVector_mk, if_pos rfl, AddressType.ofCode_eq_error.mpr ⟨ht, rfl⟩]
      exact ⟨rfl, rfl, rfl⟩
    | reply c rsv h =>
      cases h with
      | @mk type body _ hb =>
        refine ⟨#v[5, c, rsv, type.code], body, rfl, ?_⟩
        rw [Reply.headOfVector_mk, if_pos rfl, AddressType.ofCode_eq_ok.mpr rfl]
        refine Address.hears_receiveBody_bind.mpr
          ⟨body, _, [], (List.append_nil _).symm, hb, rfl, rfl, ?_⟩
        rw [Ledger.read_read, Nat.add_comm]; rfl

end Socks5

end ProxyTunnel

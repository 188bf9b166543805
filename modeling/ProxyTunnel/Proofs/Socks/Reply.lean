import ProxyTunnel.Proofs.Socks.Address

/-!
# Replies there and back

A reply is less than its bytes: the reserved byte is skipped, and what is no UTF-8 in a domain name
is replaced. Nothing else is lost, so the bytes can be written again exactly if the name in them, if
there is one, is the form of a text (`Address.toBytes_of_block`). The other way round it is the
answers that share a byte which cannot be told apart.

* `Reply.toBytes_receive`: both ways, on streams of all kinds.
-/

namespace ProxyTunnel

open Text Net Conversation

namespace Socks.Address

/-- The bytes of the domain name in the bytes of an address, if these hold one. -/
def nameBytes? : Bytes → Option Bytes
  | 3 :: length :: bs => some (bs.take length.toNat)
  | _ => none

/-- The endpoint that was read from some bytes is no domain name, or one whose bytes are UTF-8. -/
def Kept (bs : Bytes) (e : Endpoint) : Prop :=
  (∀ name port, e ≠ .domain name port) ∨ ∃ name, nameBytes? bs = some name ∧ Utf8.IsValid name

theorem kept_domain {length : UInt8} {name : Bytes} (h : name.length = length.toNat) {text : String}
    {port port' : UInt16} :
    Kept (3 :: (length :: name ++ Word.bytes port)) (.domain text port') ↔ Utf8.IsValid name := by
  have hname : nameBytes? (3 :: (length :: name ++ Word.bytes port)) = some name :=
    congrArg some (List.take_left' h)
  constructor
  · intro hkept
    obtain hno | ⟨name', hname', hvalid⟩ := hkept
    · exact absurd rfl (hno text port')
    · cases hname.symm.trans hname'
      exact hvalid
  · intro hvalid
    exact .inr ⟨name, hname, hvalid⟩

/-- An address is written as the bytes that it was read from exactly if it kept all of them. -/
theorem toBytes_of_block {block : Bytes} {e : Endpoint} (h : Block block e) :
    (Address.mk e).toBytes = block ↔ Kept block e := by
  obtain ⟨hbody⟩ := h
  cases hbody with
  | ipv4 ip port => exact iff_of_true rfl (.inl nofun)
  | ipv6 ip port => exact iff_of_true rfl (.inl nofun)
  | @domain length name hlen port =>
    refine Iff.trans ?_ (kept_domain hlen).symm
    rw [← Utf8.encode_decodeLossy]
    constructor
    · intro hbytes
      have hbody : Utf8.encode (Utf8.decodeLossy name) ++ Word.bytes port =
          name ++ Word.bytes port := congrArg (List.drop 2) hbytes
      exact List.append_cancel_right hbody
    · intro hname
      show 3 :: (UInt8.ofNat (Utf8.encode (Utf8.decodeLossy name)).length ::
        Utf8.encode (Utf8.decodeLossy name) ++ Word.bytes port) = _
      rw [hname, hlen, UInt8.ofNat_toNat]
      rfl

end Socks.Address

namespace Socks5.Reply

open Socks

variable {s s' : Script} {reply : Reply}

theorem answer_toBytes (field : ReplyField) {a : Address} (ha : a.Fits) :
    Answer (Reply.mk field a).toBytes (.ok ⟨.ofCode field.code, a.unscoped⟩) :=
  .reply field.code 0 (Address.block_toBytes ha)

/-- Bytes that are a reply are read as that reply, whatever comes behind them. -/
theorem run_of_answer {w rest : Bytes} {tail : Tail} (h : Answer w (.ok reply))
    (hs : s.Holds tail (w ++ rest)) :
    ∃ s', receive.run 0 s = (.ok reply, s') ∧ s'.ledger = s.ledger.read w.length ∧
      s'.Holds tail rest :=
  Hears.run_answers (hs.answers receive) (hears_reply.mpr ⟨h, rfl⟩)

/-- A reply that was read is written as the bytes that were consumed for it, with a zero for the
reserved byte, exactly if its address is no domain name or one whose bytes are UTF-8. What is
written then is read as that reply again. And every reply that can be written is read as one with
the answer that its byte stands for and the same address, but for flow information and scope. What
stands behind a reply is left, whatever it says. -/
theorem toBytes_receive :
    (∀ (s s' : Script) (reply : Reply), receive.run 0 s = (.ok reply, s') →
      ∃ w, s.unread = w ++ s'.unread ∧ s'.consumed = s.consumed + w.length ∧
        (reply.toBytes = w.set 2 0 ↔ Address.Kept (w.drop 3) reply.bound.endpoint) ∧
        (reply.toBytes = w.set 2 0 → ∀ (t : Script) (tail : Tail) (rest : Bytes),
          t.Holds tail (reply.toBytes ++ rest) →
          ∃ t', receive.run 0 t = (.ok reply, t') ∧
            t'.ledger = t.ledger.read reply.toBytes.length ∧ t'.Holds tail rest)) ∧
    ∀ (field : ReplyField) (target : Endpoint) (a : Address), Address.ofEndpoint target = .ok a →
      ∀ (t : Script) (tail : Tail) (rest : Bytes),
        t.Holds tail ((Reply.mk field a).toBytes ++ rest) →
        ∃ t', receive.run 0 t = (.ok ⟨.ofCode field.code, a.unscoped⟩, t') ∧
          t'.ledger = t.ledger.read (Reply.mk field a).toBytes.length ∧ t'.Holds tail rest := by
  constructor
  · intro s s' reply hrun
    obtain ⟨w, put, hheard, hcarries⟩ := hears_of_run hrun
    obtain ⟨hanswer, -⟩ := hears_reply.mp hheard
    refine ⟨w, hcarries.unread, hcarries.consumed, ?_⟩
    cases hanswer with
    | @reply c rsv block bound hblock =>
      have hset : ([5, c, rsv] ++ block).set 2 0 = [5, c, 0] ++ block := rfl
      have hbytes : (Reply.mk (.ofCode c) ⟨bound⟩).toBytes =
          [5, c, 0] ++ (Address.mk bound).toBytes := by
        rw [toBytes, ReplyField.code_ofCode]
        rfl
      refine ⟨?_, fun hsame t tail rest ht => ?_⟩
      · rw [hset, hbytes]
        exact (List.append_right_inj _).trans (Address.toBytes_of_block hblock)
      · rw [hsame, hset] at ht ⊢
        exact run_of_answer (.reply c 0 hblock) ht
  · intro field target a ha t tail rest ht
    exact run_of_answer (answer_toBytes field (Address.ofEndpoint_eq_ok ha).2) ht

/-- A reply with something in its reserved byte, and a reply whose answer shares its byte. -/
theorem toBytes_receive_loopback :
    let s : Script := { items := [.data [5, 0, 9, 1, 127], .fault .interrupted,
      .data [0, 0, 1, 0, 80, 42], .stall] }
    let t : Script := { items := [.data [5, 1, 0, 1, 127, 0, 0, 1, 0, 80, 42], .stall] }
    let a : Address := ⟨.socket (.v4 ⟨127, 0, 0, 1⟩ 80)⟩
    (receive.run 0 s).1 = .ok ⟨.success, a⟩ ∧
      (Reply.mk .success a).toBytes = [5, 0, 0, 1, 127, 0, 0, 1, 0, 80] ∧
      (receive.run 0 t).1 = .ok ⟨.serverFailure, a⟩ ∧
      (Reply.mk (.unknown 1) a).toBytes = [5, 1, 0, 1, 127, 0, 0, 1, 0, 80] := by
  intro s t a
  have hs : s.Holds .silent ([5, 0, 9, 1, 127, 0, 0, 1, 0, 80] ++ [42]) :=
    ⟨⟨by decide, rfl, rfl⟩, .data [5, 0, 9, 1, 127] (.interrupted (.data _ (.stall rfl [])))⟩
  have ht : t.Holds .silent ([5, 1, 0, 1, 127, 0, 0, 1, 0, 80] ++ [42]) :=
    ⟨⟨by decide, rfl, rfl⟩, .data _ (.stall rfl [])⟩
  have hanswer : Answer [5, 0, 9, 1, 127, 0, 0, 1, 0, 80] (.ok ⟨.success, a⟩) :=
    .reply 0 9 (.mk (.ipv4 ⟨127, 0, 0, 1⟩ 80))
  have hwritten : (Reply.mk (.unknown 1) a).toBytes = [5, 1, 0, 1, 127, 0, 0, 1, 0, 80] := by decide
  obtain ⟨s', hrun, hledger, -⟩ := run_of_answer hanswer hs
  obtain ⟨t', hagain, -⟩ := toBytes_receive.2 (.unknown 1) (.socket (.v4 ⟨127, 0, 0, 1⟩ 80)) a rfl
    t .silent [42] (by rw [hwritten]; exact ht)
  obtain ⟨w, hunread, hconsumed, hbytes, -⟩ := toBytes_receive.1 s s' _ hrun
  have hlen : w.length = 10 := by
    have h : s'.consumed = 10 := congrArg Ledger.consumed hledger
    rw [h] at hconsumed
    exact (Nat.zero_add _ ▸ hconsumed).symm
  have hw : w = [5, 0, 9, 1, 127, 0, 0, 1, 0, 80] :=
    (List.take_left' hlen).symm.trans (congrArg (List.take 10) hunread.symm)
  refine ⟨congrArg Prod.fst hrun, ?_, congrArg Prod.fst hagain, hwritten⟩
  rw [hw] at hbytes
  exact hbytes.mpr (.inl nofun)

end Socks5.Reply

end ProxyTunnel

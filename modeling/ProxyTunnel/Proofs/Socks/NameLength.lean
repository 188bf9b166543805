import ProxyTunnel.Proofs.Socks.Address

/-!
# How long the domain name of an address may be

The length byte of an address is right exactly if its domain name fits (`Fits`). A longer name is
written behind a byte that is too small, and whoever reads the address loses his place inside the
name (`receive_of_long`). Endpoints make addresses that fit. An address made of bytes may not: what
is no UTF-8 in its name is replaced by something longer, and the length is not looked at again
(`not_fits_received`).

* `fits_iff_framed`, `fits_iff_readsBack`: names that fit are those that can be sent;
* `fits_iff_sendable`: which addresses, made in any way, these are.
-/

namespace ProxyTunnel.Socks.Address

open Text Net Conversation

variable {a : Address} {name : String} {port : UInt16}

/-- The length byte tells how many bytes of the domain name follow it. -/
def Framed (a : Address) : Prop :=
  ∀ name port, a.endpoint = .domain name port → ∃ length : UInt8,
    a.toBytes = 3 :: length :: (Utf8.encode name ++ Word.bytes port) ∧
      (Utf8.encode name).length = length.toNat

/-- Wherever the bytes of the address are next on a stream, they are read as that address, and what
stands behind them is left. -/
def ReadsBack (a : Address) : Prop :=
  ∀ (s : Script) (tail : Tail) (rest : Bytes), s.Holds tail (a.toBytes ++ rest) →
    ∃ s', receive.run 0 s = (.ok a.unscoped, s') ∧
      s'.ledger = s.ledger.read a.toBytes.length ∧ s'.Holds tail rest

theorem toBytes_domain (name : String) (port : UInt16) :
    (Address.mk (.domain name port)).toBytes =
      3 :: UInt8.ofNat (Utf8.encode name).length :: (Utf8.encode name ++ Word.bytes port) := rfl

theorem fits_domain :
    (Address.mk (.domain name port)).Fits ↔ (Utf8.encode name).length ≤ 255 := by
  constructor
  · intro h
    exact h name port rfl
  · intro hshort name' port' he
    cases he
    exact hshort

theorem fits_iff_framed : a.Fits ↔ a.Framed := by
  constructor
  · rintro h name port he
    obtain ⟨e⟩ := a
    obtain rfl : e = .domain name port := he
    have hshort : (Utf8.encode name).length ≤ 255 := h name port rfl
    refine ⟨_, toBytes_domain name port, ?_⟩
    rw [UInt8.toNat_ofNat', Nat.mod_eq_of_lt (by omega)]
  · intro h name port he
    obtain ⟨length, -, hlength⟩ := h name port he
    have := length.toNat_lt
    rw [hlength, maxFieldLength]
    omega

/-! ## Names that are too long -/

/-- The part of a long name that its length byte counts has at least two bytes behind it. -/
theorem exists_counted {bytes : Bytes} (hlong : 255 < bytes.length) :
    ∃ first hi lo behind, bytes = first ++ hi :: lo :: behind ∧
      first.length = bytes.length % 256 := by
  have hsplit := List.take_append_drop (bytes.length % 256) bytes
  have hlength : (bytes.drop (bytes.length % 256)).length = bytes.length - bytes.length % 256 :=
    List.length_drop
  match hrest : bytes.drop (bytes.length % 256) with
  | [] | [_] =>
    rw [hrest] at hlength
    simp only [List.length_cons, List.length_nil] at hlength
    omega
  | hi :: lo :: behind =>
    rw [hrest] at hsplit
    exact ⟨_, hi, lo, behind, hsplit.symm, List.length_take_of_le (Nat.mod_le _ _)⟩

/-- Of a name that is too long, a reader takes a first part for the name and the two bytes behind it
for the port, and leaves the rest of the name to whoever reads on. -/
theorem receive_of_long (hlong : 255 < (Utf8.encode name).length) (port : UInt16) :
    ∃ first hi lo behind, Utf8.encode name = first ++ hi :: lo :: behind ∧
      first.length = (Utf8.encode name).length % 256 ∧
      ∀ (s : Script) (tail : Tail) (rest : Bytes),
        s.Holds tail ((Address.mk (.domain name port)).toBytes ++ rest) →
        ∃ s', receive.run 0 s = (.ok (ofDomainBytes first (Word.ofBytes hi lo)), s') ∧
          s'.ledger = s.ledger.read (first.length + 4) ∧
          s'.Holds tail (behind ++ Word.bytes port ++ rest) := by
  obtain ⟨first, hi, lo, behind, hbytes, hlen⟩ := exists_counted hlong
  refine ⟨first, hi, lo, behind, hbytes, hlen, fun s tail rest hs => ?_⟩
  have hbyte : first.length = (UInt8.ofNat (Utf8.encode name).length).toNat := by
    rw [hlen, UInt8.toNat_ofNat']
  have hblock := Block.mk (Body.domain hbyte (Word.ofBytes hi lo))
  rw [Word.bytes_ofBytes] at hblock
  have hheard := (hears_receive (l := s.ledger)).mpr ⟨hblock, rfl⟩
  have hcount : (AddressType.domain.code ::
      (UInt8.ofNat (Utf8.encode name).length :: first ++ [hi, lo])).length = first.length + 4 := by
    simp only [List.cons_append, List.length_cons, List.length_append, List.length_nil]
  rw [hcount] at hheard
  refine hheard.run_answers (Script.Holds.answers ?_ receive)
  rw [toBytes_domain] at hs
  generalize UInt8.ofNat (Utf8.encode name).length = length at hs
  rw [hbytes] at hs
  simpa [AddressType.code] using hs

theorem fits_iff_readsBack : a.Fits ↔ a.ReadsBack := by
  constructor
  · intro h s tail rest hs
    have hheard : receive.Hears s.ledger a.toBytes (.ok a.unscoped)
        (s.ledger.read a.toBytes.length) := hears_receive.mpr ⟨block_toBytes h, rfl⟩
    exact hheard.run_answers (hs.answers receive)
  · rintro h name port he
    refine Nat.le_of_not_lt fun hlong => ?_
    obtain ⟨e⟩ := a
    obtain rfl : e = .domain name port := he
    obtain ⟨first, hi, lo, behind, hbytes, -, hread⟩ := receive_of_long hlong port
    -- A stream that holds the address and nothing else tells the two readings apart.
    have hs : Script.Holds .ended { items := [.data (Address.mk (.domain name port)).toBytes] }
        ((Address.mk (.domain name port)).toBytes ++ []) :=
      ⟨⟨nofun, rfl, rfl⟩, .data _ (.nil rfl)⟩
    obtain ⟨s', hrun, hledger, -⟩ := h _ _ _ hs
    obtain ⟨s'', hrun', hledger', -⟩ := hread _ _ _ hs
    obtain rfl : s' = s'' := congrArg Prod.snd (hrun.symm.trans hrun')
    have hconsumed := congrArg Ledger.consumed (hledger.symm.trans hledger')
    simp only [Ledger.read, toBytes_domain, hbytes, List.length_cons, List.length_append,
      Word.length_bytes] at hconsumed
    omega

/-! ## Names that were received -/

/-- A name that was received, and has become too long because some of its bytes were replaced. -/
structure Swollen (name : Bytes) : Prop where
  received : name.length ≤ 255
  replaced : ¬Utf8.IsValid name
  long : 255 < (Utf8.encode (Utf8.decodeLossy name)).length
  /-- Three bytes for each replaced one are no harm to shorter names. -/
  length : 85 < name.length

theorem fits_ofDomainBytes {name : Bytes} (h : Utf8.IsValid name ∨ name.length ≤ 85) :
    (ofDomainBytes name port).Fits ↔ name.length ≤ 255 := by
  rw [ofDomainBytes, fits_domain]
  rcases h with h | h
  · rw [Utf8.encode_decodeLossy.mpr h]
  · have := Utf8.length_encode_decodeLossy name
    omega

theorem Swollen.not_fits {name : Bytes} (h : Swollen name) (port : UInt16) :
    ¬(ofDomainBytes name port).Fits := fun hfits =>
  Nat.not_le.mpr h.long (fits_domain.mp hfits)

/-- What the body of an address is read as fits, unless its name has grown. -/
theorem exists_swollen {type : AddressType} {body : Bytes} {e : Endpoint} (h : Body type body e)
    (hno : ¬(Address.mk e).Fits) : ∃ name port, type = .domain ∧
      body = UInt8.ofNat name.length :: (name ++ Word.bytes port) ∧
        Address.mk e = ofDomainBytes name port ∧ Swollen name := by
  cases h with
  | ipv4 ip port => exact absurd nofun hno
  | ipv6 ip port => exact absurd nofun hno
  | @domain length name hlen port =>
    have hreceived : name.length ≤ 255 := by
      have := length.toNat_lt
      omega
    have hother : ¬(Utf8.IsValid name ∨ name.length ≤ 85) := fun h =>
      hno ((fits_ofDomainBytes h).mpr hreceived)
    rw [not_or, Nat.not_le] at hother
    have hlong := Nat.lt_of_not_le fun hshort => hno (fits_domain.mpr hshort)
    refine ⟨name, port, rfl, ?_, rfl, hreceived, hother.1, hlong, hother.2⟩
    rw [hlen, UInt8.ofNat_toNat]
    rfl

section

variable {s s' : Script}

/-- Whatever the stream does, an address that was read from it fits unless its name has grown. -/
theorem not_fits_received (h : receive.run 0 s = (.ok a, s')) :
    ¬a.Fits ↔ ∃ name port, a = ofDomainBytes name port ∧ Swollen name ∧
      s.unread = 3 :: UInt8.ofNat name.length :: (name ++ Word.bytes port) ++ s'.unread := by
  constructor
  · intro hno
    obtain ⟨heard, put, hheard, hcarries⟩ := hears_of_run h
    obtain ⟨⟨hbody⟩, -⟩ := hears_receive.mp hheard
    obtain ⟨name, port, rfl, rfl, ha, hswollen⟩ := exists_swollen hbody hno
    exact ⟨name, port, ha, hswollen, hcarries.unread⟩
  · rintro ⟨name, port, rfl, hswollen, -⟩
    exact hswollen.not_fits port

theorem not_fits_receivedBody {type : AddressType}
    (h : (receiveBody type).run 0 s = (.ok a, s')) :
    ¬a.Fits ↔ ∃ name port, a = ofDomainBytes name port ∧ Swollen name ∧ type = .domain ∧
      s.unread = UInt8.ofNat name.length :: (name ++ Word.bytes port) ++ s'.unread := by
  constructor
  · intro hno
    obtain ⟨heard, put, hheard, hcarries⟩ := hears_of_run h
    obtain ⟨e, hbody, ha, -⟩ := hears_receiveBody.mp hheard
    cases ha
    obtain ⟨name, port, htype, rfl, ha, hswollen⟩ := exists_swollen hbody hno
    exact ⟨name, port, ha, hswollen, htype, hcarries.unread⟩
  · rintro ⟨name, port, rfl, hswollen, -⟩
    exact hswollen.not_fits port

end

/-- The addresses that fit are those whose length byte counts their name, and those that are read
back. An address of an endpoint always does. One that is made of bytes does if they are UTF-8 or few
enough, and at most as many as a length byte can count. One that was read from a stream does unless
it has a name in which so many bytes were replaced that it has outgrown its length byte. -/
theorem fits_iff_sendable (a : Address) :
    (a.Fits ↔ a.Framed) ∧ (a.Fits ↔ a.ReadsBack) ∧
    (∀ target, ofEndpoint target = .ok a → a.Fits) ∧
    (∀ name port, a = ofDomainBytes name port → Utf8.IsValid name ∨ name.length ≤ 85 →
      (a.Fits ↔ name.length ≤ 255)) ∧
    (∀ s s' : Script, receive.run 0 s = (.ok a, s') →
      (¬a.Fits ↔ ∃ name port, a = ofDomainBytes name port ∧ Swollen name ∧
        s.unread = 3 :: UInt8.ofNat name.length :: (name ++ Word.bytes port) ++ s'.unread)) ∧
    ∀ (type : AddressType) (s s' : Script), (receiveBody type).run 0 s = (.ok a, s') →
      (¬a.Fits ↔ ∃ name port, a = ofDomainBytes name port ∧ Swollen name ∧ type = .domain ∧
        s.unread = UInt8.ofNat name.length :: (name ++ Word.bytes port) ++ s'.unread) := by
  refine ⟨fits_iff_framed, fits_iff_readsBack, fun _ h => (ofEndpoint_eq_ok h).2, ?_,
    fun _ _ h => not_fits_received h, fun _ _ _ h => not_fits_receivedBody h⟩
  rintro name port rfl h
  exact fits_ofDomainBytes h

/-- Eighty-five bytes that are no UTF-8 are not too many, whatever stands for them. -/
theorem fits_iff_sendable_replaced :
    (List.replicate 85 (0xFF : UInt8)).length ≤ 85 ∧
      (ofDomainBytes (List.replicate 85 0xFF) 80).Framed := by
  have hlen : (List.replicate 85 (0xFF : UInt8)).length ≤ 85 := by decide
  obtain ⟨hframed, -, -, hbytes, -⟩ :=
    fits_iff_sendable (ofDomainBytes (List.replicate 85 0xFF) 80)
  exact ⟨hlen, hframed.mp ((hbytes _ 80 rfl (.inr hlen)).mpr (by decide))⟩

/-- Eighty-six such bytes are: the name that is read has 258 bytes, and the byte in front of it
says two. -/
theorem not_fits_of_receive :
    let s : Script := { items := [.data (3 :: 86 :: List.replicate 86 0xFF ++ [0, 80])] }
    ∃ a, (receive.run 0 s).1 = .ok a ∧ ¬a.Fits ∧ ¬a.Framed ∧ ¬a.ReadsBack ∧
      a.body.head? = some 2 := by
  intro s
  have hs : s.Holds .ended (3 :: 86 :: List.replicate 86 0xFF ++ [0, 80] ++ []) :=
    ⟨⟨nofun, rfl, rfl⟩, .data _ (.nil rfl)⟩
  have hblock : Block (3 :: 86 :: List.replicate 86 0xFF ++ [0, 80])
      (ofDomainBytes (List.replicate 86 0xFF) 80).endpoint := .mk (.domain (by decide) 80)
  obtain ⟨s', hrun, -⟩ := (hears_receive.mpr ⟨hblock, rfl⟩).run_answers (hs.answers receive)
  have hlong : (Utf8.encode (Utf8.decodeLossy (List.replicate 86 0xFF))).length = 258 := by
    decide +kernel
  have hno : ¬(ofDomainBytes (List.replicate 86 0xFF) 80).Fits := by
    rw [ofDomainBytes, fits_domain, hlong]
    decide
  refine ⟨_, congrArg Prod.fst hrun, hno, mt fits_iff_framed.mpr hno,
    mt fits_iff_readsBack.mpr hno, ?_⟩
  rw [body, ofDomainBytes]
  dsimp only
  rw [hlong]
  rfl

end ProxyTunnel.Socks.Address

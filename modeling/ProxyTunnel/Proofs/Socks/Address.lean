import ProxyTunnel.Proofs.Socks.Replies
import ProxyTunnel.Proofs.Stream.Heard
import ProxyTunnel.Proofs.Text.Utf8

/-!
# Addresses there and back

What is written of an address is a block that stands for the same address, but for flow information
and scope of IPv6 (`block_toBytes`). The block says itself where it ends, so it is read back from
any stream that it stands in front of.

* `ofEndpoint_eq_error`, `ofEndpoint_eq_ok`: which endpoints have an address;
* `hears_receive`: who waits for an address hears exactly the blocks;
* `receive_toBytes`: an address is read back, and nothing behind it is touched.
-/

namespace ProxyTunnel.Socks

open Text Net Conversation

namespace Address

variable {a : Address}

/-- What the bytes of an address tell of it: no flow information and no scope. -/
def unscoped (a : Address) : Address :=
  match a.endpoint with
  | .socket address => ⟨.socket address.unscoped⟩
  | .domain name port => ⟨.domain name port⟩

/-- A domain name, if the address has one, fits behind its length byte. -/
def Fits (a : Address) : Prop :=
  ∀ name port, a.endpoint = .domain name port → (Utf8.encode name).length ≤ maxFieldLength

/-! ## Which endpoints have an address -/

theorem ofEndpoint_eq_error {target : Endpoint} {e : SocksError} :
    ofEndpoint target = .error e ↔ ∃ name port, target.normalize = .domain name port ∧
      maxFieldLength < (Utf8.encode name).length ∧
        e = .domainTooLong (Utf8.encode name).length := by
  rw [ofEndpoint]
  cases target.normalize with
  | socket address =>
    constructor
    · intro h
      cases h
    · intro h
      obtain ⟨name, port, h, -⟩ := h
      cases h
  | domain name port =>
    dsimp only
    constructor
    · intro h
      split at h <;> cases h
      exact ⟨name, port, rfl, ‹_›, rfl⟩
    · intro h
      obtain ⟨_, _, h, hlong, rfl⟩ := h
      cases h
      exact if_pos hlong

theorem ofEndpoint_eq_ok {target : Endpoint} (h : ofEndpoint target = .ok a) :
    a.endpoint = target.normalize ∧ a.Fits := by
  rw [ofEndpoint] at h
  split at h
  · rename_i name port hname
    dsimp only at h
    split at h <;> cases h
    rename_i hshort
    refine ⟨hname.symm, fun _ _ h => ?_⟩
    cases h
    exact Nat.le_of_not_lt hshort
  · rename_i address haddress
    cases h
    exact ⟨haddress.symm, nofun⟩

/-! ## Blocks -/

theorem body_toBytes (ha : a.Fits) :
    Body a.type (a.body ++ Word.bytes a.endpoint.port) a.unscoped.endpoint := by
  obtain ⟨address | ⟨name, port⟩⟩ := a
  · cases address with
    | v4 ip port => exact .ipv4 ip port
    | v6 ip port flow scope => exact .ipv6 ip port
  · have hlen : (Utf8.encode name).length ≤ 255 := ha name port rfl
    have hbyte : (Utf8.encode name).length = (UInt8.ofNat (Utf8.encode name).length).toNat := by
      rw [UInt8.toNat_ofNat']
      omega
    have hbody := Body.domain hbyte port
    rwa [Utf8.decodeLossy_encode] at hbody

/-- What is written of an address stands for it. -/
theorem block_toBytes (ha : a.Fits) : Block a.toBytes a.unscoped.endpoint :=
  .mk (body_toBytes ha)

section

variable {l l' : Ledger} {heard : Bytes}

theorem hears_receive {e : Endpoint} :
    receive.Hears l heard (.ok ⟨e⟩) l' ↔ Block heard e ∧ l' = l.read heard.length := by
  rw [receive]
  simp only [hears_byte_bind, hears_ofExcept_bind]
  constructor
  · intro h
    obtain ⟨code, rest, rfl, h⟩ := h
    split at h
    · rename_i type htype
      obtain rfl := AddressType.ofCode_eq_ok.mp htype
      obtain ⟨_, hbody, he, rfl⟩ := hears_receiveBody.mp h
      cases he
      exact ⟨.mk hbody, by rw [Ledger.read_read, Nat.add_comm]; rfl⟩
    · obtain ⟨-, h, -⟩ := h
      cases h
  · intro h
    obtain ⟨hblock, rfl⟩ := h
    cases hblock with
    | @mk type body _ hbody =>
      refine ⟨type.code, body, rfl, ?_⟩
      rw [AddressType.ofCode_eq_ok.mpr rfl]
      refine hears_receiveBody.mpr ⟨e, hbody, rfl, ?_⟩
      rw [Ledger.read_read, Nat.add_comm]; rfl

end

/-- Exactly the endpoints whose name is too long have no address. The bytes of an address are as
many as it says, and on every stream on which they are next, in any pieces and with anything behind
them, they are read as that address, and what stands behind them is left. -/
theorem receive_toBytes (target : Endpoint) :
    (∀ e, ofEndpoint target = .error e ↔ ∃ name port, target.normalize = .domain name port ∧
      255 < (Utf8.encode name).length ∧ e = .domainTooLong (Utf8.encode name).length) ∧
    ∀ a, ofEndpoint target = .ok a →
      a.endpoint = target.normalize ∧ a.toBytes.length = a.size ∧
      ∀ (s : Script) (tail : Tail) (rest : Bytes), s.Holds tail (a.toBytes ++ rest) →
        ∃ s', receive.run 0 s = (.ok a.unscoped, s') ∧
          s'.ledger = s.ledger.read a.toBytes.length ∧ s'.Holds tail rest := by
  refine ⟨fun e => ofEndpoint_eq_error, fun a ha => ?_⟩
  obtain ⟨hendpoint, hfits⟩ := ofEndpoint_eq_ok ha
  refine ⟨hendpoint, a.length_toBytes, fun s tail rest hs => ?_⟩
  have hheard : receive.Hears s.ledger a.toBytes (.ok a.unscoped)
      (s.ledger.read a.toBytes.length) := hears_receive.mpr ⟨block_toBytes hfits, rfl⟩
  exact hheard.run_answers (hs.answers receive)

/-- A name outside ASCII, cut inside a character, with the first byte of something else behind. -/
theorem receive_toBytes_umlaut :
    let s : Script := { items := [.data [3, 5, 195], .fault .interrupted,
      .data [188, 46, 100, 101, 0, 80, 42], .stall] }
    ofEndpoint (.domain "ü.de" 80) = .ok ⟨.domain "ü.de" 80⟩ ∧
      (receive.run 0 s).1 = .ok ⟨.domain "ü.de" 80⟩ ∧ (receive.run 0 s).2.consumed = 9 := by
  intro s
  have ha : ofEndpoint (.domain "ü.de" 80) = .ok ⟨.domain "ü.de" 80⟩ := by rfl
  have hbytes :
      (Address.mk (.domain "ü.de" 80)).toBytes = [3, 5, 195, 188, 46, 100, 101, 0, 80] := by
    decide
  have hs : s.Holds .silent ([3, 5, 195] ++ ([188, 46, 100, 101, 0, 80, 42] ++ [])) :=
    ⟨⟨by decide, rfl, rfl⟩, .data _ (.interrupted (.data _ (.stall rfl [])))⟩
  obtain ⟨-, h⟩ := receive_toBytes (.domain "ü.de" 80)
  obtain ⟨s', hrun, hledger, -⟩ := (h _ ha).2.2 s .silent [42] (by rw [hbytes]; exact hs)
  rw [hrun]
  rw [hbytes] at hledger
  exact ⟨ha, rfl, congrArg Ledger.consumed hledger⟩

end Address

end ProxyTunnel.Socks

import ProxyTunnel.Proofs.Handshake.Orderly
import ProxyTunnel.Proofs.Stream.Serving

/-!
# Handshakes and the pieces that bytes come in

A handshake goes the same way on all streams that serve the same bytes in time, however the bytes
are cut into reads, however little a write takes, and whether a reply is there from the start or
comes only when all of the request it answers has been written (`IsHandshake.run_congr`). What
stands behind the reply stays in the stream and decides nothing.
-/

namespace ProxyTunnel

open Conversation Script

variable {α : Type} {c : Conversation HandshakeError α} {tail : Tail} {S : Bytes}
  {s₁ s₂ s₁' s₂' : Script} {o₁ o₂ : Outcome HandshakeError α}

theorem IsHandshake.run_congr (hc : IsHandshake c) (h₁ : s₁.Answers c tail S)
    (h₂ : s₂.Answers c tail S) (hl : s₂.ledger = s₁.ledger)
    (hrun₁ : c.run 0 s₁ = (o₁, s₁')) (hrun₂ : c.run 0 s₂ = (o₂, s₂')) :
    o₂ = o₁ ∧ s₂'.ledger = s₁'.ledger ∧
      (o₁ ≠ .stalled → o₁ ≠ .error .streamTruncated → ∃ heard rest,
        S = heard ++ rest ∧ s₁'.consumed = s₁.consumed + heard.length ∧
        s₁'.Holds tail rest ∧ s₂'.Holds tail rest ∧
        ∀ tail' B (s : Script), s.Answers c tail' (heard ++ B) → s.ledger = s₁.ledger →
          ∃ s' : Script, c.run 0 s = (o₁, s') ∧ s'.ledger = s₁'.ledger ∧ s'.Holds tail' B) := by
  obtain ⟨t₁, ht₁, hl₁, -, hh₁⟩ := run_eq_course h₁
  obtain ⟨t₂, ht₂, hl₂, -, hh₂⟩ := run_eq_course h₂
  rw [hl] at ht₂ hl₂ hh₂
  obtain ⟨rfl, rfl⟩ := Prod.mk.inj (hrun₁.symm.trans ht₁)
  obtain ⟨rfl, rfl⟩ := Prod.mk.inj (hrun₂.symm.trans ht₂)
  refine ⟨rfl, hl₂.trans hl₁.symm, fun hstall htrunc => ?_⟩
  obtain ⟨heard, hS, hcons, hbehind⟩ :=
    course_behind hc.orderly.endsWith rfl hstall fun e he hp => htrunc (by rw [he, hp])
  refine ⟨heard, _, hS, ?_, hh₁, hh₂, fun tail' B s hs hsl => ?_⟩
  · show s₁'.ledger.consumed = _
    rw [hl₁]
    exact hcons
  · obtain ⟨s', hr, hl', -, hh⟩ := run_eq_course hs
    rw [hsl, hbehind] at hr hl' hh
    exact ⟨s', hr, hl'.trans hl₁.symm, hh⟩

/-- A reply that comes at once, and the same reply in three pieces that are held back, on a stream
that takes one byte at a time. -/
theorem run_congr_granted :
    let c := handshakeSocks4 (.socket (.v4 ⟨10, 0, 0, 1⟩ 80)) []
    let pieces : List Bytes := [[0, 0x5A], [0, 0, 0, 0, 0], [0, 42]]
    let s₁ : Script := { items := [.data pieces.flatten] }
    let s₂ : Script :=
      { items := heldBack (fun k => c.spoken (pieces.flatten.take k)) pieces, maxWrite := some 1 }
    (c.run 0 s₂).1 = (c.run 0 s₁).1 ∧ (c.run 0 s₂).2.ledger = (c.run 0 s₁).2.ledger ∧
      (c.run 0 s₁).1 = .ok () := by
  intro c pieces s₁ s₂
  have h₁ : s₁.Answers c .ended pieces.flatten := by
    refine ⟨⟨nofun, rfl, rfl⟩, ?_⟩
    exact serves_data _ [pieces.flatten]
  have h₂ : s₂.Answers c .ended pieces.flatten := by
    refine ⟨⟨by decide, rfl, rfl⟩, ?_⟩
    exact (serves_heldBack _ pieces).mono fun k => Nat.le_of_eq (Nat.zero_add _).symm
  obtain ⟨ho, hl, -⟩ :=
    (IsHandshake.socks4 _ _).run_congr h₁ h₂ rfl (Prod.eta _).symm (Prod.eta _).symm
  exact ⟨ho, hl, rfl⟩

end ProxyTunnel

import ProxyTunnel.Text.Split

/-!
# The parts of a text

Cut at every separator, a text without any is its own only part (`splitAll_of_free`), and what
stands in front of a separator is the first part (`splitAll_append`); and there is no other way to
get parts (`eq_of_splitAll`).
-/

namespace ProxyTunnel.Text

variable {isSeparator : Char → Bool}

theorem splitAll_ne_nil (s : List Char) : splitAll isSeparator s ≠ [] := by
  cases s with
  | nil => exact List.cons_ne_nil _ _
  | cons c s =>
    rw [splitAll]
    split
    · exact List.cons_ne_nil _ _
    · split <;> exact List.cons_ne_nil _ _

/-- A character that is no separator belongs to the first part. -/
theorem splitAll_cons {c : Char} (hc : isSeparator c = false) {s p : List Char}
    {ps : List (List Char)} (h : splitAll isSeparator s = p :: ps) :
    splitAll isSeparator (c :: s) = (c :: p) :: ps := by
  rw [splitAll, if_neg (by simp [hc]), h]

theorem splitAll_append {p : List Char} (hp : ∀ c ∈ p, isSeparator c = false) {c : Char}
    (hc : isSeparator c = true) (s : List Char) :
    splitAll isSeparator (p ++ c :: s) = p :: splitAll isSeparator s := by
  induction p with
  | nil => rw [List.nil_append, splitAll, if_pos hc]
  | cons x p ih =>
    obtain ⟨hx, hp⟩ := List.forall_mem_cons.mp hp
    exact splitAll_cons hx (ih hp)

theorem splitAll_of_free {s : List Char} (hs : ∀ c ∈ s, isSeparator c = false) :
    splitAll isSeparator s = [s] := by
  induction s with
  | nil => rfl
  | cons c s ih =>
    obtain ⟨hc, hs⟩ := List.forall_mem_cons.mp hs
    exact splitAll_cons hc (ih hs)

/-- The first part is all there is, or stands in front of a separator and the other parts. -/
theorem eq_of_splitAll {s p : List Char} {ps : List (List Char)}
    (h : splitAll isSeparator s = p :: ps) : (s = p ∧ ps = []) ∨
      ∃ c t, isSeparator c = true ∧ s = p ++ c :: t ∧ splitAll isSeparator t = ps := by
  induction s generalizing p with
  | nil =>
    cases h
    exact .inl ⟨rfl, rfl⟩
  | cons x s ih =>
    by_cases hx : isSeparator x = true
    · rw [splitAll, if_pos hx] at h
      cases h
      exact .inr ⟨x, s, hx, rfl, rfl⟩
    · obtain ⟨first, more, hsplit⟩ := List.exists_cons_of_ne_nil (splitAll_ne_nil (s := s))
      rw [splitAll_cons (by simpa using hx) hsplit] at h
      obtain ⟨rfl, rfl⟩ := List.cons.inj h
      rcases ih hsplit with ⟨rfl, rfl⟩ | ⟨c, t, hc, rfl, ht⟩
      · exact .inl ⟨rfl, rfl⟩
      · exact .inr ⟨c, t, hc, rfl, ht⟩

theorem mem_of_mem_splitAll {s p : List Char} (hp : p ∈ splitAll isSeparator s) :
    ∀ c ∈ p, c ∈ s ∧ isSeparator c = false := by
  induction s generalizing p with
  | nil =>
    rw [List.mem_singleton.mp hp]
    exact List.forall_mem_nil _
  | cons x s ih =>
    intro c hc
    by_cases hx : isSeparator x = true
    · rw [splitAll, if_pos hx, List.mem_cons] at hp
      rcases hp with rfl | hp
      · cases hc
      · exact ⟨List.mem_cons_of_mem x (ih hp c hc).1, (ih hp c hc).2⟩
    · have hx : isSeparator x = false := by simpa using hx
      obtain ⟨first, more, hsplit⟩ := List.exists_cons_of_ne_nil (splitAll_ne_nil (s := s))
      rw [splitAll_cons hx hsplit, List.mem_cons] at hp
      rw [hsplit] at ih
      rcases hp with rfl | hp
      · rcases List.mem_cons.mp hc with rfl | hc
        · exact ⟨List.mem_cons_self, hx⟩
        · obtain ⟨hmem, hfree⟩ := ih List.mem_cons_self c hc
          exact ⟨List.mem_cons_of_mem x hmem, hfree⟩
      · obtain ⟨hmem, hfree⟩ := ih (List.mem_cons_of_mem first hp) c hc
        exact ⟨List.mem_cons_of_mem x hmem, hfree⟩

end ProxyTunnel.Text

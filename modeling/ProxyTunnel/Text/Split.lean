/-!
# Splitting texts

Cutting a text at every separator, or in two at its last one. The parts and separators make up the
text again (`eq_append_of_splitLast?`, `splitLast?_append`).
-/

namespace ProxyTunnel.Text

/-- The parts of a row of characters between separators. -/
def splitAll (isSeparator : Char → Bool) : List Char → List (List Char)
  | [] => [[]]
  | c :: s =>
    if isSeparator c then [] :: splitAll isSeparator s
    else match splitAll isSeparator s with
      | [] => [[c]]
      | p :: ps => (c :: p) :: ps

/-- What stands before and behind the last separator. -/
def splitLast? (separator : Char) : List Char → Option (List Char × List Char)
  | [] => none
  | c :: s =>
    match splitLast? separator s with
    | some (before, behind) => some (c :: before, behind)
    | none => if c = separator then some ([], s) else none

theorem splitLast?_eq_none {separator : Char} {s : List Char} :
    splitLast? separator s = none ↔ separator ∉ s := by
  induction s with
  | nil => simp [splitLast?]
  | cons c s ih =>
    simp only [splitLast?, List.mem_cons, not_or]
    cases h : splitLast? separator s with
    | some p => simp_all
    | none =>
      rw [h] at ih
      have := ih.1 rfl
      by_cases hc : c = separator
      · simp [hc]
      · simp [hc, this, Ne.symm hc]

/-- The parts make up the text, and the second holds no separator. -/
theorem eq_append_of_splitLast? {separator : Char} {s before behind : List Char}
    (h : splitLast? separator s = some (before, behind)) :
    s = before ++ separator :: behind ∧ separator ∉ behind := by
  induction s generalizing before with
  | nil => simp [splitLast?] at h
  | cons c s ih =>
    simp only [splitLast?] at h
    cases hs : splitLast? separator s with
    | some p =>
      obtain ⟨b, t⟩ := p
      simp only [hs, Option.some.injEq, Prod.mk.injEq] at h
      obtain ⟨rfl, rfl⟩ := h
      obtain ⟨h₁, h₂⟩ := ih hs
      exact ⟨by rw [h₁]; rfl, h₂⟩
    | none =>
      simp only [hs] at h
      by_cases hc : c = separator
      · simp only [hc, if_true, Option.some.injEq, Prod.mk.injEq] at h
        obtain ⟨rfl, rfl⟩ := h
        exact ⟨by rw [hc]; rfl, splitLast?_eq_none.1 hs⟩
      · simp [hc] at h

/-- A text is split where the last separator was put. -/
theorem splitLast?_append {separator : Char} (before : List Char) {behind : List Char}
    (h : separator ∉ behind) :
    splitLast? separator (before ++ separator :: behind) = some (before, behind) := by
  induction before with
  | nil => simp [splitLast?, splitLast?_eq_none.mpr h]
  | cons c before ih => simp [splitLast?, ih]

end ProxyTunnel.Text

import ProxyTunnel.Idna.Domain
import ProxyTunnel.Proofs.Text.Utf8
import ProxyTunnel.Proofs.Text.Split

/-!
# Names that are their own ASCII form

A name of small ASCII letters, digits and full stops is the same in every form: nothing in it is
mapped, composed, read as Punycode, refused or written in another way (`toAscii_encodeChars`). The
dotted notation of IPv4 addresses is such a name too, but no domain name (`IsDomain`).
-/

namespace ProxyTunnel.Idna

open Unicode Text

/-- Small ASCII letters and digits. -/
def IsNameChar (c : Char) : Prop := c.isLower = true ∨ c.isDigit = true

instance : DecidablePred IsNameChar := fun _ => inferInstanceAs (Decidable (_ ∨ _))

theorem IsNameChar.toNat {c : Char} (h : IsNameChar c) :
    48 ≤ c.toNat ∧ c.toNat ≤ 57 ∨ 97 ≤ c.toNat ∧ c.toNat ≤ 122 := by
  rcases h with h | h
  · obtain ⟨hlow, hhigh⟩ := Bool.and_eq_true_iff.mp h
    exact .inr ⟨UInt32.le_iff_toNat_le.mp (of_decide_eq_true hlow),
      UInt32.le_iff_toNat_le.mp (of_decide_eq_true hhigh)⟩
  · obtain ⟨hlow, hhigh⟩ := Bool.and_eq_true_iff.mp h
    exact .inl ⟨UInt32.le_iff_toNat_le.mp (of_decide_eq_true hlow),
      UInt32.le_iff_toNat_le.mp (of_decide_eq_true hhigh)⟩

/-- The characters of plain names. -/
def IsPlainChar (c : Char) : Prop := IsNameChar c ∨ c = '.'

instance : DecidablePred IsPlainChar := fun _ => inferInstanceAs (Decidable (_ ∨ _))

theorem IsPlainChar.toNat {c : Char} (h : IsPlainChar c) :
    46 ≤ c.toNat ∧ c.toNat ≤ 57 ∧ c.toNat ≠ 47 ∨ 97 ≤ c.toNat ∧ c.toNat ≤ 122 := by
  rcases h with h | rfl
  · have := h.toNat
    omega
  · decide

theorem IsPlainChar.toLower {c : Char} (h : IsPlainChar c) : c.toLower = c := by
  have hc := h.toNat
  refine dif_neg fun hupper => ?_
  simp only [ge_iff_le, UInt32.le_iff_toNat_le] at hupper
  have hlow : 65 ≤ c.toNat := hupper.1
  have hhigh : c.toNat ≤ 90 := hupper.2
  omega

/-! ## Names -/

variable {s : List Char}

theorem ascii_of_plain (h : ∀ c ∈ s, IsPlainChar c) : ∀ c ∈ s, c.toNat < 0x80 := by
  intro c hc
  have := (h c hc).toNat
  omega

theorem mapName_plain (h : ∀ c ∈ s, IsPlainChar c) : mapName s = some s := by
  induction s with
  | nil => rfl
  | cons c s ih =>
    have hascii := ascii_of_plain h c List.mem_cons_self
    obtain ⟨hc, hs⟩ := List.forall_mem_cons.mp h
    rw [mapName, mapChar_ascii hascii, ih hs, hc.toLower]
    rfl

/-- The labels of a plain name are rows of letters and digits. -/
theorem isNameChar_of_label (h : ∀ c ∈ s, IsPlainChar c) {l : List Char}
    (hl : l ∈ splitAll (· = '.') s) : ∀ c ∈ l, IsNameChar c := by
  intro c hc
  obtain ⟨hmem, hdot⟩ := mem_of_mem_splitAll hl c hc
  exact (h c hmem).resolve_right (by simpa using hdot)

theorem joinLabels_splitAll (s : List Char) : joinLabels (splitAll (· = '.') s) = s := by
  induction s with
  | nil => rfl
  | cons c s ih =>
    obtain ⟨first, more, hsplit⟩ :=
      List.exists_cons_of_ne_nil (@splitAll_ne_nil (· = '.') s)
    by_cases hc : c = '.'
    · subst hc
      have hcons : splitAll (· = '.') ('.' :: s) = [] :: splitAll (· = '.') s := rfl
      rw [hcons, hsplit, joinLabels, ← hsplit, ih]
      · rfl
      · exact nofun
    · rw [splitAll_cons (by simpa using hc) hsplit]
      rw [hsplit] at ih
      refine Eq.trans ?_ (congrArg (c :: ·) ih)
      cases more <;> rfl

/-! ## Labels -/

section

variable {l : List Char}

theorem readLabel_plain (h : ∀ c ∈ l, IsNameChar c) : readLabel l = some l := by
  refine if_neg fun hstart => ?_
  have hhyphen : '-' ∈ l.take 4 := by rw [hstart]; decide
  exact absurd (h '-' (List.mem_of_mem_take hhyphen)) (by decide)

theorem joinersAllowed_plain (h : ∀ c ∈ l, IsNameChar c) (before : List Char) :
    joinersAllowed before l = true := by
  induction l generalizing before with
  | nil => rfl
  | cons c l ih =>
    obtain ⟨hc, hl⟩ := List.forall_mem_cons.mp h
    have hnum := hc.toNat
    rw [joinersAllowed, if_neg (by omega), ih hl]
    rfl

theorem isForbidden_plain {c : Char} (h : IsNameChar c) : isForbidden c = false := by
  have hnum := h.toNat
  have hnone : "%#/:<>?@[\\]^|".toList.any (IsNameChar ·) = false := by decide
  have hmem : c ∉ "%#/:<>?@[\\]^|".toList := fun hc =>
    List.any_eq_false.mp hnone c hc (decide_eq_true h)
  rw [isForbidden, Bool.or_eq_false_iff, Bool.or_eq_false_iff]
  refine ⟨⟨decide_eq_false (by omega), decide_eq_false (by omega)⟩, ?_⟩
  rwa [List.contains_eq_mem, decide_eq_false_iff_not]

theorem isLabel_plain (h : ∀ c ∈ l, IsNameChar c) : isLabel l = true := by
  have hmark : l.head?.any isMark = false := by
    cases l with
    | nil => rfl
    | cons c l =>
      have hnum := (h c List.mem_cons_self).toNat
      have hlow : ¬0x300 ≤ c.toNat := by omega
      simp [isMark, hlow]
  have hforbidden : l.any isForbidden = false := by
    rw [List.any_eq_false]
    exact fun c hc => Bool.eq_false_iff.mp (isForbidden_plain (h c hc))
  rw [isLabel, hmark, joinersAllowed_plain h, hforbidden]
  rfl

theorem hasRightToLeft_plain (h : ∀ c ∈ l, IsNameChar c) : hasRightToLeft l = false := by
  rw [hasRightToLeft, List.any_eq_false]
  intro c hc
  have hnum := (h c hc).toNat
  have hlow : ¬0x590 ≤ c.toNat := by omega
  simp [hlow]

theorem writeLabel_plain (h : ∀ c ∈ l, IsNameChar c) : writeLabel l = some l := by
  refine if_pos (List.all_eq_true.mpr fun c hc => decide_eq_true ?_)
  have := (h c hc).toNat
  omega

end

theorem mapM_eq_some {f : List Char → Option (List Char)} {ls : List (List Char)}
    (h : ∀ l ∈ ls, f l = some l) : ls.mapM f = some ls := by
  induction ls with
  | nil => rfl
  | cons l ls ih =>
    obtain ⟨hl, hls⟩ := List.forall_mem_cons.mp h
    rw [List.mapM_cons, hl, ih hls]
    rfl

theorem toAsciiChars_plain (h : ∀ c ∈ s, IsPlainChar c) : toAsciiChars s = some s := by
  have hlabel {l : List Char} (hl : l ∈ splitAll (· = '.') s) : ∀ c ∈ l, IsNameChar c :=
    isNameChar_of_label h hl
  have hread := mapM_eq_some fun l hl => readLabel_plain (hlabel hl)
  have hwrite := mapM_eq_some fun l hl => writeLabel_plain (hlabel hl)
  have hall : (splitAll (· = '.') s).all isLabel = true :=
    List.all_eq_true.mpr fun l hl => isLabel_plain (hlabel hl)
  have hleft : (splitAll (· = '.') s).any hasRightToLeft = false := by
    rw [List.any_eq_false]
    exact fun l hl => Bool.eq_false_iff.mp (hasRightToLeft_plain (hlabel hl))
  simp only [toAsciiChars, mapName_plain h, Option.bind_eq_bind, Option.bind_some,
    compose_ascii (ascii_of_plain h), hread, hall, hleft, hwrite, joinLabels_splitAll,
    Bool.not_true, Bool.false_and, Bool.false_eq_true, if_false]

/-- A plain name is its own ASCII form. -/
theorem toAscii_encodeChars (h : ∀ c ∈ s, IsPlainChar c) :
    toAscii (Utf8.encodeChars s) = some s := by
  rw [toAscii, Utf8.pieces_encodeChars, Utf8.ofPieces_chars]
  exact toAsciiChars_plain h

/-! ## Domain names -/

/-- Domain names of plain labels that are not empty, the last of which starts with a letter, so that
it can not be read as a number. -/
inductive IsDomain : List Char → Prop where
  | last {c : Char} {l : List Char} (hc : c.isLower = true) (hl : ∀ x ∈ l, IsNameChar x) :
    IsDomain (c :: l)
  | label {l s : List Char} (hne : l ≠ []) (hl : ∀ x ∈ l, IsNameChar x) (hs : IsDomain s) :
    IsDomain (l ++ '.' :: s)

theorem IsDomain.isPlainChar (h : IsDomain s) : ∀ c ∈ s, IsPlainChar c := by
  induction h with
  | last hc hl =>
    rw [List.forall_mem_cons]
    exact ⟨.inl (.inl hc), fun x hx => .inl (hl x hx)⟩
  | label hne hl _ ih =>
    rw [List.forall_mem_append, List.forall_mem_cons]
    exact ⟨fun x hx => .inl (hl x hx), .inr rfl, ih⟩

theorem IsDomain.ne_nil (h : IsDomain s) : s ≠ [] := by
  cases h with
  | last => exact List.cons_ne_nil _ _
  | label => exact List.append_ne_nil_of_right_ne_nil _ (List.cons_ne_nil _ _)

theorem eq_false_of_isNameChar {l : List Char} (hl : ∀ x ∈ l, IsNameChar x) :
    ∀ x ∈ l, decide (x = '.') = false := by
  rintro x hx
  refine decide_eq_false ?_
  rintro rfl
  exact absurd (hl '.' hx) (by decide)

theorem IsDomain.exists_last (h : IsDomain s) :
    ∃ labels c l, splitAll (· = '.') s = labels ++ [c :: l] ∧ c.isLower = true := by
  induction h with
  | @last c l hc hl =>
    refine ⟨[], c, l, splitAll_of_free ?_, hc⟩
    exact eq_false_of_isNameChar (List.forall_mem_cons.mpr ⟨.inl hc, hl⟩)
  | @label l s _ hl _ ih =>
    obtain ⟨labels, c, last, hsplit, hc⟩ := ih
    refine ⟨l :: labels, c, last, ?_, hc⟩
    rw [splitAll_append (eq_false_of_isNameChar hl) (by decide), hsplit, List.cons_append]

end ProxyTunnel.Idna

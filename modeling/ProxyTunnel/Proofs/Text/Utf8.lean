import ProxyTunnel.Text.Utf8

/-!
# UTF-8 there and back

What `Utf8.encode` writes is cut into the characters it was written for (`pieces_encodeChars`), so
the text comes back (`decode_encode`). The other way round, characters that bytes are cut into are
written as these bytes (`encodeChars_of_pieces`). So:

* `decode_eq_ok`: the strict decoder reads exactly the forms of texts;
* `encode_decodeLossy`: the lossy decoder can be undone exactly for these;
* `length_encode_decodeLossy`: what it makes of other bytes is at most three times as long;
* `mem_encodeChars`: a byte of ASCII stands for nothing but its own character.
-/

namespace ProxyTunnel.Text.Utf8

theorem not_lt_of_le {a b : UInt8} (h : b.toNat ≤ a.toNat) : ¬a < b :=
  UInt8.not_lt.mpr (UInt8.le_iff_toNat_le.mpr h)

theorem pieces_one {a : UInt8} (ha : a.toNat < 0x80) (rest : Bytes) :
    pieces (a :: rest) = .char (Char.ofNat a.toNat) 1 :: pieces rest := by
  rw [pieces.eq_def]
  exact if_pos (UInt8.lt_iff_toNat_lt.mpr ha)

theorem isContinuation_iff {b : UInt8} :
    isContinuation b = true ↔ 0x80 ≤ b.toNat ∧ b.toNat ≤ 0xBF := by
  simp only [isContinuation, Bool.and_eq_true, decide_eq_true_eq, UInt8.le_iff_toNat_le]
  rfl

theorem pieces_two {a b : UInt8} (ha : 0xC2 ≤ a.toNat ∧ a.toNat < 0xE0)
    (hb : isContinuation b = true) (rest : Bytes) :
    pieces (a :: b :: rest) = .char (char2 a b) 2 :: pieces rest := by
  have h₁ : ¬a < 0x80 := not_lt_of_le (Nat.le_trans (by decide) ha.1)
  have h₂ : ¬a < 0xC2 := not_lt_of_le (Nat.le_trans (by decide) ha.1)
  have h₃ : a < 0xE0 := UInt8.lt_iff_toNat_lt.mpr ha.2
  rw [pieces.eq_def]
  dsimp only
  rw [if_neg h₁, if_neg h₂, if_pos h₃, if_pos hb]

theorem pieces_three {a b c : UInt8} (ha : 0xE0 ≤ a.toNat ∧ a.toNat < 0xF0)
    (hb : isSecondOfThree a b = true) (hc : isContinuation c = true) (rest : Bytes) :
    pieces (a :: b :: c :: rest) = .char (char3 a b c) 3 :: pieces rest := by
  have h₁ : ¬a < 0x80 := not_lt_of_le (Nat.le_trans (by decide) ha.1)
  have h₂ : ¬a < 0xC2 := not_lt_of_le (Nat.le_trans (by decide) ha.1)
  have h₃ : ¬a < 0xE0 := not_lt_of_le (Nat.le_trans (by decide) ha.1)
  have h₄ : a < 0xF0 := UInt8.lt_iff_toNat_lt.mpr ha.2
  rw [pieces.eq_def]
  dsimp only
  rw [if_neg h₁, if_neg h₂, if_neg h₃, if_pos h₄, if_pos hb, if_pos hc]

theorem pieces_four {a b c d : UInt8} (ha : 0xF0 ≤ a.toNat ∧ a.toNat < 0xF5)
    (hb : isSecondOfFour a b = true) (hc : isContinuation c = true) (hd : isContinuation d = true)
    (rest : Bytes) :
    pieces (a :: b :: c :: d :: rest) = .char (char4 a b c d) 4 :: pieces rest := by
  have h₁ : ¬a < 0x80 := not_lt_of_le (Nat.le_trans (by decide) ha.1)
  have h₂ : ¬a < 0xC2 := not_lt_of_le (Nat.le_trans (by decide) ha.1)
  have h₃ : ¬a < 0xE0 := not_lt_of_le (Nat.le_trans (by decide) ha.1)
  have h₄ : ¬a < 0xF0 := not_lt_of_le (Nat.le_trans (by decide) ha.1)
  have h₅ : a < 0xF5 := UInt8.lt_iff_toNat_lt.mpr ha.2
  rw [pieces.eq_def]
  dsimp only
  rw [if_neg h₁, if_neg h₂, if_neg h₃, if_neg h₄, if_pos h₅, if_pos hb, if_pos hc, if_pos hd]

theorem isSecondOfThree_iff {a b : UInt8} :
    isSecondOfThree a b = true ↔ 0x80 ≤ b.toNat ∧ b.toNat ≤ 0xBF ∧
      (a.toNat = 0xE0 → 0xA0 ≤ b.toNat) ∧ (a.toNat = 0xED → b.toNat ≤ 0x9F) := by
  unfold isSecondOfThree
  simp only [← UInt8.toNat_inj, UInt8.reduceToNat]
  split
  · simp only [Bool.and_eq_true, decide_eq_true_eq, UInt8.le_iff_toNat_le, UInt8.reduceToNat]
    omega
  split
  · simp only [Bool.and_eq_true, decide_eq_true_eq, UInt8.le_iff_toNat_le, UInt8.reduceToNat]
    omega
  · rw [isContinuation_iff]
    omega

theorem isSecondOfFour_iff {a b : UInt8} :
    isSecondOfFour a b = true ↔ 0x80 ≤ b.toNat ∧ b.toNat ≤ 0xBF ∧
      (a.toNat = 0xF0 → 0x90 ≤ b.toNat) ∧ (a.toNat = 0xF4 → b.toNat ≤ 0x8F) := by
  unfold isSecondOfFour
  simp only [← UInt8.toNat_inj, UInt8.reduceToNat]
  split
  · simp only [Bool.and_eq_true, decide_eq_true_eq, UInt8.le_iff_toNat_le, UInt8.reduceToNat]
    omega
  split
  · simp only [Bool.and_eq_true, decide_eq_true_eq, UInt8.le_iff_toNat_le, UInt8.reduceToNat]
    omega
  · rw [isContinuation_iff]
    omega

theorem pieces_utf8EncodeChar (c : Char) (rest : Bytes) :
    pieces (String.utf8EncodeChar c ++ rest) =
      .char c (String.utf8EncodeChar c).length :: pieces rest := by
  have hvalid : c.val.toNat < 0xD800 ∨ 0xDFFF < c.val.toNat ∧ c.val.toNat < 0x110000 := c.valid
  have hc : Char.ofNat c.val.toNat = c := Char.ofNat_toNat c
  unfold String.utf8EncodeChar
  generalize c.val.toNat = v at *
  dsimp only
  split
  · have ha : (UInt8.ofNat v).toNat = v := by rw [UInt8.toNat_ofNat']; omega
    rw [List.singleton_append, pieces_one (by omega), ha, hc]
    rfl
  split
  · have ha : (UInt8.ofNat (v / 64 % 0x20 + 0xc0)).toNat = v / 64 + 0xc0 := by
      rw [UInt8.toNat_ofNat']; omega
    have hb : (UInt8.ofNat (v % 0x40 + 0x80)).toNat = v % 64 + 0x80 := by
      rw [UInt8.toNat_ofNat']; omega
    show pieces (_ :: _ :: rest) = _
    rw [pieces_two (by omega) (isContinuation_iff.mpr (by omega)), char2, payload, ha, hb,
      show (v / 64 + 0xc0) % 32 * 64 + (v % 64 + 0x80) % 64 = v by omega, hc]
    rfl
  split
  · have ha : (UInt8.ofNat (v / 4096 % 0x10 + 0xe0)).toNat = v / 4096 + 0xe0 := by
      rw [UInt8.toNat_ofNat']; omega
    have hb : (UInt8.ofNat (v / 64 % 0x40 + 0x80)).toNat = v / 64 % 64 + 0x80 := by
      rw [UInt8.toNat_ofNat']; omega
    have hc' : (UInt8.ofNat (v % 0x40 + 0x80)).toNat = v % 64 + 0x80 := by
      rw [UInt8.toNat_ofNat']; omega
    have hsecond : isSecondOfThree (UInt8.ofNat (v / 4096 % 0x10 + 0xe0))
        (UInt8.ofNat (v / 64 % 0x40 + 0x80)) = true := by
      rw [isSecondOfThree_iff, ha, hb]
      omega
    show pieces (_ :: _ :: _ :: rest) = _
    rw [pieces_three (by omega) hsecond (isContinuation_iff.mpr (by omega)), char3, payload,
      payload, ha, hb, hc', show ((v / 4096 + 0xe0) % 16 * 64 + (v / 64 % 64 + 0x80) % 64) * 64 +
        (v % 64 + 0x80) % 64 = v by omega, hc]
    rfl
  · have ha : (UInt8.ofNat (v / 262144 % 0x08 + 0xf0)).toNat = v / 262144 + 0xf0 := by
      rw [UInt8.toNat_ofNat']; omega
    have hb : (UInt8.ofNat (v / 4096 % 0x40 + 0x80)).toNat = v / 4096 % 64 + 0x80 := by
      rw [UInt8.toNat_ofNat']; omega
    have hc' : (UInt8.ofNat (v / 64 % 0x40 + 0x80)).toNat = v / 64 % 64 + 0x80 := by
      rw [UInt8.toNat_ofNat']; omega
    have hd : (UInt8.ofNat (v % 0x40 + 0x80)).toNat = v % 64 + 0x80 := by
      rw [UInt8.toNat_ofNat']; omega
    have hsecond : isSecondOfFour (UInt8.ofNat (v / 262144 % 0x08 + 0xf0))
        (UInt8.ofNat (v / 4096 % 0x40 + 0x80)) = true := by
      rw [isSecondOfFour_iff, ha, hb]
      omega
    show pieces (_ :: _ :: _ :: _ :: rest) = _
    rw [pieces_four (by omega) hsecond (isContinuation_iff.mpr (by omega))
        (isContinuation_iff.mpr (by omega)), char4, payload, payload, payload, ha, hb, hc', hd,
      show (((v / 262144 + 0xf0) % 8 * 64 + (v / 4096 % 64 + 0x80) % 64) * 64 +
        (v / 64 % 64 + 0x80) % 64) * 64 + (v % 64 + 0x80) % 64 = v by omega, hc]
    rfl

theorem pieces_encodeChars (s : List Char) :
    pieces (encodeChars s) = s.map fun c => .char c (String.utf8EncodeChar c).length := by
  induction s with
  | nil => rw [encodeChars, List.flatMap_nil, pieces.eq_def]; rfl
  | cons c s ih =>
    rw [encodeChars, List.flatMap_cons, pieces_utf8EncodeChar, List.map_cons]
    exact congrArg _ ih

theorem ofPieces_chars (index : Nat) (s : List Char) (size : Char → Nat) :
    ofPieces index (s.map fun c => .char c (size c)) = .ok s := by
  induction s generalizing index with
  | nil => rfl
  | cons c s ih => rw [List.map_cons, ofPieces, ih]; rfl

/-- A text comes back from its bytes. -/
theorem decode_encode (s : String) : decode (encode s) = .ok s := by
  rw [decode, encode, pieces_encodeChars, ofPieces_chars]
  show Except.ok (String.ofList s.toList) = _
  rw [String.ofList_toList]

/-- Different texts have different forms. -/
theorem encode_injective {s t : String} (h : encode s = encode t) : s = t := by
  have hs := decode_encode s
  rw [h, decode_encode] at hs
  exact (Except.ok.inj hs).symm

theorem encodeChars_injective {s t : List Char} (h : encodeChars s = encodeChars t) : s = t := by
  have hst : encode (String.ofList s) = encode (String.ofList t) := by
    rw [encode, encode, String.toList_ofList, String.toList_ofList, h]
  exact String.ofList_inj.mp (encode_injective hst)

theorem encodeChars_append (s t : List Char) :
    encodeChars (s ++ t) = encodeChars s ++ encodeChars t := List.flatMap_append

/-- ASCII characters take one byte each. -/
theorem length_encodeChars {cs : List Char} (h : ∀ c ∈ cs, c.toNat < 128) :
    (encodeChars cs).length = cs.length := by
  induction cs with
  | nil => rfl
  | cons c cs ih =>
    have hc : c.utf8Size = 1 := Char.utf8Size_eq_one_iff.mpr
      (UInt32.le_iff_toNat_le.mpr (Nat.le_of_lt_succ (h c List.mem_cons_self)))
    have hcs := ih fun c hc => h c (List.mem_cons_of_mem _ hc)
    rw [encodeChars, List.flatMap_cons, List.length_append, String.length_utf8EncodeChar, hc,
      List.length_cons, Nat.add_comm]
    exact congrArg (· + 1) hcs

/-! ## Back and there -/

theorem toNat_val_ofNat {v : Nat} (hv : v.isValidChar) : (Char.ofNat v).val.toNat = v := by
  rw [Char.ofNat, dif_pos hv]
  rfl

theorem ofNat_eq {v : Nat} {b : UInt8} (h : v = b.toNat) : UInt8.ofNat v = b := by
  rw [h, UInt8.ofNat_toNat]

theorem utf8EncodeChar_one {a : UInt8} (ha : a < 0x80) :
    String.utf8EncodeChar (Char.ofNat a.toNat) = [a] := by
  have ha' : a.toNat < 0x80 := UInt8.lt_iff_toNat_lt.mp ha
  have hv : a.toNat.isValidChar := .inl (by omega)
  simp only [String.utf8EncodeChar, toNat_val_ofNat hv]
  rw [if_pos (by omega), UInt8.ofNat_toNat]

theorem utf8EncodeChar_two {a b : UInt8} (h₁ : ¬a < 0xC2) (h₂ : a < 0xE0)
    (hb : isContinuation b = true) : String.utf8EncodeChar (char2 a b) = [a, b] := by
  have ha : 0xC2 ≤ a.toNat := UInt8.le_iff_toNat_le.mp (UInt8.not_lt.mp h₁)
  have ha' : a.toNat < 0xE0 := UInt8.lt_iff_toNat_lt.mp h₂
  rw [isContinuation_iff] at hb
  rw [char2, payload]
  generalize hn : a.toNat % 32 * 64 + b.toNat % 64 = v
  have hv : v.isValidChar := .inl (by omega)
  simp only [String.utf8EncodeChar, toNat_val_ofNat hv]
  rw [if_neg (by omega), if_pos (by omega), ofNat_eq (b := a) (by omega),
    ofNat_eq (b := b) (by omega)]

theorem utf8EncodeChar_three {a b c : UInt8} (h₁ : ¬a < 0xE0) (h₂ : a < 0xF0)
    (hb : isSecondOfThree a b = true) (hc : isContinuation c = true) :
    String.utf8EncodeChar (char3 a b c) = [a, b, c] := by
  have ha : 0xE0 ≤ a.toNat := UInt8.le_iff_toNat_le.mp (UInt8.not_lt.mp h₁)
  have ha' : a.toNat < 0xF0 := UInt8.lt_iff_toNat_lt.mp h₂
  rw [isContinuation_iff] at hc
  rw [isSecondOfThree_iff] at hb
  rw [char3, payload, payload]
  generalize hn : (a.toNat % 16 * 64 + b.toNat % 64) * 64 + c.toNat % 64 = v
  have hv : v.isValidChar := by
    show v < 0xD800 ∨ 0xDFFF < v ∧ v < 0x110000
    omega
  simp only [String.utf8EncodeChar, toNat_val_ofNat hv]
  rw [if_neg (by omega), if_neg (by omega), if_pos (by omega), ofNat_eq (b := a) (by omega),
    ofNat_eq (b := b) (by omega), ofNat_eq (b := c) (by omega)]

theorem utf8EncodeChar_four {a b c d : UInt8} (h₁ : ¬a < 0xF0) (h₂ : a < 0xF5)
    (hb : isSecondOfFour a b = true) (hc : isContinuation c = true)
    (hd : isContinuation d = true) : String.utf8EncodeChar (char4 a b c d) = [a, b, c, d] := by
  have ha : 0xF0 ≤ a.toNat := UInt8.le_iff_toNat_le.mp (UInt8.not_lt.mp h₁)
  have ha' : a.toNat < 0xF5 := UInt8.lt_iff_toNat_lt.mp h₂
  rw [isContinuation_iff] at hc hd
  rw [isSecondOfFour_iff] at hb
  rw [char4, payload, payload, payload]
  generalize hn :
    ((a.toNat % 8 * 64 + b.toNat % 64) * 64 + c.toNat % 64) * 64 + d.toNat % 64 = v
  have hv : v.isValidChar := by
    show v < 0xD800 ∨ 0xDFFF < v ∧ v < 0x110000
    omega
  simp only [String.utf8EncodeChar, toNat_val_ofNat hv]
  rw [if_neg (by omega), if_neg (by omega), if_neg (by omega), ofNat_eq (b := a) (by omega),
    ofNat_eq (b := b) (by omega), ofNat_eq (b := c) (by omega), ofNat_eq (b := d) (by omega)]

theorem ofPieces_char {index n : Nat} {c : Char} {ps : List Piece} {cs : List Char}
    (h : ofPieces index (.char c n :: ps) = .ok cs) :
    ∃ cs', ofPieces (index + n) ps = .ok cs' ∧ cs = c :: cs' := by
  rw [ofPieces] at h
  cases hp : ofPieces (index + n) ps with
  | error e => rw [hp] at h; cases h
  | ok cs' => rw [hp] at h; cases h; exact ⟨cs', rfl, rfl⟩

/-- The characters that some bytes are cut into are written as these bytes. -/
theorem encodeChars_of_pieces {s : Bytes} {index : Nat} {cs : List Char}
    (h : ofPieces index (pieces s) = .ok cs) : encodeChars cs = s := by
  fun_induction pieces s generalizing index cs with
  | case1 => cases h; rfl
  | case2 a s ha ih =>
    obtain ⟨cs, hs, rfl⟩ := ofPieces_char h
    rw [encodeChars, List.flatMap_cons, utf8EncodeChar_one ha]
    exact congrArg (a :: ·) (ih hs)
  | case5 a _ h₁ h₂ b t hb ih =>
    obtain ⟨cs, hs, rfl⟩ := ofPieces_char h
    rw [encodeChars, List.flatMap_cons, utf8EncodeChar_two h₁ h₂ hb]
    exact congrArg ([a, b] ++ ·) (ih hs)
  | case9 a _ _ h₁ h₂ b hb c t hc ih =>
    obtain ⟨cs, hs, rfl⟩ := ofPieces_char h
    rw [encodeChars, List.flatMap_cons, utf8EncodeChar_three h₁ h₂ hb hc]
    exact congrArg ([a, b, c] ++ ·) (ih hs)
  | case15 a _ _ _ h₁ h₂ b hb c hc d t hd ih =>
    obtain ⟨cs, hs, rfl⟩ := ofPieces_char h
    rw [encodeChars, List.flatMap_cons, utf8EncodeChar_four h₁ h₂ hb hc hd]
    exact congrArg ([a, b, c, d] ++ ·) (ih hs)
  | _ => cases h

/-- Exactly the forms of texts can be decoded. -/
theorem decode_eq_ok {s : Bytes} {text : String} : decode s = .ok text ↔ s = encode text := by
  constructor
  · intro h
    rw [decode] at h
    cases hp : ofPieces 0 (pieces s) with
    | error e => rw [hp] at h; cases h
    | ok cs =>
      rw [hp] at h
      cases h
      rw [encode, String.toList_ofList, encodeChars_of_pieces hp]
  · rintro rfl
    exact decode_encode text

/-- A text comes back from its bytes also where faults would be passed over. -/
theorem decodeLossy_encode (s : String) : decodeLossy (encode s) = s := by
  rw [decodeLossy, encode, pieces_encodeChars, List.map_map]
  show String.ofList (s.toList.map id) = s
  rw [List.map_id, String.ofList_toList]

/-- The bytes are the form of some text. -/
def IsValid (s : Bytes) : Prop := ∃ text, decode s = .ok text

/-- What the lossy decoder makes of some bytes is written as these bytes exactly if they are the
form of some text. -/
theorem encode_decodeLossy {s : Bytes} : encode (decodeLossy s) = s ↔ IsValid s := by
  constructor
  · intro h
    exact ⟨decodeLossy s, decode_eq_ok.mpr h.symm⟩
  · intro h
    obtain ⟨text, h⟩ := h
    rw [decode_eq_ok.mp h, decodeLossy_encode]

theorem length_encodeChars_cons (c : Char) (cs : List Char) :
    (encodeChars (c :: cs)).length =
      (String.utf8EncodeChar c).length + (encodeChars cs).length := by
  rw [encodeChars, List.flatMap_cons, List.length_append]
  rfl

/-- A replacement character takes three bytes and stands for at least one, and the characters that
could be read take as many bytes as before. -/
theorem length_encode_decodeLossy (s : Bytes) :
    (encode (decodeLossy s)).length ≤ 3 * s.length := by
  have hreplacement : (String.utf8EncodeChar replacement).length = 3 := by decide
  have hnil : (encodeChars []).length = 0 := rfl
  rw [encode, decodeLossy, String.toList_ofList]
  fun_induction pieces s with
  | case1 => exact Nat.le_refl 0
  | case2 a s ha ih =>
    rw [List.map_cons, length_encodeChars_cons, Piece.charLossy, utf8EncodeChar_one ha]
    simp only [List.length_cons, List.length_nil]
    omega
  | case5 a _ h₁ h₂ b t hb ih =>
    rw [List.map_cons, length_encodeChars_cons, Piece.charLossy, utf8EncodeChar_two h₁ h₂ hb]
    simp only [List.length_cons, List.length_nil]
    omega
  | case9 a _ _ h₁ h₂ b hb c t hc ih =>
    rw [List.map_cons, length_encodeChars_cons, Piece.charLossy, utf8EncodeChar_three h₁ h₂ hb hc]
    simp only [List.length_cons, List.length_nil]
    omega
  | case15 a _ _ _ h₁ h₂ b hb c hc d t hd ih =>
    rw [List.map_cons, length_encodeChars_cons, Piece.charLossy,
      utf8EncodeChar_four h₁ h₂ hb hc hd]
    simp only [List.length_cons, List.length_nil]
    omega
  | _ =>
    -- a malformed or unfinished piece
    simp only [List.map_cons, List.map_nil, length_encodeChars_cons, Piece.charLossy, hreplacement,
      hnil, List.length_cons, List.length_nil] at *
    omega

/-! ## ASCII -/

/-- No ASCII byte is part of a character outside ASCII. -/
theorem le_of_mem_utf8EncodeChar {c : Char} (hc : 0x80 ≤ c.val.toNat) :
    ∀ b ∈ String.utf8EncodeChar c, 0x80 ≤ b.toNat := by
  unfold String.utf8EncodeChar
  generalize c.val.toNat = v at *
  dsimp only
  rw [if_neg (by omega)]
  split
  · simp only [List.mem_cons, List.not_mem_nil, or_false, forall_eq_or_imp, forall_eq,
      UInt8.toNat_ofNat']
    omega
  split
  · simp only [List.mem_cons, List.not_mem_nil, or_false, forall_eq_or_imp, forall_eq,
      UInt8.toNat_ofNat']
    omega
  · simp only [List.mem_cons, List.not_mem_nil, or_false, forall_eq_or_imp, forall_eq,
      UInt8.toNat_ofNat']
    omega

theorem mem_utf8EncodeChar {b : UInt8} (hb : b < 0x80) {c : Char} :
    b ∈ String.utf8EncodeChar c ↔ Char.ofNat b.toNat = c := by
  constructor
  · intro h
    have hc : c.val.toNat < 0x80 := Nat.lt_of_not_le fun hc =>
      Nat.not_lt.mpr (le_of_mem_utf8EncodeChar hc b h) (UInt8.lt_iff_toNat_lt.mp hb)
    unfold String.utf8EncodeChar at h
    dsimp only at h
    rw [if_pos (by omega), List.mem_singleton] at h
    rw [h, UInt8.toNat_ofNat', Nat.mod_eq_of_lt (by omega)]
    exact Char.ofNat_toNat c
  · intro h
    rw [← h, utf8EncodeChar_one hb]
    exact List.mem_singleton_self b

/-- An ASCII byte is written for its own character and for no other. -/
theorem mem_encodeChars {b : UInt8} (hb : b < 0x80) {s : List Char} :
    b ∈ encodeChars s ↔ Char.ofNat b.toNat ∈ s := by
  rw [encodeChars, List.mem_flatMap]
  constructor
  · intro h
    obtain ⟨c, hc, h⟩ := h
    rwa [(mem_utf8EncodeChar hb).mp h]
  · intro h
    exact ⟨_, h, (mem_utf8EncodeChar hb).mpr rfl⟩

end ProxyTunnel.Text.Utf8

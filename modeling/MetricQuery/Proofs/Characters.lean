import MetricQuery.Grammar.Character

/-!
# Classes of characters

How the classes of characters that make up names lie in each other, and which characters are in
none of them.
-/

set_option autoImplicit false

namespace MetricQuery.Grammar

variable {c : Char}

theorem isFunctionChar_of_isDigit (h : c.isDigit = true) : isFunctionChar c = true := by
  simp [isFunctionChar, Char.isAlphanum, h]

theorem isFunctionChar_of_isPublicChar (h : isPublicChar c = true) : isFunctionChar c = true := by
  rcases Bool.or_eq_true_iff.1 h with h | h
  · have halpha : c.isAlpha = true := Bool.or_eq_true_iff.2 (.inr h)
    simp [isFunctionChar, Char.isAlphanum, halpha]
  · simp [isFunctionChar, h]

/-- Digits are no characters of public names. -/
theorem isPublicChar_of_isDigit (h : c.isDigit = true) : isPublicChar c = false := by
  simp only [Char.isDigit, Bool.and_eq_true, decide_eq_true_eq] at h
  delta isPublicChar Char.isLower
  simp only [Bool.or_eq_false_iff, Bool.and_eq_false_iff, decide_eq_false_iff_not,
    beq_eq_false_iff_ne]
  refine ⟨.inl fun hlow => ?_, ?_⟩
  · have := UInt32.le_trans hlow h.2
    exact absurd this (by decide)
  · rintro rfl
    exact absurd h.2 (by decide)

theorem isNameChar_of_isFunctionChar (h : isFunctionChar c = true) : isNameChar c = true := by
  simp only [isNameChar, isFunctionChar] at h ⊢
  rw [h, Bool.true_or]

theorem range_of_isNameChar (h : isNameChar c = true) :
    65 ≤ c.toNat ∧ c.toNat ≤ 90 ∨ 97 ≤ c.toNat ∧ c.toNat ≤ 122 ∨ 48 ≤ c.toNat ∧ c.toNat ≤ 57 ∨
      c = '_' ∨ c = '.' := by
  delta isNameChar Char.isAlphanum Char.isAlpha Char.isUpper Char.isLower Char.isDigit at h
  simp only [Bool.or_eq_true, Bool.and_eq_true, decide_eq_true_eq, beq_iff_eq,
    UInt32.le_iff_toNat_le, ge_iff_le] at h
  change ((((65 ≤ c.toNat ∧ c.toNat ≤ 90) ∨ (97 ≤ c.toNat ∧ c.toNat ≤ 122)) ∨
    (48 ≤ c.toNat ∧ c.toNat ≤ 57)) ∨ c = '_') ∨ c = '.' at h
  rcases h with (((h | h) | h) | h) | h
  · exact .inl h
  · exact .inr (.inl h)
  · exact .inr (.inr (.inl h))
  · exact .inr (.inr (.inr (.inl h)))
  · exact .inr (.inr (.inr (.inr h)))

/-- Names hold no blanks. -/
theorem isBlank_of_isNameChar (h : isNameChar c = true) : Text.isBlank c = false := by
  rcases range_of_isNameChar h with h | h | h | rfl | rfl
  · simp [Text.isBlank]; omega
  · simp [Text.isBlank]; omega
  · simp [Text.isBlank]; omega
  · decide
  · decide

/-- Characters of different classes are different. -/
theorem ne_of_class {p : Char → Bool} {c x : Char} (h : p c = true) (hx : p x = false) : c ≠ x := by
  rintro rfl
  rw [h] at hx
  cases hx

theorem isMriChar_of_isNameChar (h : isNameChar c = true) : isMriChar c = true := by
  have hne : ∀ x, isNameChar x = false → c ≠ x := fun x hx => ne_of_class h hx
  simp only [isMriChar, isBlank_of_isNameChar h, Bool.not_false, Bool.true_and, Bool.and_eq_true,
    bne_iff_ne]
  exact ⟨⟨⟨⟨⟨⟨⟨⟨hne _ (by decide), hne _ (by decide)⟩, hne _ (by decide)⟩, hne _ (by decide)⟩,
    hne _ (by decide)⟩, hne _ (by decide)⟩, hne _ (by decide)⟩, hne _ (by decide)⟩,
    hne _ (by decide)⟩

theorem isUnquoted_of_isNameChar (h : isNameChar c = true) : isUnquoted c = true := by
  have hne : ∀ x, isNameChar x = false → c ≠ x := fun x hx => ne_of_class h hx
  simp only [isUnquoted, isBlank_of_isNameChar h, Bool.not_false, Bool.true_and, Bool.and_eq_true,
    bne_iff_ne]
  exact ⟨⟨⟨⟨⟨⟨⟨⟨hne _ (by decide), hne _ (by decide)⟩, hne _ (by decide)⟩, hne _ (by decide)⟩,
    hne _ (by decide)⟩, hne _ (by decide)⟩, hne _ (by decide)⟩, hne _ (by decide)⟩,
    hne _ (by decide)⟩

end MetricQuery.Grammar

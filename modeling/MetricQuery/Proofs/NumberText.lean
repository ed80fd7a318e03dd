import Mathlib.Algebra.Group.Nat.Defs
import MetricQuery.Grammar.Token
import MetricQuery.Proofs.Scanning

/-!
# Numbers read back from their text

A finite double is written with digits that stand for it exactly, or with the fewest digits that
are nearest to it; either way the reader gets it back.

* `Magnitude.nearest?_exact` : a quotient that is a magnitude is nearest to that magnitude;
* `Magnitude.nearest?_scale` : what is nearest depends on the value of a quotient alone;
* `Magnitude.read?_digits`   : the digits of a magnitude read back;
* `Grammar.intNumeral_eq_some_iff` : a whole number is read where digits stand for an integer;
* `Double.exists_literal`    : a finite literal is a sign, digits, a point and digits, and these
  digits stand for it.
-/

set_option autoImplicit false

namespace MetricQuery

namespace Magnitude

/-! ## What is nearest to a quotient -/

theorem exists_unitsInOne_eq : ∃ u, 1074 = u ∧ unitsInOne = 2 ^ u := by
  unfold unitsInOne
  generalize 1074 = n
  exact ⟨n, rfl, Nat.pow_eq⟩

theorem roundHalfEven_mul (k : Nat) {den : Nat} (h : 0 < den) :
    roundHalfEven (k * den) den = k := by
  simp [roundHalfEven, Nat.mul_div_cancel k h, h]

theorem roundHalfEven_scale {k : Nat} (hk : 0 < k) (num den : Nat) :
    roundHalfEven (num * k) (den * k) = roundHalfEven num den := by
  have hlt : 2 * (num % den * k) < den * k ↔ 2 * (num % den) < den := by
    rw [← Nat.mul_assoc, Nat.mul_lt_mul_right hk]
  have hgt : den * k < 2 * (num % den * k) ↔ den < 2 * (num % den) := by
    rw [← Nat.mul_assoc, Nat.mul_lt_mul_right hk]
  simp only [roundHalfEven, Nat.mul_div_mul_right _ _ hk, Nat.mul_mod_mul_right, hlt, hgt]

theorem log2_mul_two_pow {n : Nat} (hn : 0 < n) (u : Nat) :
    Nat.log2 (n * 2 ^ u) = Nat.log2 n + u := by
  have hu : 0 < 2 ^ u := Nat.two_pow_pos u
  have hlow : 2 ^ Nat.log2 n ≤ n := Nat.log2_self_le (by omega)
  have hhigh : n < 2 ^ (Nat.log2 n + 1) := Nat.lt_log2_self
  rw [Nat.log2_eq_iff (Nat.ne_of_gt (Nat.mul_pos hn hu))]
  constructor
  · rw [Nat.pow_add]
    exact Nat.mul_le_mul_right _ hlow
  · rw [Nat.add_right_comm, Nat.pow_add]
    exact Nat.mul_lt_mul_of_pos_right hhigh hu

/-- The exponent of a magnitude is that at which its units have as many bits as a mantissa. -/
theorem exponentOf_units (x : Magnitude) : exponentOf x.units = x.exponent := by
  obtain ⟨m, e, hm, he, -⟩ := x
  show Nat.log2 (m * 2 ^ e) - 52 = e
  rcases Nat.eq_zero_or_pos m with rfl | hpos
  · rcases he with rfl | he
    · simp
    · exact absurd he (by decide)
  · have hlog := log2_mul_two_pow hpos e
    have hle : Nat.log2 m < 53 := (Nat.log2_lt (by omega)).2 hm
    rcases he with rfl | he
    · omega
    · have hge : 52 ≤ Nat.log2 m := (Nat.le_log2 (by omega)).2 he
      omega

/-- **A quotient that is a magnitude is nearest to that magnitude.** -/
theorem nearest?_exact {x : Magnitude} {num den : Nat} (hden : 0 < den)
    (h : num * unitsInOne = x.units * den) : nearest? num den = some x := by
  have hdiv : num * unitsInOne / den = x.units := by rw [h, Nat.mul_div_cancel _ hden]
  have hround : roundHalfEven (num * unitsInOne) (den * Nat.pow 2 x.exponent) = x.mantissa := by
    rw [h, units, Nat.mul_assoc, Nat.mul_comm (Nat.pow 2 x.exponent) den]
    exact roundHalfEven_mul _ (Nat.mul_pos hden (Nat.pow_pos (by decide)))
  have hlt : x.mantissa ≠ Nat.pow 2 53 := Nat.ne_of_lt x.canonical.1
  simp only [nearest?, hdiv, exponentOf_units, hround, ofParts?, hlt, if_false]
  rw [dif_pos x.canonical]

/-- **What is nearest depends on the value of a quotient alone.** -/
theorem nearest?_scale {k : Nat} (hk : 0 < k) (num den : Nat) :
    nearest? (num * k) (den * k) = nearest? num den := by
  simp only [nearest?]
  rw [Nat.mul_right_comm num k, Nat.mul_div_mul_right _ _ hk, Nat.mul_right_comm den k,
    roundHalfEven_scale hk]

/-- A mantissa that rounding has brought to the next power of two still stands for the same units. -/
theorem units_of_ofParts? {m e : Nat} {x : Magnitude} (h : ofParts? m e = some x) :
    x.units = m * 2 ^ e := by
  unfold ofParts? at h
  dsimp only at h
  by_cases hm : m = Nat.pow 2 53
  · rw [if_pos hm, if_pos hm] at h
    obtain ⟨hc, hx⟩ := Option.dite_none_right_eq_some.1 h
    rw [← Option.some.inj hx, hm]
    show 2 ^ 52 * 2 ^ (e + 1) = 2 ^ 53 * 2 ^ e
    rw [Nat.pow_succ]
    omega
  · rw [if_neg hm, if_neg hm] at h
    obtain ⟨hc, hx⟩ := Option.dite_none_right_eq_some.1 h
    rw [← Option.some.inj hx]
    rfl

/-- There is a magnitude for a mantissa of 53 bits, also where rounding has carried. -/
theorem exists_ofParts? {m e : Nat} (hlow : Nat.pow 2 52 ≤ m) (hhigh : m ≤ Nat.pow 2 53)
    (he : e < 2045) : ∃ x, ofParts? m e = some x := by
  unfold ofParts?
  dsimp only
  by_cases hm : m = Nat.pow 2 53
  · rw [if_pos hm, if_pos hm]
    have hcanonical : Canonical (Nat.pow 2 52) (e + 1) :=
      ⟨by decide, .inr (Nat.le_refl _), by omega⟩
    exact ⟨_, dif_pos hcanonical⟩
  · rw [if_neg hm, if_neg hm]
    have hcanonical : Canonical m e :=
      ⟨Nat.lt_of_le_of_ne hhigh hm, .inr hlow, by omega⟩
    exact ⟨_, dif_pos hcanonical⟩

/-- What is nearest to a natural number is a whole number. -/
theorem isWhole_of_nearest? {n : Nat} {x : Magnitude} (h : nearest? n 1 = some x) :
    x.isWhole = true := by
  obtain ⟨u, -, hU⟩ := exists_unitsInOne_eq
  simp only [nearest?, Nat.div_one, Nat.one_mul, hU] at h
  generalize exponentOf (n * 2 ^ u) = e at h
  have hunits := units_of_ofParts? h
  simp only [isWhole, beq_iff_eq, hU]
  refine Nat.mod_eq_zero_of_dvd ?_
  rw [hunits]
  rcases Nat.le_total u e with he | he
  · -- the exponent alone makes a whole number
    exact Nat.dvd_mul_left_of_dvd (Nat.pow_dvd_pow 2 he) _
  · -- nothing is rounded
    have hsplit : n * 2 ^ u = n * 2 ^ (u - e) * 2 ^ e := by
      rw [Nat.mul_assoc, ← Nat.pow_add, Nat.sub_add_cancel he]
    have hround : roundHalfEven (n * 2 ^ u) (Nat.pow 2 e) = n * 2 ^ (u - e) := by
      rw [hsplit]
      exact roundHalfEven_mul _ (Nat.two_pow_pos e)
    rw [hround, ← hsplit]
    exact Nat.dvd_mul_left _ _

/-! ## The fewest digits -/

/-- Zeros at the end of the digits do not change what is read. -/
theorem read?_stripZeros (n : Nat) (d : Decimal) : (d.stripZeros n).read? = d.read? := by
  induction n generalizing d with
  | zero => rfl
  | succ n ih =>
    obtain ⟨m, e⟩ := d
    unfold Decimal.stripZeros
    split
    · rename_i h
      rw [ih]
      have hm : m = m / 10 * 10 := (Nat.div_mul_cancel (Nat.dvd_of_mod_eq_zero h.1)).symm
      match e with
      | .ofNat k =>
        show nearest? (m / 10 * Nat.pow 10 (k + 1)) 1 = nearest? (m * Nat.pow 10 k) 1
        rw [show m / 10 * Nat.pow 10 (k + 1) = m / 10 * 10 * Nat.pow 10 k by
          show m / 10 * 10 ^ (k + 1) = m / 10 * 10 * 10 ^ k
          rw [Nat.pow_succ, Nat.mul_comm (10 ^ k), Nat.mul_assoc], ← hm]
      | .negSucc 0 =>
        show nearest? (m / 10 * 1) 1 = nearest? m (1 * 10)
        rw [Nat.mul_one, ← nearest?_scale (k := 10) (by decide), ← hm]
      | .negSucc (k + 1) =>
        show nearest? (m / 10) (Nat.pow 10 (k + 1)) = nearest? m (Nat.pow 10 (k + 1) * 10)
        rw [← nearest?_scale (k := 10) (by decide) (m / 10), ← hm]
    · rfl

theorem read?_exact (x : Magnitude) : x.exact.read? = some x := by
  have hexp : x.exact.exponent = .negSucc 1073 := rfl
  obtain ⟨n, hn, hU⟩ := exists_unitsInOne_eq
  have hdigits : x.exact.digits = x.units * Nat.pow 5 1074 := rfl
  simp only [Decimal.read?, Decimal.quotient, hexp, hdigits, show 1073 + 1 = 1074 from rfl, hn]
  refine nearest?_exact (Nat.pow_pos (by decide)) ?_
  rw [hU]
  show x.units * 5 ^ n * 2 ^ n = x.units * 10 ^ n
  rw [Nat.mul_assoc, ← Nat.mul_pow]

/-- The fewest digits read back. -/
theorem read?_shortest (x : Magnitude) : x.shortest.read? = some x := by
  unfold shortest
  dsimp only
  split
  · rename_i d hd
    obtain ⟨count, -, hgrid⟩ := List.exists_of_findSome?_eq_some hd
    exact read?_onGrid? hgrid
  · exact read?_exact x

/-- **The digits of a magnitude read back.** -/
theorem read?_digits {x : Magnitude} (h : x.mantissa ≠ 0) : x.digits.read? = some x := by
  rw [digits, if_neg h, read?_stripZeros, read?_shortest]

end Magnitude

/-! ## The digits of a text -/

/-- A text that is not empty and holds digits only. -/
def IsNumeral (s : List Char) : Prop := s ≠ [] ∧ ∀ c ∈ s, c.isDigit = true

theorem isNumeral_toDigits (n : Nat) : IsNumeral (Nat.toDigits 10 n) :=
  ⟨Nat.toDigits_ne_nil, fun _ hc => Nat.isDigit_of_mem_toDigits (by decide) (by decide) hc⟩

theorem valueOf_toDigits (n : Nat) : valueOf (Nat.toDigits 10 n) = n :=
  Nat.ofDigitChars_ten_toDigits

@[simp] theorem toList_digitsOf (n : Nat) : (digitsOf n).toList = Nat.toDigits 10 n := by
  simp [digitsOf]

@[simp] theorem toList_integerText_negSucc (n : Nat) :
    (integerText (.negSucc n)).toList = '-' :: Nat.toDigits 10 (n + 1) := by
  simp [integerText]

/-- An integer starts with a minus or a digit. -/
theorem head?_integerText_ne {x : Char} (hminus : x ≠ '-') (hdigit : x.isDigit = false) (n : Int)
    (s : List Char) : ((integerText n).toList ++ s).head? ≠ some x := by
  cases n with
  | ofNat n =>
    rw [integerText, toList_digitsOf]
    exact Scanner.head?_append_ne (isNumeral_toDigits n).1 (isNumeral_toDigits n).2 hdigit s
  | negSucc n => simpa using hminus.symm

/-- A decimal with places behind its point is written with digits on both sides of it. -/
theorem Decimal.exists_positional {d : Decimal} {n : Nat} (h : d.exponent = .negSucc n) :
    ∃ whole fraction, d.positional.toList = whole ++ '.' :: fraction ∧ IsNumeral whole ∧
      IsNumeral fraction ∧ valueOf (whole ++ fraction) = d.digits ∧ fraction.length = n + 1 := by
  obtain ⟨hne, hall⟩ : IsNumeral d.text := isNumeral_toDigits d.digits
  have hvalue : valueOf d.text = d.digits := valueOf_toDigits d.digits
  by_cases hlt : n + 1 < d.text.length
  · refine ⟨d.text.take (d.text.length - (n + 1)), d.text.drop (d.text.length - (n + 1)), ?_,
      ⟨?_, ?_⟩, ⟨?_, ?_⟩, ?_, ?_⟩
    · simp [Decimal.positional, h, hlt]
    · exact fun e => by have := congrArg List.length e; simp at this; omega
    · exact fun c hc => hall c (List.mem_of_mem_take hc)
    · exact fun e => by have := congrArg List.length e; simp at this; omega
    · exact fun c hc => hall c (List.mem_of_mem_drop hc)
    · rw [List.take_append_drop, hvalue]
    · simp only [List.length_drop]; omega
  · refine ⟨['0'], List.replicate (n + 1 - d.text.length) '0' ++ d.text, ?_,
      ⟨by simp, by simp⟩, ⟨by simp [hne], fun c hc => ?_⟩, ?_, ?_⟩
    · simp [Decimal.positional, h, hlt]
    · rcases List.mem_append.1 hc with hc | hc
      · rw [(List.mem_replicate.1 hc).2]; decide
      · exact hall c hc
    · rw [← hvalue]
      simp [valueOf, Nat.ofDigitChars_append, Nat.ofDigitChars_cons]
    · simp only [List.length_append, List.length_replicate]; omega

namespace Double

theorem ofDecimal_negSucc (negative : Bool) (digits n : Nat) :
    ofDecimal negative digits (.negSucc n) = ofQuotient negative digits (Nat.pow 10 (n + 1)) := rfl

theorem ofDigits_of_nearest? {whole fraction : List Char} {n : Nat} {x : Magnitude}
    (hlen : fraction.length = n + 1)
    (h : Magnitude.nearest? (valueOf (whole ++ fraction)) (Nat.pow 10 (n + 1)) = some x) :
    ofDigits whole fraction = finite false x := by
  have hexp : -(fraction.length : Int) = .negSucc n := by
    rw [hlen, Int.negSucc_eq, Int.natCast_succ]
  unfold ofDigits
  rw [hexp, ofDecimal_negSucc, ofQuotient, h, ofMagnitude?]

/-- **A finite literal is a sign, digits, a point and digits, and these digits stand for it.** -/
theorem exists_literal (negative : Bool) (x : Magnitude) :
    ∃ whole fraction, (literal (finite negative x)).toList =
        (signText negative).toList ++ (whole ++ '.' :: fraction) ∧
      IsNumeral whole ∧ IsNumeral fraction ∧ ofDigits whole fraction = finite false x := by
  by_cases hwhole : x.isWhole = true
  · -- the digits stand for the number exactly
    refine ⟨Nat.toDigits 10 x.floor, ['0'], ?_, isNumeral_toDigits _, ⟨by simp, by simp⟩, ?_⟩
    · simp [literal, hwhole]
    · have hfloor : x.floor * Magnitude.unitsInOne = x.units :=
        Nat.div_mul_cancel (Nat.dvd_of_mod_eq_zero (beq_iff_eq.1 hwhole))
      have hvalue : valueOf (Nat.toDigits 10 x.floor ++ ['0']) = x.floor * 10 := by
        have hdigits := valueOf_toDigits x.floor
        simp only [valueOf, Nat.ofDigitChars_append] at hdigits ⊢
        simp [hdigits, Nat.ofDigitChars_cons, Nat.mul_comm]
      refine ofDigits_of_nearest? (n := 0) rfl (Magnitude.nearest?_exact (Nat.pow_pos (by decide)) ?_)
      rw [hvalue, Nat.mul_right_comm, hfloor]
  · -- the fewest digits are those that read back
    have hmantissa : x.mantissa ≠ 0 := by
      intro h
      refine hwhole ?_
      simp [Magnitude.isWhole, Magnitude.units, h]
    have hread := Magnitude.read?_digits hmantissa
    cases hexp : x.digits.exponent with
    | ofNat n =>
      refine absurd (Magnitude.isWhole_of_nearest? (n := x.digits.digits * Nat.pow 10 n) ?_) hwhole
      simpa only [Decimal.read?, Decimal.quotient, hexp] using hread
    | negSucc n =>
      obtain ⟨whole, fraction, htext, hw, hf, hvalue, hlen⟩ := Decimal.exists_positional hexp
      refine ⟨whole, fraction, ?_, hw, hf, ofDigits_of_nearest? hlen ?_⟩
      · simp [literal, hwhole, plain, htext]
      · rw [hvalue]
        simpa only [Decimal.read?, Decimal.quotient, hexp] using hread

end Double

namespace Grammar

open Scanner

/-! ## Whole numbers -/

/-- A whole number is a run of digits whose value is an integer. -/
theorem intNumeral_eq_some_iff {s rest : List Char} {n : Int64} :
    intNumeral s = some (n, rest) ↔ ∃ digits, takeSome Char.isDigit s = some (digits, rest) ∧
      valueOf digits < integerBound ∧ n = Int64.ofNat (valueOf digits) := by
  rw [intNumeral, convert_eq_some_iff]
  refine exists_congr fun digits => and_congr_right fun _ => ?_
  split
  · rename_i h
    simp [h, eq_comm]
  · rename_i h
    simp [h]

/-- Digits whose value is no integer are no whole number. -/
theorem intNumeral_eq_none_iff {s : List Char} :
    intNumeral s = none ↔ ∀ digits rest, takeSome Char.isDigit s = some (digits, rest) →
      integerBound ≤ valueOf digits := by
  rw [Option.eq_none_iff_forall_ne_some]
  constructor
  · intro h digits rest hrun
    exact Nat.le_of_not_lt fun hlt =>
      h _ (intNumeral_eq_some_iff.2 ⟨digits, hrun, hlt, rfl⟩)
  · rintro h ⟨n, rest⟩ hread
    obtain ⟨digits, hrun, hlt, -⟩ := intNumeral_eq_some_iff.1 hread
    exact absurd hlt (Nat.not_lt.2 (h digits rest hrun))

end Grammar

end MetricQuery

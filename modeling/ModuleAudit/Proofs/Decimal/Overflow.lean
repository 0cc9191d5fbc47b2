import Mathlib.Algebra.Order.Field.Power
import Mathlib.Algebra.Order.Field.Rat
import Mathlib.Data.Rat.Cast.Order
import Mathlib.Tactic.FieldSimp
import Mathlib.Tactic.NormNum
import Mathlib.Tactic.Ring
import ModuleAudit.Decimal.Binary64

/-!
# Quotients beyond the doubles

A quotient is written with the exponent at which its mantissa has 53 bits, or with the
least exponent. The greatest double is `(2 ^ 53 - 1) * 2 ^ 971`, and its mantissa is
odd, so that a quotient half way between it and `2 ^ 1024` is rounded away from it.
There is no double for a quotient from `2 ^ 1024 - 2 ^ 970` on, and there is one for
any other.
-/

namespace ModuleAudit

/-- Below `k + 1`, a quotient is rounded to `k + 1` from half way on if `k` is odd. -/
theorem roundDiv_eq_succ_iff {num den k : Nat} (odd : k % 2 = 1) (below : num < (k + 1) * den) :
    roundDiv num den = k + 1 ↔ (2 * k + 1) * den ≤ 2 * num := by
  have positive : 0 < den := Nat.pos_of_ne_zero fun zero => by simp [zero] at below
  have split : den * (num / den) + num % den = num := Nat.div_add_mod num den
  have small : num % den < den := Nat.mod_lt num positive
  have most : num / den ≤ k := Nat.lt_succ_iff.1 ((Nat.div_lt_iff_lt_mul positive).2 below)
  rcases Nat.eq_or_lt_of_le most with full | less
  · have twice : (2 * k + 1) * den = 2 * (den * k) + den := by ring
    rw [full] at split
    rw [twice, roundDiv, full]
    split_ifs <;> omega
  · have less : den * (num / den + 1) ≤ den * k := Nat.mul_le_mul_left den less
    have twice : (2 * k + 1) * den = 2 * (den * k) + den := by ring
    rw [Nat.mul_add, Nat.mul_one] at less
    rw [twice, roundDiv]
    split_ifs <;> omega

namespace Binary64

variable {num den : Nat}

theorem scaled_pos (positive : 0 < den) (e : Int) : 0 < (scaled num den e).2 := by
  unfold scaled
  split
  · exact Nat.mul_pos positive (Nat.pow_pos (by decide))
  · exact positive

/-- Scaling divides by a power of two. -/
theorem scaled_div (e : Int) :
    ((scaled num den e).1 : ℚ) / (scaled num den e).2 = num / den / 2 ^ e := by
  unfold scaled
  split
  · rename_i nonnegative
    obtain ⟨n, rfl⟩ := Int.eq_ofNat_of_zero_le nonnegative
    rw [Int.toNat_natCast, Nat.pow_eq, zpow_natCast]
    push_cast
    rw [div_div]
  · rename_i negative
    obtain ⟨n, rfl⟩ : ∃ n : Nat, e = -n := ⟨(-e).toNat, by omega⟩
    rw [Int.neg_neg, Int.toNat_natCast, Nat.pow_eq, zpow_neg, zpow_natCast, div_inv_eq_mul]
    push_cast
    rw [mul_div_right_comm]

/-- A scaled quotient has few bits exactly when the quotient is below a power of two. -/
theorem scaled_lt_iff (positive : 0 < den) (e : Int) (bits : Nat) :
    (scaled num den e).1 / (scaled num den e).2 < 2 ^ bits ↔
      (num / den : ℚ) < 2 ^ (e + bits) := by
  have scale : (0 : ℚ) < 2 ^ e := zpow_pos (by norm_num) e
  have below : (0 : ℚ) < (scaled num den e).2 := Nat.cast_pos.2 (scaled_pos positive e)
  calc (scaled num den e).1 / (scaled num den e).2 < 2 ^ bits
      ↔ (scaled num den e).1 < 2 ^ bits * (scaled num den e).2 :=
        Nat.div_lt_iff_lt_mul (scaled_pos positive e)
    _ ↔ ((scaled num den e).1 : ℚ) / (scaled num den e).2 < 2 ^ bits := by
        rw [div_lt_iff₀ below]
        norm_cast
    _ ↔ (num / den : ℚ) < 2 ^ (e + bits) := by
        rw [scaled_div, div_lt_iff₀ scale, zpow_add₀ (by norm_num), zpow_natCast, mul_comm]

/-- The logarithms of its parts enclose a quotient. -/
theorem quotient_bounds (hnum : 0 < num) (hden : 0 < den) :
    (2 : ℚ) ^ ((num.log2 : Int) - den.log2 - 1) < num / den ∧
      (num / den : ℚ) < 2 ^ ((num.log2 : Int) - den.log2 + 1) := by
  have numLow : (2 : ℚ) ^ num.log2 ≤ num := by exact_mod_cast Nat.log2_self_le hnum.ne'
  have numHigh : (num : ℚ) < 2 ^ (num.log2 + 1) := by exact_mod_cast Nat.lt_log2_self
  have denLow : (2 : ℚ) ^ den.log2 ≤ den := by exact_mod_cast Nat.log2_self_le hden.ne'
  have denHigh : (den : ℚ) < 2 ^ (den.log2 + 1) := by exact_mod_cast Nat.lt_log2_self
  have positive : (0 : ℚ) < den := Nat.cast_pos.2 hden
  have two : (2 : ℚ) ≠ 0 := by norm_num
  constructor
  · have low : (2 : ℚ) ^ ((num.log2 : Int) - den.log2 - 1) = 2 ^ num.log2 / 2 ^ (den.log2 + 1) := by
      rw [sub_sub, zpow_sub₀ two]
      norm_cast
    rw [low]
    exact div_lt_div₀' numLow denHigh (Nat.cast_pos.2 hnum) positive
  · have high : (2 : ℚ) ^ ((num.log2 : Int) - den.log2 + 1) =
        2 ^ (num.log2 + 1) / 2 ^ den.log2 := by
      rw [sub_add_eq_add_sub, zpow_sub₀ two]
      norm_cast
    rw [high]
    exact div_lt_div₀ numHigh denLow (by positivity) (by positivity)

/-- The exponent of a quotient leaves it a mantissa of at most 53 bits, and of exactly
53 bits above the least exponent. -/
theorem exponentFor_spec (hnum : 0 < num) (hden : 0 < den) :
    (num / den : ℚ) < 2 ^ (exponentFor num den + 53) ∧
      (exponentFor num den = minExponent ∨ (2 : ℚ) ^ (exponentFor num den + 52) ≤ num / den) := by
  obtain ⟨low, high⟩ := quotient_bounds hnum hden
  obtain ⟨guess, guessed⟩ : ∃ guess : Int, guess = num.log2 - den.log2 - precision := ⟨_, rfl⟩
  have full : ∃ exact : Int,
      (num / den : ℚ) < 2 ^ (exact + 53) ∧ (2 : ℚ) ^ (exact + 52) ≤ num / den ∧
        exponentFor num den = if exact < minExponent then minExponent else exact := by
    by_cases few : (scaled num den guess).1 / (scaled num den guess).2 < 2 ^ 53
    · refine ⟨guess, (scaled_lt_iff hden guess 53).1 few, ?_, ?_⟩
      · have same : guess + 52 = num.log2 - den.log2 - 1 := by rw [guessed, precision]; omega
        exact same ▸ low.le
      · rw [exponentFor, ← guessed]
        exact congrArg (fun e : Int => if e < minExponent then minExponent else e) (if_pos few)
    · refine ⟨guess + 1, ?_, ?_, ?_⟩
      · have same : guess + 1 + 53 = num.log2 - den.log2 + 1 := by rw [guessed, precision]; omega
        exact same ▸ high
      · rw [scaled_lt_iff hden, not_lt] at few
        have same : guess + 1 + 52 = guess + (53 : Nat) := by omega
        exact same ▸ few
      · rw [exponentFor, ← guessed]
        exact congrArg (fun e : Int => if e < minExponent then minExponent else e) (if_neg few)
  obtain ⟨exact, below, above, chosen⟩ := full
  rw [chosen]
  split_ifs with least
  · refine ⟨below.trans ?_, .inl rfl⟩
    exact zpow_lt_zpow_right₀ (by norm_num) (by omega)
  · exact ⟨below, .inr above⟩

/-- A quotient keeps its sign where it has no double. -/
theorem eq_of_ofRatio_eq_infinite {negative sign : Bool}
    (overflow : ofRatio negative num den = .infinite sign) : sign = negative := by
  unfold ofRatio at overflow
  split_ifs at overflow with zero
  · cases overflow
  · dsimp only at overflow
    split_ifs at overflow <;> cases overflow <;> rfl

/-- A quotient has no double if its exponent is too large, or if it is the greatest and
the mantissa is rounded to one bit more. -/
theorem ofRatio_eq_infinite_iff_exponent (negative : Bool) (hnum : 0 < num) :
    ofRatio negative num den = .infinite negative ↔
      maxExponent < exponentFor num den ∨ exponentFor num den = maxExponent ∧
        roundDiv (scaled num den maxExponent).1 (scaled num den maxExponent).2 =
          Nat.pow 2 precision := by
  have exceeds (mantissa : Nat) (e : Int) :
      (if e > maxExponent then infinite negative else finite negative mantissa e) =
        infinite negative ↔ maxExponent < e := by
    split_ifs with large
    · exact iff_of_true rfl large
    · exact iff_of_false (fun same => by cases same) large
  rw [ofRatio, if_neg hnum.ne', exceeds]
  generalize exponentFor num den = e
  by_cases greatest : e = maxExponent
  · subst greatest
    split_ifs with carried
    · exact iff_of_true (Int.lt_succ _) (.inr ⟨rfl, carried⟩)
    · refine iff_of_false (lt_irrefl _) ?_
      rintro (large | ⟨-, rounded⟩)
      · exact lt_irrefl _ large
      · exact carried rounded
  · split_ifs <;> omega

/-- There is no double for a quotient from `2 ^ 1024 - 2 ^ 970` on. -/
theorem ofRatio_eq_infinite_iff (negative : Bool) (hden : 0 < den) :
    ofRatio negative num den = .infinite negative ↔
      den * (Nat.pow 2 1024 - Nat.pow 2 970) ≤ num := by
  -- All bounds are multiples of `unit`, which is the denominator times `2 ^ 970`.
  obtain ⟨unit, hunit⟩ : ∃ unit, unit = 2 ^ 970 * den := ⟨_, rfl⟩
  have unit_pos : 0 < unit := by
    rw [hunit]
    exact Nat.mul_pos (pow_pos Nat.two_pos 970) hden
  have power (n : Nat) : (2 : ℚ) ^ ((n + 970 : Nat) : Int) * den = 2 ^ n * unit := by
    rw [zpow_natCast, pow_add, mul_assoc, hunit, Nat.cast_mul, Nat.cast_pow, Nat.cast_ofNat]
  have bound : den * (Nat.pow 2 1024 - Nat.pow 2 970) = (2 ^ 54 - 1) * unit := by
    have exponents : 1024 = 54 + 970 := rfl
    rw [Nat.pow_eq, Nat.pow_eq, exponents, Nat.pow_add, ← Nat.sub_one_mul, hunit, Nat.mul_comm den,
      Nat.mul_assoc]
  rw [bound]
  rcases Nat.eq_zero_or_pos num with rfl | hnum
  · refine iff_of_false (fun same => by cases same) ?_
    omega
  obtain ⟨below, above⟩ := exponentFor_spec hnum hden
  have positive : (0 : ℚ) < den := Nat.cast_pos.2 hden
  rw [div_lt_iff₀ positive] at below
  rw [le_div_iff₀ positive] at above
  rw [ofRatio_eq_infinite_iff_exponent negative hnum]
  generalize exponentFor num den = e at below above ⊢
  rcases lt_trichotomy e maxExponent with less | rfl | greater
  · have small : (num : ℚ) < 2 ^ 53 * unit := by
      rw [← power]
      refine below.trans_le (mul_le_mul_of_nonneg_right ?_ positive.le)
      exact zpow_le_zpow_right₀ (by norm_num) (by unfold maxExponent at less; omega)
    have small : num < 2 ^ 53 * unit := by exact_mod_cast small
    refine iff_of_false ?_ (by omega)
    rintro (large | ⟨greatest, -⟩) <;> omega
  · have exponents : maxExponent + 53 = ((54 + 970 : Nat) : Int) := rfl
    rw [exponents, power] at below
    have small : num < 2 ^ 54 * unit := by exact_mod_cast below
    have whole : den * 2 ^ 971 = 2 * unit := by
      have exponents : 971 = 970 + 1 := rfl
      rw [exponents, Nat.pow_succ, hunit]
      ring
    have parts : scaled num den maxExponent = (num, 2 * unit) := by
      rw [scaled, if_pos (by decide), ← whole]
      rfl
    have rounded : roundDiv num (2 * unit) = 2 ^ 53 ↔ (2 ^ 54 - 1) * (2 * unit) ≤ 2 * num :=
      roundDiv_eq_succ_iff (by decide) (by omega)
    rw [parts]
    have carry : roundDiv num (2 * unit) = Nat.pow 2 precision ↔ (2 ^ 54 - 1) * unit ≤ num := by
      refine rounded.trans ?_
      omega
    rw [carry]
    simp
  · have large : (2 ^ 54 * unit : ℚ) ≤ num := by
      rw [← power]
      have full := above.resolve_left (by unfold minExponent; unfold maxExponent at greater; omega)
      refine le_trans (mul_le_mul_of_nonneg_right ?_ positive.le) full
      exact zpow_le_zpow_right₀ (by norm_num) (by unfold maxExponent at greater; omega)
    have large : 2 ^ 54 * unit ≤ num := by exact_mod_cast large
    exact iff_of_true (.inl greater) (by omega)

end Binary64

end ModuleAudit

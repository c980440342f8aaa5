import Mathlib.Algebra.Order.Ring.Nat
import MentalPoker.Hand.State

/-!
# Rounding does not pass a whole number

A fraction that lies between zero and a whole number does so after it was rounded to a binary64
number, and after it was rounded to an integer. So a part of a whole, computed in binary64 numbers
and shown in percent, is shown as a number from 0 to 100.

## The crux

Whole numbers below `2 ^ 50` stand on the grid of every number that they bound: the exponent of
such a number is negative (`exponentFor_neg`), so its mantissa counts parts of a unit, and the bound
is a whole count of them. Rounding to the grid cannot jump over a point of the grid (`divEven_le`).
-/

namespace MentalPoker

theorem divEven_le {n d k : Nat} (h : n ≤ k * d) : divEven n d ≤ k := by
  have hdiv : n / d ≤ k := Nat.div_le_of_le_mul (by rwa [Nat.mul_comm])
  have hparts : d * (n / d) + n % d = n := Nat.div_add_mod n d
  unfold divEven
  by_cases hlast : n / d = k
  · -- the quotient is the bound already, so nothing is left to round up
    have hrest : n % d = 0 := by
      rw [hlast, Nat.mul_comm] at hparts
      omega
    rw [hrest]
    dsimp only
    split
    · omega
    · have hzero : d = 0 := by omega
      subst hzero
      have hnone : n / 0 = 0 := Nat.div_zero n
      rw [hnone]
      simp
  · dsimp only
    split
    · omega
    · split
      · omega
      · split <;> omega

namespace Binary64

/-- The number lies between zero and `bound`. -/
def IsUpTo (bound : Nat) (x : Binary64) : Prop :=
  ∃ m e, x = .finite false m e ∧ (ratio m e).1 ≤ bound * (ratio m e).2

theorem isUpTo_zero (bound : Nat) : IsUpTo bound (zero false) :=
  ⟨0, 0, rfl, Nat.zero_le _⟩

/-- Fractions below `2 ^ 50` are counted in parts of a unit. -/
theorem exponentFor_neg {num den bound : Nat} (hnum : num ≠ 0) (hbound : bound ≤ 2 ^ 50)
    (h : num ≤ bound * den) : exponentFor num den ≤ -2 := by
  have hlog : num.log2 < den.log2 + 51 := by
    rw [Nat.log2_lt hnum]
    calc num ≤ bound * den := h
      _ ≤ 2 ^ 50 * den := Nat.mul_le_mul_right den hbound
      _ < 2 ^ 50 * 2 ^ (den.log2 + 1) :=
        Nat.mul_lt_mul_of_pos_left Nat.lt_log2_self (by decide)
      _ = 2 ^ (den.log2 + 51) := by rw [← Nat.pow_add, Nat.add_comm]
  unfold exponentFor
  have hleast : minExponent ≤ -2 := by decide
  dsimp only
  split <;> omega

/-- **Rounding a fraction** does not pass a whole number. -/
theorem isUpTo_ofRatio {num den bound : Nat} (hbound : bound ≤ 2 ^ 50)
    (h : num ≤ bound * den) : IsUpTo bound (ofRatio false num den) := by
  unfold ofRatio
  split
  · exact isUpTo_zero bound
  · next hnum =>
    have hneg := exponentFor_neg hnum hbound h
    obtain ⟨k, hk⟩ : ∃ k : Nat, exponentFor num den = .negSucc (k + 1) := by
      refine ⟨(-exponentFor num den - 2).toNat, ?_⟩
      rw [Int.negSucc_eq]
      omega
    -- the bound is a whole count of the parts in which the mantissa counts
    have hmantissa : divEven (num <<< (k + 2)) den ≤ bound * 2 ^ (k + 2) := by
      apply divEven_le
      rw [Nat.shiftLeft_eq, Nat.mul_right_comm]
      exact Nat.mul_le_mul_right _ h
    rw [hk]
    dsimp only [scaled]
    generalize divEven (num <<< (k + 2)) den = m at hmantissa ⊢
    by_cases hfull : m = mantissaLimit
    · -- a full mantissa is halved, and its parts are twice as large
      have hhalf : mantissaFloor ≤ bound * 2 ^ (k + 1) := by
        have hlimit : mantissaLimit = mantissaFloor * 2 := by decide
        rw [hfull, hlimit, Nat.pow_succ, ← Nat.mul_assoc] at hmantissa
        omega
      rw [if_pos hfull]
      refine ⟨mantissaFloor, .negSucc k, ?_, ?_⟩
      · have hsome : mantissaFloor ≠ 0 := by decide
        have hsmall : ¬ maxExponent < Int.negSucc (k + 1) + 1 := by
          simp only [maxExponent]
          omega
        rw [if_neg hsome, if_neg hsmall]
        rfl
      · show mantissaFloor ≤ bound * 1 <<< (k + 1)
        rw [Nat.shiftLeft_eq, Nat.one_mul]
        exact hhalf
    · rw [if_neg hfull]
      dsimp only
      split
      · exact isUpTo_zero bound
      · refine ⟨m, .negSucc (k + 1), ?_, ?_⟩
        · have hsmall : ¬ maxExponent < Int.negSucc (k + 1) := by
            simp only [maxExponent]
            omega
          rw [if_neg hsmall]
        · show m ≤ bound * 1 <<< (k + 2)
          rw [Nat.shiftLeft_eq, Nat.one_mul]
          exact hmantissa

theorem IsUpTo.mulNat {bound n : Nat} {x : Binary64} (h : IsUpTo bound x)
    (hbound : bound * n ≤ 2 ^ 50) : IsUpTo (bound * n) (x.mulNat n) := by
  obtain ⟨m, e, rfl, hle⟩ := h
  cases e with
  | ofNat k =>
    have hwhole : m <<< k ≤ bound * 1 := hle
    refine isUpTo_ofRatio hbound ?_
    rw [Nat.shiftLeft_eq] at hwhole ⊢
    calc m * n * 2 ^ k = m * 2 ^ k * n := Nat.mul_right_comm m n (2 ^ k)
      _ ≤ bound * 1 * n := Nat.mul_le_mul_right n hwhole
      _ = bound * n * 1 := Nat.mul_right_comm bound 1 n
  | negSucc k =>
    have hparts : m ≤ bound * 1 <<< (k + 1) := hle
    refine isUpTo_ofRatio hbound ?_
    rw [Nat.mul_right_comm]
    exact Nat.mul_le_mul_right n hparts

/-- Rounding to an integer does not pass a whole number either. -/
theorem IsUpTo.roundEven? {bound : Nat} {x : Binary64} (h : IsUpTo bound x) :
    ∃ n : Nat, x.roundEven? = some (n : Int) ∧ n ≤ bound := by
  obtain ⟨m, e, rfl, hle⟩ := h
  exact ⟨_, rfl, divEven_le hle⟩

end Binary64

/-- **The shuffle in percent** is a number from 0 to 100, as long as no more steps are shown than
there are. -/
theorem HandState.shufflePercent_mem {s : HandState}
    (h : 0 < s.totalSteps → 0 ≤ s.currentStep ∧ s.currentStep ≤ s.totalSteps) :
    0 ≤ s.shufflePercent ∧ s.shufflePercent ≤ 100 := by
  unfold shufflePercent
  split
  · exact ⟨Int.le_refl 0, by decide⟩
  · next hsome =>
    have htotal : 0 < s.totalSteps := by omega
    obtain ⟨hlow, hhigh⟩ := h htotal
    have hsign : (decide (s.currentStep < 0) != decide (s.totalSteps < 0)) = false := by
      rw [decide_eq_false (by omega), decide_eq_false (by omega)]
      rfl
    have hpart : (Binary64.divInt s.currentStep s.totalSteps).IsUpTo 1 := by
      unfold Binary64.divInt
      rw [if_neg (by omega), hsign]
      exact Binary64.isUpTo_ofRatio (by decide) (by omega)
    obtain ⟨n, hn, hle⟩ := (hpart.mulNat (n := 100) (by decide)).roundEven?
    rw [hn]
    simp only [Option.getD_some]
    omega

end MentalPoker

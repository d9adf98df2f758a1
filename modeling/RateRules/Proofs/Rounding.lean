import RateRules.Decimal.Arithmetic

/-!
# Rounded numbers

A rounded number has at most 28 digits, the first of them not above the highest place and the last
not below the lowest, and rounding such a number leaves it as it is. Every operation on finite
numbers ends in a rounding.
-/
namespace RateRules

theorem powerOfTen_pos (n : Nat) : 0 < powerOfTen n := Nat.pow_pos (by decide)

theorem powerOfTen_succ (n : Nat) : powerOfTen (n + 1) = powerOfTen n * 10 := rfl

theorem powerOfTen_add (m n : Nat) : powerOfTen (m + n) = powerOfTen m * powerOfTen n :=
  Nat.pow_add 10 m n

theorem powerOfTen_le {m n : Nat} (h : m ≤ n) : powerOfTen m ≤ powerOfTen n :=
  Nat.pow_le_pow_right (by decide) h

theorem digitCount_of_lt_ten {n : Nat} (h : n < 10) :
    digitCount n = 1 := by rw [digitCount, if_pos h]

theorem lt_powerOfTen_digitCount (n : Nat) : n < powerOfTen (digitCount n) := by
  fun_induction digitCount n with
  | case1 n small => exact small
  | case2 n _ ih =>
    rw [powerOfTen_succ]
    omega

theorem digitCount_le_of_lt {n k : Nat} (h : n < powerOfTen (k + 1)) : digitCount n ≤ k + 1 := by
  induction k generalizing n with
  | zero =>
    have small : n < 10 := h
    exact Nat.le_of_eq (digitCount_of_lt_ten small)
  | succ k ih =>
    rw [powerOfTen_succ] at h
    have shorter := ih (Nat.div_lt_of_lt_mul (Nat.mul_comm _ 10 ▸ h))
    rw [digitCount]
    split
    · exact Nat.succ_le_succ (Nat.zero_le _)
    · exact Nat.succ_le_succ shorter

namespace Decimal

/-- At most 28 digits, the first not above the highest place and the last not below the lowest. -/
def fits : Decimal → Bool
  | finite _ coefficient exponent =>
    digitCount coefficient ≤ precision && lowestDigit ≤ exponent &&
      firstDigit coefficient exponent ≤ highestExponent
  | _ => false

theorem firstDigit_zero (exponent : Int) : firstDigit 0 exponent = exponent := by
  rw [firstDigit, digitCount_of_lt_ten (by decide)]
  exact Int.add_sub_cancel exponent 1

theorem fits_finite {negative : Bool} {coefficient : Nat} {exponent : Int} :
    (finite negative coefficient exponent).fits = true ↔
      digitCount coefficient ≤ precision ∧ lowestDigit ≤ exponent ∧
        firstDigit coefficient exponent ≤ highestExponent := by
  simp [fits, and_assoc]

theorem isFinite_of_fits {d : Decimal} (h : d.fits = true) : d.isFinite = true := by
  cases d with
  | finite negative coefficient exponent => rfl
  | infinite negative => cases h
  | undefined negative signaling payload => cases h

theorem eq_finite_of_isFinite {d : Decimal} (h : d.isFinite = true) :
    ∃ negative coefficient exponent, d = finite negative coefficient exponent := by
  cases d with
  | finite negative coefficient exponent => exact ⟨negative, coefficient, exponent, rfl⟩
  | infinite negative => cases h
  | undefined negative signaling payload => cases h

/-- Without its last places, a number that exceeds the precision by no more than these is at most
one carry away from 28 digits. -/
theorem shortened_le {n places : Nat} (h : digitCount n ≤ precision + places) :
    shortened n places ≤ powerOfTen precision := by
  have whole : n / powerOfTen places < powerOfTen precision := by
    refine Nat.div_lt_of_lt_mul ?_
    rw [Nat.mul_comm, ← powerOfTen_add]
    exact Nat.lt_of_lt_of_le (lt_powerOfTen_digitCount n) (powerOfTen_le h)
  have even : n / powerOfTen places % 2 < 2 := Nat.mod_lt _ (by decide)
  simp only [shortened]
  split
  · exact Nat.zero_le _
  · split
    · exact Nat.le_of_lt whole
    · split
      · exact whole
      · exact Nat.le_trans (Nat.add_le_add_left (Nat.le_of_lt_succ even) _) whole

theorem digitCount_carried {coefficient : Nat} (h : coefficient ≤ powerOfTen precision)
    (exponent : Int) :
    digitCount (carried coefficient exponent).1 ≤ precision := by
  rw [carried]
  split
  · refine digitCount_le_of_lt (Nat.lt_of_le_of_lt (Nat.div_le_div_right h) ?_)
    decide
  · next kept => exact Nat.le_of_not_lt kept

theorem le_carried (coefficient : Nat) (exponent : Int) :
    exponent ≤ (carried coefficient exponent).2 := by
  rw [carried]
  split
  · exact Int.le_of_lt (Int.lt_succ exponent)
  · exact Int.le_refl exponent

theorem fits_of_rounded {negative : Bool} {coefficient : Nat} {exponent : Int} {d : Decimal}
    (h : rounded negative coefficient exponent = .ok d) : d.fits = true := by
  rw [rounded] at h
  split at h
  · cases h
    have order : lowestDigit ≤ highestExponent := by decide
    rw [fits_finite, firstDigit_zero, digitCount_of_lt_ten (by decide)]
    exact ⟨by decide, by omega, by omega⟩
  · simp only at h
    split at h
    · cases h
    · next _ within =>
      cases h
      have places : digitCount coefficient ≤
          precision + (keptDigit coefficient exponent - exponent).toNat := by
        rw [keptDigit]
        omega
      have lowest : lowestDigit ≤ keptDigit coefficient exponent := Int.le_max_right _ _
      rw [fits_finite]
      exact ⟨digitCount_carried (shortened_le places) _, Int.le_trans lowest (le_carried _ _),
        Int.not_lt.mp within⟩

theorem fits_negate {a d : Decimal} (ha : a.isFinite = true) (h : a.negate = .ok d) :
    d.fits = true := by
  obtain ⟨negative, coefficient, exponent, rfl⟩ := eq_finite_of_isFinite ha
  exact fits_of_rounded h

theorem fits_sumAligned {n₁ n₂ : Bool} {c₁ c₂ : Nat} {e₁ e₂ : Int} {d : Decimal}
    (h : sumAligned n₁ c₁ e₁ n₂ c₂ e₂ = .ok d) : d.fits = true := by
  -- Every branch ends in a rounding.
  simp only [sumAligned] at h
  repeat' split at h
  all_goals exact fits_of_rounded h

theorem fits_quotient {negative : Bool} {c₁ c₂ : Nat} {e₁ e₂ : Int} {d : Decimal}
    (h : quotient negative c₁ e₁ c₂ e₂ = .ok d) : d.fits = true := by
  simp only [quotient] at h
  repeat' split at h
  all_goals exact fits_of_rounded h

theorem fits_add {a b d : Decimal} (ha : a.isFinite = true) (hb : b.isFinite = true)
    (h : a.add b = .ok d) : d.fits = true := by
  obtain ⟨n₁, c₁, e₁, rfl⟩ := eq_finite_of_isFinite ha
  obtain ⟨n₂, c₂, e₂, rfl⟩ := eq_finite_of_isFinite hb
  change (if e₂ ≤ e₁ then sumAligned n₁ c₁ e₁ n₂ c₂ e₂ else sumAligned n₂ c₂ e₂ n₁ c₁ e₁) =
    .ok d at h
  split at h
  · exact fits_sumAligned h
  · exact fits_sumAligned h

theorem fits_sub {a b d : Decimal} (ha : a.isFinite = true) (hb : b.isFinite = true)
    (h : a.sub b = .ok d) : d.fits = true := by
  obtain ⟨n₂, c₂, e₂, rfl⟩ := eq_finite_of_isFinite hb
  exact fits_add ha rfl h

theorem fits_mul {a b d : Decimal} (ha : a.isFinite = true) (hb : b.isFinite = true)
    (h : a.mul b = .ok d) : d.fits = true := by
  obtain ⟨n₁, c₁, e₁, rfl⟩ := eq_finite_of_isFinite ha
  obtain ⟨n₂, c₂, e₂, rfl⟩ := eq_finite_of_isFinite hb
  exact fits_of_rounded h

theorem fits_div {a b d : Decimal} (ha : a.isFinite = true) (hb : b.isFinite = true)
    (h : a.div b = .ok d) : d.fits = true := by
  obtain ⟨n₁, c₁, e₁, rfl⟩ := eq_finite_of_isFinite ha
  obtain ⟨n₂, c₂, e₂, rfl⟩ := eq_finite_of_isFinite hb
  change (if c₂ = 0 then .error .invalid else quotient (n₁ != n₂) c₁ e₁ c₂ e₂) = .ok d at h
  split at h
  · cases h
  · exact fits_quotient h

end Decimal
end RateRules

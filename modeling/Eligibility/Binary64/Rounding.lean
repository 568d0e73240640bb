import Eligibility.Binary64.Basic

/-!
# Rounding to binary64

Every number that enters a rule is the binary64 number nearest to an exact one: to a whole number,
or to a decimal `significand * 10 ^ exponent`. Of two numbers that are equally near, the one of even
rank is taken. Since the rank that follows the last finite one is that of infinity, magnitudes that
are too great become infinite by the same rule.

Main statements: `nearestRank_units`, that a magnitude which is representable is left as it is, and
`decimalLength_spec`, what the number of digits of a number says about it.
-/

namespace Eligibility

/-- The number of decimal digits of a number; zero has one. -/
def decimalLength (n : Nat) : Nat :=
  if n < 10 then 1 else decimalLength (n / 10) + 1
termination_by n
decreasing_by omega

/-- The rank of the magnitude nearest to `numerator / denominator` units, ties to the even rank.
Cutting the quotient to 53 binary digits gives the rank just below, and the distance to the middle
of the next step decides whether to go on to the rank above. -/
def nearestRank (numerator denominator : Nat) : Nat :=
  let quotient := numerator / denominator
  let shift := quotient.log2 - 52
  let significand := quotient / 2 ^ shift
  let below := shift * binade + significand
  match compare (2 * numerator) ((2 * significand + 1) * 2 ^ shift * denominator) with
  | .lt => below
  | .gt => below + 1
  | .eq => below + below % 2

namespace Binary64

/-- The number nearest to `numerator / denominator`, with the given sign. -/
def ofRatio (negative : Bool) (numerator denominator : Nat) : Binary64 :=
  ofRank negative (nearestRank (numerator * unitsPerOne) denominator)

/-- The number nearest to a whole number. -/
def ofInt (n : Int) : Binary64 := ofRatio (decide (n < 0)) n.natAbs 1

/-- The number nearest to `significand * 10 ^ exponent`, with the given sign. A decimal whose first
digit stands at or above `10 ^ 310` is infinite, and one whose first digit stands below
`10 ^ (-330)` is zero; these two cases are told from the number of digits alone, so that no great
power is ever computed. -/
def ofDecimal (negative : Bool) (significand : Nat) (exponent : Int) : Binary64 :=
  let top : Int := decimalLength significand + exponent
  if significand = 0 ∨ top < -329 then ofRank negative 0
  else if 310 < top then .infinite negative
  else if 0 ≤ exponent then ofRatio negative (significand * 10 ^ exponent.toNat) 1
  else ofRatio negative significand (10 ^ (-exponent).toNat)

/-- A signed zero is read from any decimal without a digit other than zero. -/
theorem ofDecimal_zero (negative : Bool) (exponent : Int) :
    ofDecimal negative 0 exponent = .finite negative 0 (by decide) := by
  simp [ofDecimal, ofRank, topRank]

end Binary64

/-! ### The number of digits -/

/-- Even zero has a digit. -/
theorem decimalLength_pos (n : Nat) : 0 < decimalLength n := by
  unfold decimalLength
  split <;> omega

/-- A number lies below the power of ten that its number of digits names, and unless it is zero it
reaches the power before. -/
theorem decimalLength_spec (n : Nat) :
    n < 10 ^ decimalLength n ∧ (n ≠ 0 → 10 ^ (decimalLength n - 1) ≤ n) := by
  fun_induction decimalLength n with
  | case1 n h => exact ⟨by omega, fun hn => by simp; omega⟩
  | case2 n h ih =>
    have hlen := decimalLength_pos (n / 10)
    obtain ⟨m, hm⟩ : ∃ m, decimalLength (n / 10) = m + 1 := ⟨_, (Nat.sub_add_cancel hlen).symm⟩
    rw [hm] at ih ⊢
    have hlow := ih.2 (by omega)
    simp only [Nat.add_sub_cancel, Nat.pow_succ] at ih hlow ⊢
    exact ⟨by omega, fun _ => by omega⟩

/-! ### Representable magnitudes -/

/-- Cutting the units of a magnitude to 53 binary digits leaves its rank. -/
theorem shift_units (rank : Nat) :
    let shift := (units rank).log2 - 52
    units rank = units rank / 2 ^ shift * 2 ^ shift ∧
      shift * binade + units rank / 2 ^ shift = rank := by
  unfold units
  by_cases h : rank < binade
  · rw [if_pos h]
    have hlog : rank.log2 - 52 = 0 := by
      by_cases h0 : rank = 0
      · simp [h0]
      · have : rank.log2 < 52 := (Nat.log2_lt h0).2 h
        omega
    simp [hlog]
  · rw [if_neg h]
    have hpos : 0 < binade := by decide
    have hmod := Nat.mod_lt rank hpos
    have hdiv := Nat.div_add_mod rank binade
    have hone : 1 ≤ rank / binade := (Nat.one_le_div_iff hpos).2 (by omega)
    obtain ⟨e, he⟩ : ∃ e, rank / binade = e + 1 := ⟨_, (Nat.sub_add_cancel hone).symm⟩
    have hlog : ((binade + rank % binade) * 2 ^ e).log2 = 52 + e := by
      have hne : (binade + rank % binade) * 2 ^ e ≠ 0 :=
        Nat.ne_of_gt (Nat.mul_pos (by omega) (Nat.two_pow_pos e))
      rw [Nat.log2_eq_iff hne, Nat.pow_add, Nat.add_right_comm, Nat.pow_add]
      exact ⟨Nat.mul_le_mul_right _ (Nat.le_add_right _ _),
        Nat.mul_lt_mul_of_pos_right (by unfold binade at *; omega) (Nat.two_pow_pos e)⟩
    rw [he, Nat.add_sub_cancel, hlog, Nat.add_sub_cancel_left]
    rw [he, Nat.mul_add, Nat.mul_comm binade e] at hdiv
    simp only [Nat.mul_div_cancel _ (Nat.two_pow_pos e), true_and]
    omega

/-- A magnitude of the grid is its own nearest one. -/
theorem nearestRank_units (rank denominator : Nat) (hd : 0 < denominator) :
    nearestRank (units rank * denominator) denominator = rank := by
  obtain ⟨hcut, hrank⟩ := shift_units rank
  have hbelow : 2 * (units rank * denominator) <
      (2 * (units rank / 2 ^ ((units rank).log2 - 52)) + 1) *
        2 ^ ((units rank).log2 - 52) * denominator := by
    have := Nat.two_pow_pos ((units rank).log2 - 52)
    rw [← Nat.mul_assoc]
    refine Nat.mul_lt_mul_of_pos_right ?_ hd
    rw [Nat.add_mul, Nat.mul_assoc, ← hcut]
    omega
  unfold nearestRank
  simp only [Nat.mul_div_cancel _ hd]
  rw [Nat.compare_eq_lt.2 hbelow]
  exact hrank

/-! ### Bounds -/

/-- Cutting a number to 53 binary digits leaves a number of at most 53 binary digits. -/
theorem significand_lt (quotient : Nat) : quotient / 2 ^ (quotient.log2 - 52) < 2 * binade := by
  have hlog : quotient < 2 ^ (quotient.log2 + 1) := Nat.lt_log2_self
  have hle : quotient.log2 + 1 ≤ 53 + (quotient.log2 - 52) := by omega
  refine Nat.div_lt_of_lt_mul (Nat.lt_of_lt_of_le hlog ?_)
  calc 2 ^ (quotient.log2 + 1) ≤ 2 ^ (53 + (quotient.log2 - 52)) :=
        Nat.pow_le_pow_right (by decide) hle
    _ = 2 ^ (quotient.log2 - 52) * (2 * binade) := by
        rw [Nat.pow_add, Nat.mul_comm]
        rfl

/-- The rank found lies at most two binades above what the size of the quotient asks for. -/
theorem nearestRank_le (numerator denominator : Nat) :
    nearestRank numerator denominator ≤
      ((numerator / denominator).log2 - 52) * binade + 2 * binade := by
  have := significand_lt (numerator / denominator)
  unfold nearestRank
  simp only
  split <;> omega

/-- A quotient of less than `2 ^ bits` units rounds to a finite magnitude when `bits` is at most
2000. -/
theorem nearestRank_lt_topRank {numerator denominator bits : Nat} (hbits : bits ≤ 2000)
    (h : numerator / denominator < 2 ^ bits) : nearestRank numerator denominator < topRank := by
  have hle := nearestRank_le numerator denominator
  have hlog : (numerator / denominator).log2 ≤ bits := by
    by_cases h0 : numerator / denominator = 0
    · simp [h0]
    · exact Nat.le_of_lt ((Nat.log2_lt h0).2 h)
  have hshift : ((numerator / denominator).log2 - 52) * binade ≤ 1948 * binade :=
    Nat.mul_le_mul_right _ (by omega)
  have htop : 1948 * binade + 2 * binade < topRank := by decide
  omega

end Eligibility

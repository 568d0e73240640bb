import Eligibility.Binary64.Reading

/-!
# The shortest decimal of a number

A finite number is written with the fewest digits that read back as it. On the grid of decimals with
one digit, then two, and so on, the two neighbours of the number are tried, the nearer one first;
the first that reads back is taken. Seventeen digits are always enough; behind them stands the exact
decimal expansion, which every binary64 number has.

Main statement: `readsBack_shortest`, that the decimal chosen reads back.
-/

namespace Eligibility

/-- The number `significand * 10 ^ exponent`. -/
structure Decimal where
  /-- The digits, read as a whole number. -/
  significand : Nat
  /-- The power of ten of the last digit. -/
  exponent : Int
deriving DecidableEq, Repr

/-- Which of two equally near decimals is taken. -/
inductive TieRule where
  /-- The greater one. -/
  | up
  /-- The one whose last digit is even. -/
  | even
deriving DecidableEq, Repr

namespace Decimal

/-- The same number without zeros at the end of its digits. -/
def trimZeros (significand : Nat) (exponent : Int) : Decimal :=
  if significand = 0 ∨ significand % 10 ≠ 0 then ⟨significand, exponent⟩
  else trimZeros (significand / 10) (exponent + 1)
termination_by significand
decreasing_by omega

/-- The power of ten of the first digit. -/
def leadingExponent (d : Decimal) : Int := decimalLength d.significand - 1 + d.exponent

end Decimal

namespace Binary64

/-- Does this decimal round to the magnitude of this rank? -/
def readsBack (rank : Nat) (d : Decimal) : Bool :=
  ofDecimal false d.significand d.exponent == ofRank false rank

/-- The power of ten of the first digit of a magnitude other than zero. -/
def leadingPower (rank : Nat) : Int :=
  if unitsPerOne ≤ units rank then decimalLength (units rank / unitsPerOne) - 1
  else -decimalLength ((unitsPerOne - 1) / units rank)

/-- Is the decimal below a magnitude to be tried before the one above it? The magnitude lies
`remainder / denominator` of a step above it. -/
def lowerIsNearer (ties : TieRule) (below remainder denominator : Nat) : Bool :=
  match compare (2 * remainder) denominator with
  | .lt => true
  | .gt => false
  | .eq => ties == .even && below % 2 == 0

/-- The two neighbours of a magnitude among the decimals with a given number of digits, the nearer
one first. -/
def neighbours (ties : TieRule) (rank : Nat) (length : Nat) : List Decimal :=
  let exponent := leadingPower rank - length + 1
  let numerator := units rank * 10 ^ (-exponent).toNat
  let denominator := unitsPerOne * 10 ^ exponent.toNat
  let below := numerator / denominator
  let lower := Decimal.trimZeros below exponent
  let upper := Decimal.trimZeros (below + 1) exponent
  if lowerIsNearer ties below (numerator % denominator) denominator then [lower, upper]
  else [upper, lower]

/-- The number of places of one unit behind the point. -/
def unitPlaces : Nat := 1074

/-- The digits of one unit. -/
def unitDigits : Nat := 5 ^ unitPlaces

/-- All digits of a magnitude. -/
def exactDecimal (rank : Nat) : Decimal := ⟨units rank * unitDigits, -unitPlaces⟩

/-- The first decimal of at most seventeen digits that reads back as the magnitude of this rank. -/
def shortest? (ties : TieRule) (rank : Nat) : Option Decimal :=
  ((List.range 17).map (· + 1)).findSome? fun length =>
    (neighbours ties rank length).find? (readsBack rank)

/-- The shortest decimal that reads back as the magnitude of this rank. -/
def shortest (ties : TieRule) (rank : Nat) : Decimal :=
  if rank = 0 then ⟨0, 0⟩ else (shortest? ties rank).getD (exactDecimal rank)

end Binary64

/-! ### The decimal chosen reads back -/

namespace Binary64

/-- No finite magnitude has more than 2098 binary digits in units. -/
theorem units_lt_of_lt_topRank {rank : Nat} (h : rank < topRank) : units rank < 2 ^ 2098 := by
  have htop : units topRank = 2 ^ 2098 := by decide +kernel
  exact htop ▸ units_lt_units h

/-- The number of digits of all digits of a magnitude. -/
theorem decimalLength_exactDecimal {rank : Nat} (h0 : rank ≠ 0) (h : rank < topRank) :
    750 < decimalLength (exactDecimal rank).significand ∧
      decimalLength (exactDecimal rank).significand ≤ 1383 := by
  have hpos : 0 < units rank := by
    have : units 0 < units rank := units_lt_units (Nat.pos_of_ne_zero h0)
    omega
  obtain ⟨hlt, hle⟩ := decimalLength_spec (exactDecimal rank).significand
  have hne : (exactDecimal rank).significand ≠ 0 :=
    Nat.ne_of_gt (Nat.mul_pos hpos (Nat.pow_pos (by decide)))
  constructor
  · refine (Nat.pow_lt_pow_iff_right (a := 10) (by decide)).1 (Nat.lt_of_le_of_lt ?_ hlt)
    calc 10 ^ 750 ≤ unitDigits := by decide +kernel
      _ ≤ units rank * unitDigits := Nat.le_mul_of_pos_left _ hpos
  · have hbound : (exactDecimal rank).significand < 10 ^ 1383 :=
      calc units rank * unitDigits ≤ 2 ^ 2098 * unitDigits :=
            Nat.mul_le_mul_right _ (Nat.le_of_lt (units_lt_of_lt_topRank h))
        _ < 10 ^ 1383 := by decide +kernel
    have := (Nat.pow_lt_pow_iff_right (a := 10) (by decide)).1
      (Nat.lt_of_le_of_lt (hle hne) hbound)
    omega

/-- All digits of a magnitude read back. -/
theorem readsBack_exactDecimal {rank : Nat} (h0 : rank ≠ 0) (h : rank < topRank) :
    readsBack rank (exactDecimal rank) = true := by
  obtain ⟨hlow, hhigh⟩ := decimalLength_exactDecimal h0 h
  have hexp : (exactDecimal rank).exponent = -unitPlaces := rfl
  have hplaces : unitPlaces = 1074 := rfl
  have hne : (exactDecimal rank).significand ≠ 0 := by
    intro hz
    simp [hz, decimalLength] at hlow
  have hten : unitDigits * unitsPerOne = 10 ^ unitPlaces := by decide +kernel
  have hratio : (exactDecimal rank).significand * unitsPerOne = units rank * 10 ^ unitPlaces := by
    rw [← hten, ← Nat.mul_assoc]
    rfl
  rw [readsBack, beq_iff_eq, ofDecimal, hexp]
  rw [if_neg (by omega), if_neg (by omega), if_neg (by omega), ofRatio, hratio, Int.neg_neg,
    Int.toNat_natCast, nearestRank_units _ _ (Nat.pow_pos (by decide))]

/-- The decimal chosen for a finite magnitude reads back as it. -/
theorem readsBack_shortest (ties : TieRule) {rank : Nat} (h : rank < topRank) :
    readsBack rank (shortest ties rank) = true := by
  unfold shortest
  split
  · subst rank
    simp [readsBack, ofDecimal, ofRank]
  · rename_i h0
    cases hfound : shortest? ties rank with
    | none => exact readsBack_exactDecimal h0 h
    | some d =>
      obtain ⟨length, _, hlength⟩ := List.exists_of_findSome?_eq_some hfound
      exact List.find?_some hlength

end Binary64

end Eligibility

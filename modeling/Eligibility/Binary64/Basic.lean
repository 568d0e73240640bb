/-!
# Binary64 numbers

The numbers of rules and records are the binary64 numbers. A magnitude is held as its *rank*: the
place it has in the increasing list of all finite magnitudes, which starts with zero and goes on
with the multiples of the smallest subnormal number. Ranks make the two things rules need easy to
say: the order of two numbers is the order of their signed ranks, and the neighbours of a number
have the neighbouring ranks.

Every finite magnitude is a whole multiple of `2 ^ (-1074)`; `units` says which one. Nothing here
uses the machine's own floating point operations.

Main statements: `units_lt_units` (a higher rank is a greater magnitude) and `key?_eq_none_iff` (the
numbers but NaN have keys, which compare as they do).

Powers of numbers and sums of lists of numbers are those of the core library, here and in the
modules that import this one, also where more is imported that brings others along.
-/

namespace Eligibility

attribute [scoped instance (high)] instPowNat Zero.ofOfNat0

-- an exponent that is written out is a natural number
attribute [default_instance 20000] instPowNat

/-- How many magnitudes share one power of two. -/
def binade : Nat := 2 ^ 52

/-- The number of finite magnitudes, which is also the rank of the infinite one. -/
def topRank : Nat := 2047 * 2 ^ 52

/-- The number of units of `2 ^ (-1074)` in one. -/
def unitsPerOne : Nat := 2 ^ 1074

/-- The magnitude of a given rank, in units of `2 ^ (-1074)`. Below `binade` the ranks count the
units one by one; from there on each further `binade` of ranks doubles the step. -/
def units (rank : Nat) : Nat :=
  if rank < binade then rank else (binade + rank % binade) * 2 ^ (rank / binade - 1)

/-- A binary64 number. The two zeros are different numbers that compare as equal. -/
inductive Binary64 where
  /-- A finite number: its sign and the rank of its magnitude. -/
  | finite (negative : Bool) (rank : Nat) (rank_lt : rank < topRank)
  /-- One of the two infinities. -/
  | infinite (negative : Bool)
  /-- The value that is not a number. -/
  | nan
deriving DecidableEq, Repr

namespace Binary64

/-- The number of a sign and a magnitude; ranks from `topRank` on are infinite. -/
def ofRank (negative : Bool) (rank : Nat) : Binary64 :=
  if h : rank < topRank then .finite negative rank h else .infinite negative

/-- Positive zero. -/
def zero : Binary64 := .finite false 0 (by decide)

instance : Inhabited Binary64 := ⟨zero⟩

/-- Is this number neither infinite nor NaN? -/
def isFinite : Binary64 → Bool
  | .finite .. => true
  | _ => false

/-- Is this number written with a minus sign? -/
def isNegative : Binary64 → Bool
  | .finite negative .. => negative
  | .infinite negative => negative
  | .nan => false

/-- The rank with its sign. Numbers compare as their keys do; NaN has none. -/
def key? : Binary64 → Option Int
  | .finite negative rank _ => some (if negative then -(rank : Int) else rank)
  | .infinite negative => some (if negative then -(topRank : Int) else topRank)
  | .nan => none

/-- How two numbers compare; `none` when one of them is NaN. -/
def order? (x y : Binary64) : Option Ordering :=
  match x.key?, y.key? with
  | some a, some b => some (compare a b)
  | _, _ => none

/-- Do two numbers compare as equal? The two zeros do, NaN and NaN do not. -/
def numericallyEqual (x y : Binary64) : Bool := x.order? y == some .eq

/-! ### The finite numbers -/

/-- A rank below `topRank` gives the finite number of that rank. -/
theorem ofRank_of_lt {negative : Bool} {rank : Nat} (h : rank < topRank) :
    ofRank negative rank = .finite negative rank h := by
  simp [ofRank, h]

/-- Only NaN lacks a key. -/
theorem key?_eq_none_iff {x : Binary64} : x.key? = none ↔ x = .nan := by
  cases x <;> simp [key?]

end Binary64

/-! ### Ranks and magnitudes -/

/-- A higher rank is a greater magnitude. -/
theorem units_lt_units {a b : Nat} (h : a < b) : units a < units b := by
  have hpos : 0 < binade := by decide
  unfold units
  by_cases ha : a < binade
  · by_cases hb : b < binade
    · simpa [ha, hb] using h
    · rw [if_pos ha, if_neg hb]
      calc a < binade := ha
        _ ≤ binade + b % binade := Nat.le_add_right _ _
        _ ≤ (binade + b % binade) * 2 ^ (b / binade - 1) :=
            Nat.le_mul_of_pos_right _ (Nat.two_pow_pos _)
  · have hb : ¬ b < binade := by omega
    rw [if_neg ha, if_neg hb]
    have hda : 1 ≤ a / binade := (Nat.one_le_div_iff hpos).2 (by omega)
    rcases Nat.lt_or_ge (a / binade) (b / binade) with hd | hd
    · have hmod : binade + a % binade < 2 * binade := by
        have := Nat.mod_lt a hpos
        omega
      have hexp : a / binade - 1 + 1 ≤ b / binade - 1 := by omega
      calc (binade + a % binade) * 2 ^ (a / binade - 1)
          < 2 * binade * 2 ^ (a / binade - 1) :=
            Nat.mul_lt_mul_of_pos_right hmod (Nat.two_pow_pos _)
        _ = binade * 2 ^ (a / binade - 1 + 1) := by rw [Nat.pow_succ]; ac_rfl
        _ ≤ binade * 2 ^ (b / binade - 1) :=
            Nat.mul_le_mul_left _ (Nat.pow_le_pow_right (by decide) hexp)
        _ ≤ (binade + b % binade) * 2 ^ (b / binade - 1) :=
            Nat.mul_le_mul_right _ (Nat.le_add_right _ _)
    · have hle : a / binade ≤ b / binade := Nat.div_le_div_right (Nat.le_of_lt h)
      have heq : a / binade = b / binade := Nat.le_antisymm hle hd
      rw [heq]
      have h₁ := Nat.div_add_mod a binade
      have h₂ := Nat.div_add_mod b binade
      rw [heq] at h₁
      exact Nat.mul_lt_mul_of_pos_right (by omega) (Nat.two_pow_pos _)

end Eligibility

import Eligibility.Binary64.Shortest
import Eligibility.Text.Basic

/-!
# Layouts of numbers

A layout says how the shortest digits of a number are set: which way an exact tie goes, which sizes
are written without a power of ten, and what marks a whole number. There are two: that of rule text
and messages, and that of JSON.
-/

namespace Eligibility

/-- How a finite number is set. -/
structure Layout where
  /-- Which of two equally near shortest decimals is written. -/
  ties : TieRule
  /-- What is written after a whole number that has no power of ten. -/
  wholeMark : String
  /-- The powers of ten of the first digit for which a number is written out in full. -/
  plain : Int → Bool

namespace Layout

/-- Rule text never has a power of ten and does not mark whole numbers. -/
def ruleText : Layout := ⟨.up, "", fun _ => true⟩

/-- JSON text has a power of ten below `10 ^ (-5)` and from `10 ^ 16` on, and whole numbers end
in `.0`. -/
def json : Layout := ⟨.even, ".0", fun power => -5 ≤ power && power ≤ 15⟩

/-- A decimal without a power of ten. -/
def plainText (wholeMark : String) (d : Decimal) : String :=
  let digits := Nat.toDigits 10 d.significand
  if 0 ≤ d.exponent then
    String.ofList (digits ++ List.replicate d.exponent.toNat '0') ++ wholeMark
  else
    let places := (-d.exponent).toNat
    let padded := List.replicate (places + 1 - digits.length) '0' ++ digits
    String.ofList (padded.take (padded.length - places)) ++ "." ++
      String.ofList (padded.drop (padded.length - places))

/-- A decimal with its first digit before the point and a power of ten, whose sign is always
written. -/
def poweredText (d : Decimal) : String :=
  let digits := Nat.toDigits 10 d.significand
  let power := d.leadingExponent
  let sign := if power < 0 then "-" else "+"
  let fraction := if digits.length = 1 then "" else "." ++ String.ofList (digits.drop 1)
  String.ofList (digits.take 1) ++ fraction ++ "e" ++ sign ++ Text.decimal power.natAbs

/-- The text of a magnitude. -/
def magnitude (layout : Layout) (rank : Nat) : String :=
  let d := Binary64.shortest layout.ties rank
  if layout.plain d.leadingExponent then plainText layout.wholeMark d else poweredText d

/-- The text of a finite number. -/
def finite (layout : Layout) (negative : Bool) (rank : Nat) : String :=
  (if negative then "-" else "") ++ layout.magnitude rank

end Layout

namespace Binary64

/-- The text of a number in a rule and in messages. -/
def text : Binary64 → String
  | .finite negative rank _ => Layout.ruleText.finite negative rank
  | .infinite negative => if negative then "-inf" else "inf"
  | .nan => "NaN"

end Binary64

end Eligibility

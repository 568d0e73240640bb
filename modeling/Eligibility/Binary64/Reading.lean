import Eligibility.Binary64.Rounding

/-!
# Numbers written as text

A number is written with an optional sign, digits with an optional point (at least one digit on one
of its sides) and an optional power of ten; or it is one of the words `inf`, `infinity` and `nan`,
in any case. The digits are read exactly and rounded once, at the end.

Main statements: `digitsValue_append`, how digits that follow add to a value, and
`digitsValue_toDigits`, that the digits of a number have that number as their value.
-/

namespace Eligibility

/-- The value of a run of decimal digits. -/
def digitsValue (digits : List Char) : Nat :=
  digits.foldl (fun value digit => value * 10 + (digit.toNat - '0'.toNat)) 0

/-- Reads a power of ten: nothing at all, or a letter `e`, an optional sign and digits. -/
def readPower? : List Char → Option Int
  | [] => some 0
  | mark :: rest =>
    if mark == 'e' || mark == 'E' then
      match rest with
      | '-' :: digits => (unsigned? digits).map fun n => -n
      | '+' :: digits => unsigned? digits
      | digits => unsigned? digits
    else none
where
  /-- A whole number without a sign; it has at least one digit. -/
  unsigned? (digits : List Char) : Option Int :=
    if !digits.isEmpty && digits.all Char.isDigit then some (digitsValue digits) else none

namespace Binary64

/-- Reads a number that has no sign, and gives it one. -/
def ofUnsigned? (negative : Bool) (cs : List Char) : Option Binary64 :=
  let word := cs.map Char.toLower
  if word == ['i', 'n', 'f'] || word == ['i', 'n', 'f', 'i', 'n', 'i', 't', 'y'] then
    some (.infinite negative)
  else if word == ['n', 'a', 'n'] then some .nan
  else
    let whole := cs.takeWhile Char.isDigit
    let afterWhole := cs.dropWhile Char.isDigit
    let pointed := afterWhole.head? == some '.'
    let fraction := if pointed then afterWhole.tail.takeWhile Char.isDigit else []
    let afterFraction := if pointed then afterWhole.tail.dropWhile Char.isDigit else afterWhole
    if whole.isEmpty && fraction.isEmpty then none
    else (readPower? afterFraction).map fun power =>
      ofDecimal negative (digitsValue (whole ++ fraction)) (power - fraction.length)

/-- Reads a number from all of these characters. -/
def ofChars? : List Char → Option Binary64
  | '-' :: rest => ofUnsigned? true rest
  | '+' :: rest => ofUnsigned? false rest
  | cs => ofUnsigned? false cs

/-- Reads a number from all of a text; blanks are not skipped. -/
def ofText? (text : String) : Option Binary64 := ofChars? text.toList

/-- Reads a finite number from all of these characters. -/
def finiteOfChars? (cs : List Char) : Option Binary64 := (ofChars? cs).filter isFinite

end Binary64

/-! ### The value of digits -/

/-- Digits that follow move those before them up by their number. -/
theorem digitsValue_append (front back : List Char) :
    digitsValue (front ++ back) = digitsValue front * 10 ^ back.length + digitsValue back := by
  have fold : ∀ (cs : List Char) (start : Nat),
      cs.foldl (fun value digit => value * 10 + (digit.toNat - '0'.toNat)) start =
        start * 10 ^ cs.length +
          cs.foldl (fun value digit => value * 10 + (digit.toNat - '0'.toNat)) 0 := by
    intro cs
    induction cs with
    | nil => simp
    | cons c cs ih =>
      intro start
      rw [List.foldl_cons, ih, List.foldl_cons, ih (0 * 10 + _), List.length_cons, Nat.pow_succ,
        Nat.add_mul, Nat.zero_mul, Nat.zero_add, ← Nat.add_assoc, Nat.mul_assoc,
        Nat.mul_comm (10 ^ cs.length) 10]
  rw [digitsValue, List.foldl_append, fold back]
  rfl

/-- The digits of a number have that number as their value. -/
theorem digitsValue_toDigits (n : Nat) : digitsValue (Nat.toDigits 10 n) = n := by
  induction n using Nat.strongRecOn with
  | ind n ih =>
    rcases Nat.lt_or_ge n 10 with h | h
    · rw [Nat.toDigits_of_lt_base h]
      simp only [digitsValue, List.foldl_cons, List.foldl_nil, Nat.zero_mul, Nat.zero_add]
      exact Nat.sub_eq_of_eq_add (by
        have : ∀ d < 10, (Nat.digitChar d).toNat = d + '0'.toNat := by decide
        exact this n h)
    · have hsplit := Nat.toDigits_append_toDigits (b := 10) (n := n / 10) (d := n % 10)
        (by decide) (by omega) (Nat.mod_lt n (by decide))
      rw [Nat.div_add_mod] at hsplit
      rw [← hsplit, digitsValue_append, ih (n / 10) (by omega), ih (n % 10) (by omega),
        Nat.toDigits_of_lt_base (Nat.mod_lt n (by decide))]
      simp only [List.length_cons, List.length_nil]
      omega

end Eligibility

import Eligibility.Binary64.Reading
import Eligibility.Text.Basic

/-!
# Places in documents

What reads documents keeps the place of a fault, its line and its column, apart from what is said
about the fault. When the words for a fault end in a place, which the texts of a document can make
them do, that place is taken for the place of the fault: it is split off, and written behind the
words again with its numbers in their plain form. Lines count from one, so a place in line zero is
no place and is left out.
-/

namespace Eligibility.Json

/-- A place in a document. -/
structure Place where
  line : Nat
  column : Nat
deriving DecidableEq, Repr

/-- What stands before the line of a place. -/
def lineMark : List Char := " at line ".toList

/-- What stands before the column of a place. -/
def columnMark : List Char := " column ".toList

/-- The characters of a place at the end of a message. -/
def Place.characters (place : Place) : List Char :=
  lineMark ++ Nat.toDigits 10 place.line ++ (columnMark ++ Nat.toDigits 10 place.column)

/-- The number that a run of digits says; it has 64 bits at most. -/
def placeNumber? (digits : List Char) : Option Nat :=
  if digits.isEmpty || 2 ^ 64 ≤ digitsValue digits then none else some (digitsValue digits)

/-- What stands before a mark with a number behind it at the end of a text, and the number. -/
def splitNumber? (mark text : List Char) : Option (List Char × Nat) :=
  let rest := (text.reverse.dropWhile Char.isDigit).reverse
  if mark.isSuffixOf rest then
    (placeNumber? (text.reverse.takeWhile Char.isDigit).reverse).map fun n =>
      (rest.take (rest.length - mark.length), n)
  else none

/-- What stands before a place at the end of a text, and the place. -/
def splitPlace? (text : List Char) : Option (List Char × Place) := do
  let (rest, column) ← splitNumber? columnMark text
  let (words, line) ← splitNumber? lineMark rest
  return (words, ⟨line, column⟩)

/-- What is said about a fault in a document, given the words for it. -/
def faultText (message : String) : String :=
  match splitPlace? message.toList with
  | none => message
  | some (words, place) =>
    if place.line = 0 then String.ofList words else String.ofList (words ++ place.characters)

end Eligibility.Json

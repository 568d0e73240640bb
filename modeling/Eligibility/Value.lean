import Eligibility.Binary64.Reading
import Eligibility.Comparator
import Eligibility.Json.Basic
import Eligibility.Text.Basic

/-!
# Values, literals and records

A rule compares the value that a record holds for a field with a literal of the rule. Values and
literals of different kinds are brought together as follows.

* Two texts are ordered by their characters, which is the order of their UTF-8 bytes.
* Otherwise both sides are taken as numbers: booleans count as 1 and 0, and a text counts when,
  blanks at its ends aside, it is written as a finite number.
* When a side is missing, null or not a number, or one of the numbers is NaN, the two are unordered,
  and of all comparators only inequality holds.

Main statement: `order?_of_number`, that against a numeric literal only the numeric view of a value
counts.
-/

namespace Eligibility

/-- What a rule compares with. -/
inductive Literal where
  | number (value : Binary64)
  | text (value : String)
deriving DecidableEq, Repr, Inhabited

/-- What a record holds. -/
inductive Value where
  | null
  | boolean (value : Bool)
  | number (value : Binary64)
  | text (value : String)
deriving DecidableEq, Repr, Inhabited

/-- The finite number that a text is written as, blanks at its ends aside. -/
def numericText? (text : String) : Option Binary64 :=
  Binary64.finiteOfChars? (Text.trimmed text.toList)

namespace Literal

/-- The number that a literal counts as. -/
def number? : Literal → Option Binary64
  | .number value => some value
  | .text value => numericText? value

/-- The value that a literal denotes. -/
def toValue : Literal → Value
  | .number value => .number value
  | .text value => .text value

/-- Do two literals agree, numbers being compared as numbers? -/
def agrees : Literal → Literal → Bool
  | .number x, .number y => x.numericallyEqual y
  | .text a, .text b => a == b
  | _, _ => false

/-- A literal as JSON. -/
def toJson : Literal → Json
  | .number value => Json.ofBinary64 value
  | .text value => .text value

/-- The literal that a JSON value is: a number or a string. -/
def ofJson? : Json → Option Literal
  | .number value => some (.number value.toBinary64)
  | .text value => some (.text value)
  | _ => none

/-- What is said of a JSON value that is no literal. -/
def undecodable : String := "data did not match any variant of untagged enum Literal"

end Literal

namespace Value

/-- The number that a value counts as. -/
def number? : Value → Option Binary64
  | .null => none
  | .boolean value => some (if value then Binary64.ofInt 1 else Binary64.zero)
  | .number value => some value
  | .text value => numericText? value

/-- Is this the null value? -/
def isNull : Value → Bool
  | .null => true
  | _ => false

/-- How a value stands to a literal; `none` when the two cannot be ordered. -/
def order? : Value → Literal → Option Ordering
  | .text a, .text b => some (compare a b)
  | value, literal =>
    match value.number?, literal.number? with
    | some x, some y => x.order? y
    | _, _ => none

/-- Does the comparator hold of what a record has for a field, if anything, and a literal? -/
def compares (actual : Option Value) (comparator : Comparator) (expected : Literal) : Bool :=
  match actual.bind (order? · expected) with
  | some order => comparator.holds order
  | none => comparator.holdsUnordered

/-- A value as JSON. -/
def toJson : Value → Json
  | .null => .null
  | .boolean value => .boolean value
  | .number value => Json.ofBinary64 value
  | .text value => .text value

/-- The value that a JSON value is: anything but an array or an object. -/
def ofJson? : Json → Option Value
  | .null => some .null
  | .boolean value => some (.boolean value)
  | .number value => some (.number value.toBinary64)
  | .text value => some (.text value)
  | .array _ => none
  | .object _ => none

/-- What is said of a JSON value that is no value of a record. -/
def undecodable : String := "data did not match any variant of untagged enum Value"

/-- Against a number only the numeric view of a value counts. -/
theorem order?_of_number (value : Value) (y : Binary64) :
    value.order? (.number y) = value.number?.bind (·.order? y) := by
  cases value with
  | text text => simp only [order?, number?, Literal.number?]; cases numericText? text <;> rfl
  | _ => rfl

end Value

/-- The values of the fields of a subject; of several entries for a field the first counts. -/
abbrev Record := List (String × Value)

/-- Why a JSON document is no record. -/
inductive RecordError where
  /-- The document is not an object. -/
  | notAnObject
  /-- The value of this field is an array or an object. -/
  | unsupportedValue (field : String)
deriving DecidableEq, Repr

/-- What is said about a document that is no record. -/
def RecordError.message : RecordError → String
  | notAnObject => "Input must be a JSON object mapping field names to values"
  | unsupportedValue field =>
    "Field '" ++ field ++ "' must be a number, string, boolean or null"

namespace Record

/-- The value of a field. -/
def get? (record : Record) (field : String) : Option Value := record.lookup field

/-- The record of the members of an object, or the first field that has no value of a record. -/
def ofMembers : Json.Members → Except RecordError Record
  | [] => .ok []
  | (field, member) :: rest =>
    match Value.ofJson? member with
    | none => .error (.unsupportedValue field)
    | some value => (ofMembers rest).map fun record => (field, value) :: record

/-- The record that a JSON document holds. -/
def ofJson : Json → Except RecordError Record
  | .object members => ofMembers members
  | _ => .error .notAnObject

end Record

end Eligibility

import Eligibility.Text.Basic

/-!
# Parse modes

How strict a reader of rules is about operands that are compared with nothing.
-/

namespace Eligibility

/-- What becomes of operands that are compared with nothing. -/
inductive ParseMode where
  /-- They are kept, and the rule has no truth value. -/
  | lenient
  /-- The rule is refused. -/
  | strict
deriving DecidableEq, Repr, Inhabited

/-- This text, in lower case, names no mode. -/
structure UnknownParseMode where
  name : String
deriving DecidableEq, Repr

/-- What is said about a text that names no mode. -/
def UnknownParseMode.message (e : UnknownParseMode) : String :=
  "unknown parse mode '" ++ e.name ++ "' (expected 'strict' or 'lenient')"

namespace ParseMode

/-- What a mode is called. -/
def label : ParseMode → String
  | lenient => "lenient"
  | strict => "strict"

/-- The mode that a text names in any case. -/
def ofLabel (text : String) : Except UnknownParseMode ParseMode :=
  let lower := Text.lowerCase text
  if lower = lenient.label then .ok lenient
  else if lower = strict.label then .ok strict
  else .error ⟨lower⟩

/-- The mode that refuses bare operands if asked to. -/
def ofStrict (isStrict : Bool) : ParseMode := if isStrict then strict else lenient

end ParseMode

end Eligibility

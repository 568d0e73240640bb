import Eligibility.Binary64.Layout
import Eligibility.Json.Basic
import Eligibility.Text.Basic

/-!
# JSON text

Values are written compactly, without blanks, or indented by two spaces a level. Members are written
in the order of their list. In strings only the quotation mark, the backslash and the control
characters are escaped; everything else is written as it is.
-/

namespace Eligibility

namespace Json

/-- The braces around an object. -/
def openBrace : String := "\x7b"

@[inherit_doc openBrace]
def closeBrace : String := "\x7d"

/-- The two digits, to the base sixteen, of a number below 256. -/
def twoHexDigits (n : Nat) : List Char := [Nat.digitChar (n / 16), Nat.digitChar (n % 16)]

/-- How a character is written inside a string. -/
def escaped (c : Char) : List Char :=
  if c = '"' then ['\\', '"']
  else if c = '\\' then ['\\', '\\']
  else if c = '\x08' then ['\\', 'b']
  else if c = '\t' then ['\\', 't']
  else if c = '\n' then ['\\', 'n']
  else if c = '\x0c' then ['\\', 'f']
  else if c = '\r' then ['\\', 'r']
  else if c.toNat < 32 then ['\\', 'u', '0', '0'] ++ twoHexDigits c.toNat
  else [c]

/-- A string between quotation marks. -/
def quoted (text : String) : String :=
  "\"" ++ String.ofList (text.toList.flatMap escaped) ++ "\""

/-- The text of a number. -/
def Number.text : Number → String
  | .integer value .. =>
    (if value < 0 then "-" else "") ++ Text.decimal value.natAbs
  | .real (.finite negative rank _) _ => Layout.json.finite negative rank

mutual

/-- The compact text of a value. -/
def compact : Json → String
  | .null => "null"
  | .boolean value => if value then "true" else "false"
  | .number value => value.text
  | .text value => quoted value
  | .array items => "[" ++ compactItems items ++ "]"
  | .object members => openBrace ++ compactMembers members ++ closeBrace

/-- The compact texts of items, with commas between them. -/
def compactItems : List Json → String
  | [] => ""
  | [item] => compact item
  | item :: next :: rest => compact item ++ "," ++ compactItems (next :: rest)

/-- The compact texts of members, with commas between them. -/
def compactMembers : Members → String
  | [] => ""
  | [(name, value)] => quoted name ++ ":" ++ compact value
  | (name, value) :: next :: rest =>
    quoted name ++ ":" ++ compact value ++ "," ++ compactMembers (next :: rest)

end

/-- The start of a line inside some number of brackets. -/
def newLine (level : Nat) : String := "\n" ++ String.ofList (List.replicate (2 * level) ' ')

mutual

/-- The indented text of a value inside some number of brackets. -/
def indented (level : Nat) : Json → String
  | .array [] => "[]"
  | .array (item :: rest) =>
    "[" ++ indentedItems (level + 1) (item :: rest) ++ newLine level ++ "]"
  | .object [] => openBrace ++ closeBrace
  | .object (member :: rest) =>
    openBrace ++ indentedMembers (level + 1) (member :: rest) ++ newLine level ++ closeBrace
  | value => compact value

/-- The indented texts of items, each on a line of its own. -/
def indentedItems (level : Nat) : List Json → String
  | [] => ""
  | [item] => newLine level ++ indented level item
  | item :: next :: rest =>
    newLine level ++ indented level item ++ "," ++ indentedItems level (next :: rest)

/-- The indented texts of members, each on a line of its own. -/
def indentedMembers (level : Nat) : Members → String
  | [] => ""
  | [(name, value)] => newLine level ++ quoted name ++ ": " ++ indented level value
  | (name, value) :: next :: rest =>
    newLine level ++ quoted name ++ ": " ++ indented level value ++ "," ++
      indentedMembers level (next :: rest)

end

/-- The indented text of a value. -/
def pretty (value : Json) : String := indented 0 value

end Json

end Eligibility

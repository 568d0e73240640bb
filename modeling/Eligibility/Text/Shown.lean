import Eligibility.Text.HiddenTable

/-!
# Texts shown in messages

A message that shows a text of unknown content puts it between double quotes and writes what could
not be seen as an escape: line ends and tabs by a letter, every other hidden character by its code
point.
-/

namespace Eligibility.Text

/-- Has this character no visible form of its own? The space counts as visible. -/
def isHidden (c : Char) : Bool :=
  if c.toNat < 0x7F then c.toNat < 0x20
  else hiddenRanges.any fun range => range.1 ≤ c.toNat && c.toNat ≤ range.2

/-- How a character is shown between quotes. -/
def shownChar (c : Char) : List Char :=
  if c = '\x00' then ['\\', '0']
  else if c = '\t' then ['\\', 't']
  else if c = '\r' then ['\\', 'r']
  else if c = '\n' then ['\\', 'n']
  else if c = '"' ∨ c = '\\' then ['\\', c]
  else if isHidden c then ['\\', 'u', '\x7b'] ++ Nat.toDigits 16 c.toNat ++ ['\x7d']
  else [c]

/-- A text between quotes, with escapes for what could not be seen. -/
def shown (text : String) : String :=
  "\"" ++ String.ofList (text.toList.flatMap shownChar) ++ "\""

end Eligibility.Text

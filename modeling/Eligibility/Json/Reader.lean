import Eligibility.Binary64.Reading
import Eligibility.Json.Basic

/-!
# Reading JSON

The grammar is the strict one: no trailing commas, no leading zeros, no raw control characters in
strings, no lone surrogates, and nothing but space, tab and line ends around values. Numbers that no
finite binary64 number is near to are refused, and so are documents with more than `maxDepth` arrays
and objects inside one another. Of several members with one name the last counts.

Each reader takes the unread characters and returns what it read with the characters that are left.
Recursion into brackets is on the number of brackets that may still be opened; the loops over items
and members end because each turn leaves fewer characters.

The readers stand for those of a JSON library. That a number is rounded once and exactly, to the
nearest binary64 number (`Number.ofParts?`), is an assumption about that library: one that reads
long decimals only as well as it can may give a neighbour of that number, unless it is built to read
every float back. Results about documents hold as far as the library reads the numbers in them so.
-/

namespace Eligibility

namespace Json

/-- A reader of values of type `α`. -/
abbrev CharReader (α : Type) := List Char → Option (α × List Char)

/-- The greatest number of arrays and objects inside one another. -/
def maxDepth : Nat := 127

/-- May this character stand between the tokens of a document? -/
def isSpace (c : Char) : Bool := c == ' ' || c == '\t' || c == '\n' || c == '\r'

/-- What follows the blanks at the front. -/
def skipSpace (cs : List Char) : List Char := cs.dropWhile isSpace

/-! ### Strings -/

/-- The value of a digit to the base sixteen, in either case. -/
def hexDigit? (c : Char) : Option Nat :=
  if c.isDigit then some (c.toNat - '0'.toNat)
  else if 'a' ≤ c && c ≤ 'f' then some (c.toNat - 'a'.toNat + 10)
  else if 'A' ≤ c && c ≤ 'F' then some (c.toNat - 'A'.toNat + 10)
  else none

/-- The value of four digits to the base sixteen. -/
def hexUnit? (a b c d : Char) : Option Nat := do
  return (((← hexDigit? a) * 16 + (← hexDigit? b)) * 16 + (← hexDigit? c)) * 16 + (← hexDigit? d)

/-- The character that a single letter after a backslash stands for. -/
def escapedChar? : Char → Option Char
  | '"' => some '"'
  | '\\' => some '\\'
  | '/' => some '/'
  | 'b' => some '\x08'
  | 'f' => some '\x0c'
  | 'n' => some '\n'
  | 'r' => some '\r'
  | 't' => some '\t'
  | _ => none

/-- The character of two surrogates. -/
def ofSurrogates? (high low : Nat) : Option Char :=
  if 0xD800 ≤ high ∧ high < 0xDC00 ∧ 0xDC00 ≤ low ∧ low < 0xE000 then
    some (Char.ofNat (0x10000 + (high - 0xD800) * 0x400 + (low - 0xDC00)))
  else none

/-- The character of a unit that is not a surrogate. -/
def ofUnit? (unit : Nat) : Option Char :=
  if 0xD800 ≤ unit ∧ unit < 0xE000 then none else some (Char.ofNat unit)

/-- The rest of a string behind its first quotation mark; `done` holds the characters read so far,
the last one first. -/
def stringRest? (done : List Char) : CharReader String
  | '"' :: rest => some (String.ofList done.reverse, rest)
  | '\\' :: 'u' :: a :: b :: c :: d :: rest =>
    match hexUnit? a b c d with
    | none => none
    | some unit =>
      match ofUnit? unit with
      | some char => stringRest? (char :: done) rest
      | none =>
        match rest with
        | '\\' :: 'u' :: e :: f :: g :: h :: rest =>
          match (hexUnit? e f g h).bind (ofSurrogates? unit) with
          | some char => stringRest? (char :: done) rest
          | none => none
        | _ => none
  | '\\' :: letter :: rest =>
    match escapedChar? letter with
    | some char => stringRest? (char :: done) rest
    | none => none
  | char :: rest =>
    if char = '\\' ∨ char.toNat < 32 then none else stringRest? (char :: done) rest
  | [] => none

/-! ### Numbers -/

/-- The digits before the point: a zero alone, or digits that do not start with one. -/
def wholeDigits? : CharReader (List Char)
  | '0' :: rest => some (['0'], rest)
  | cs =>
    let digits := cs.takeWhile Char.isDigit
    if digits.isEmpty then none else some (digits, cs.dropWhile Char.isDigit)

/-- The digits behind the point; without a point there are none. -/
def fractionDigits? : CharReader (List Char)
  | '.' :: rest =>
    let digits := rest.takeWhile Char.isDigit
    if digits.isEmpty then none else some (digits, rest.dropWhile Char.isDigit)
  | cs => some ([], cs)

/-- The power of ten, if there is one. -/
def power? : CharReader (Option Int)
  | [] => some (none, [])
  | mark :: rest =>
    if mark = 'e' ∨ mark = 'E' then
      let signed := rest.head? == some '-' || rest.head? == some '+'
      let body := if signed then rest.tail else rest
      let digits := body.takeWhile Char.isDigit
      let value : Int := digitsValue digits
      if digits.isEmpty then none
      else some (some (if rest.head? == some '-' then -value else value),
        body.dropWhile Char.isDigit)
    else some (none, mark :: rest)

/-- The number with these parts, unless it is too great. Zero with a minus sign is not a whole
number; what is not whole is rounded exactly, which is assumed of the JSON library. -/
def Number.ofParts? (negative : Bool) (whole fraction : List Char) (power : Option Int) :
    Option Number :=
  let signed : Int := if negative then -digitsValue whole else digitsValue whole
  let asInteger :=
    if fraction.isEmpty && power.isNone && !(negative && signed == 0) then Number.ofInt? signed
    else none
  match asInteger with
  | some n => some n
  | none =>
    let x := Binary64.ofDecimal negative (digitsValue (whole ++ fraction))
      (power.getD 0 - fraction.length)
    if h : x.isFinite = true then some (.real x h) else none

/-- A number. -/
def number? (cs : List Char) : Option (Json × List Char) := do
  let negative := cs.head? == some '-'
  let (whole, rest) ← wholeDigits? (if negative then cs.tail else cs)
  let (fraction, rest) ← fractionDigits? rest
  let (power, rest) ← power? rest
  let n ← Number.ofParts? negative whole fraction power
  return (.number n, rest)

/-! ### Values -/

/-- A value that is not in brackets. -/
def scalar? : CharReader Json
  | 'n' :: 'u' :: 'l' :: 'l' :: rest => some (.null, rest)
  | 't' :: 'r' :: 'u' :: 'e' :: rest => some (.boolean true, rest)
  | 'f' :: 'a' :: 'l' :: 's' :: 'e' :: rest => some (.boolean false, rest)
  | '"' :: rest => (stringRest? [] rest).map fun (characters, rest) => (.text characters, rest)
  | cs => number? cs

/-- The items of an array that has at least one, up to the closing bracket. -/
def items? (value : CharReader Json) (cs : List Char) : Option (List Json × List Char) :=
  match value (skipSpace cs) with
  | none => none
  | some (item, rest) =>
    match skipSpace rest with
    | ']' :: rest => some ([item], rest)
    | ',' :: rest =>
      if rest.length < cs.length then
        (items? value rest).map fun (items, rest) => (item :: items, rest)
      else none
    | _ => none
termination_by cs.length

/-- The members of an object that has at least one, up to the closing brace, as they come. -/
def members? (value : CharReader Json) (cs : List Char) : Option (Members × List Char) :=
  match skipSpace cs with
  | '"' :: rest =>
    match stringRest? [] rest with
    | none => none
    | some (name, rest) =>
      match skipSpace rest with
      | ':' :: rest =>
        match value (skipSpace rest) with
        | none => none
        | some (member, rest) =>
          match skipSpace rest with
          | '\x7d' :: rest => some ([(name, member)], rest)
          | ',' :: rest =>
            if rest.length < cs.length then
              (members? value rest).map fun (members, rest) => ((name, member) :: members, rest)
            else none
          | _ => none
      | _ => none
  | _ => none
termination_by cs.length

/-- Members in the order of their names, the last of each name alone. -/
def sortMembers (members : Members) : Members :=
  members.foldl (fun sorted member => insertMember member.1 member.2 sorted) []

/-- An array or object, whose parts are read by `value`. -/
def bracketed? (value : CharReader Json) : CharReader Json
  | '[' :: rest =>
    match skipSpace rest with
    | ']' :: rest => some (.array [], rest)
    | rest => (items? value rest).map fun (items, rest) => (.array items, rest)
  | '\x7b' :: rest =>
    match skipSpace rest with
    | '\x7d' :: rest => some (.object [], rest)
    | rest => (members? value rest).map fun (members, rest) => (.object (sortMembers members), rest)
  | _ => none

/-- Does a value in brackets start here? -/
def startsBracket (cs : List Char) : Bool :=
  cs.head? == some '[' || cs.head? == some '\x7b'

/-- A value with at most `depth` arrays and objects inside one another. -/
def value? : (depth : Nat) → CharReader Json
  | 0, cs => if startsBracket cs then none else scalar? cs
  | depth + 1, cs => if startsBracket cs then bracketed? (value? depth) cs else scalar? cs

/-- A document: one value and nothing else. -/
def ofText? (document : String) : Option Json :=
  match value? maxDepth (skipSpace document.toList) with
  | some (value, rest) => if (skipSpace rest).isEmpty then some value else none
  | none => none

end Json

end Eligibility

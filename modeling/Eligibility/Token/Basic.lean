import Eligibility.Binary64.Basic
import Eligibility.Comparator
import Eligibility.Connective

/-!
# Tokens

Rule text is a sequence of tokens with blanks between them. A token remembers the characters it was
made of and the place where they start, counted in bytes of the UTF-8 form of the text.

Main statement: `byteLength_append`, that places add up.
-/

namespace Eligibility

/-- The number of bytes of these characters in UTF-8. -/
def byteLength (cs : List Char) : Nat := (cs.map Char.utf8Size).sum

@[simp] theorem byteLength_nil : byteLength [] = 0 := rfl

@[simp] theorem byteLength_cons (c : Char) (cs : List Char) :
    byteLength (c :: cs) = c.utf8Size + byteLength cs := by
  simp [byteLength]

/-- The bytes of characters in a row add up. -/
@[simp] theorem byteLength_append (front back : List Char) :
    byteLength (front ++ back) = byteLength front + byteLength back := by
  simp [byteLength]

namespace Token

/-- What a token is. -/
inductive Kind where
  | leftParen
  | rightParen
  | connective (connective : Connective)
  | comparator (comparator : Comparator)
  | name
  | number
  | text
deriving DecidableEq, Repr

/-- What a kind of token is called in messages. -/
def Kind.label : Kind → String
  | leftParen => "LPAREN"
  | rightParen => "RPAREN"
  | connective .and => "AND"
  | connective .or => "OR"
  | comparator .greaterEqual => "GTE"
  | comparator .lessEqual => "LTE"
  | comparator .notEqual => "NEQ"
  | comparator .greater => "GT"
  | comparator .less => "LT"
  | comparator .equal => "EQ"
  | name => "IDENTIFIER"
  | number => "NUMBER"
  | text => "STRING"

/-- Is this the kind of a comparator? -/
def Kind.isComparator : Kind → Bool
  | comparator _ => true
  | _ => false

end Token

/-- A token: its kind, its characters and the byte at which they start. -/
structure Token where
  kind : Token.Kind
  text : String
  position : Nat
deriving DecidableEq, Repr

namespace Token

/-- How messages show a token. -/
def shown (token : Token) : String := "'" ++ token.text ++ "' of type " ++ token.kind.label

/-- What is left of the characters of a text token without their first and last byte; a text of
fewer than two bytes is left as it is. Bytes cannot be taken away from within a character, so when
the first or the last character has several there is nothing left to speak of. -/
def withoutQuotes? (cs : List Char) : Option (List Char) :=
  let isOneByte (c : Char) : Bool := c.utf8Size == 1
  if byteLength cs < 2 then some cs
  else if cs.head?.all isOneByte && cs.getLast?.all isOneByte then some cs.tail.dropLast
  else none

/-- What a token stands for: the text between the quotes for a text, the characters themselves for
every other kind. -/
def content? (token : Token) : Option String :=
  match token.kind with
  | .text => (withoutQuotes? token.text.toList).map String.ofList
  | _ => some token.text

/-- Between two characters of one byte a text of any characters is found again. -/
theorem withoutQuotes?_quoted {first last : Char} (hfirst : first.utf8Size = 1)
    (hlast : last.utf8Size = 1) (body : List Char) :
    withoutQuotes? (first :: (body ++ [last])) = some body := by
  have hlen : ¬ byteLength (first :: (body ++ [last])) < 2 := by
    simp only [byteLength_cons, byteLength_append, byteLength_nil, hfirst, hlast]
    omega
  have hend : (first :: (body ++ [last])).getLast? = some last := by
    rw [← List.cons_append, List.getLast?_concat]
  unfold withoutQuotes?
  rw [if_neg hlen]
  simp [hend, hfirst, hlast]

end Token

end Eligibility

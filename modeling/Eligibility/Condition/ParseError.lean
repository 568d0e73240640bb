import Eligibility.Condition.Text
import Eligibility.Text.Basic
import Eligibility.Token.Basic

/-!
# Faults in rules

Why a sequence of tokens is no rule. Each cause names what it is about: a token, a place or an
operand.
-/

namespace Eligibility

/-- Why a sequence of tokens is no rule. -/
inductive ParseError where
  /-- There are no tokens. -/
  | empty
  /-- No operand can start with this token. -/
  | unexpectedToken (found : Token)
  /-- The tokens end where an operand is due. -/
  | unexpectedEnd
  /-- The parenthesis opened at this place is not closed where it should be. -/
  | unclosedParen (position : Nat)
  /-- The parenthesis closed at this place was not opened. -/
  | unmatchedParen (position : Nat)
  /-- A complete rule is followed by this token. -/
  | trailingToken (found : Token)
  /-- The number that this token is written as is not a finite one. -/
  | numberOutOfRange (found : Token)
  /-- There are too many open parentheses at this place. -/
  | tooDeep (position : Nat)
  /-- The quotes of this text cannot be cut off without cutting a character. The lexer makes no such
  token. A program that is handed one stops there and has no answer; here this is a fault, so that
  it can be spoken of like the others. -/
  | brokenText (found : Token)
  /-- The left side of a comparison is not a name. -/
  | leftNotName
  /-- The right side of a comparison is a rule in parentheses. -/
  | rightNotLiteral
  /-- This operand is compared with nothing. -/
  | bareOperand (operand : Operand)
deriving DecidableEq, Repr

/-- What is said about tokens that are no rule. The words for `brokenText` are no message of the
program, which stops without one; they only name the token. -/
def ParseError.message : ParseError → String
  | empty => "Empty rule"
  | unexpectedToken found =>
    "Unexpected token: " ++ found.shown ++ " at position " ++ Text.decimal found.position
  | unexpectedEnd => "Unexpected end of input"
  | unclosedParen position =>
    "Expected closing parenthesis for '(' at position " ++ Text.decimal position
  | unmatchedParen position => "Unmatched closing parenthesis at position " ++ Text.decimal position
  | trailingToken found =>
    "Unexpected tokens at the end of expression: " ++ found.shown ++ " at position " ++
      Text.decimal found.position
  | numberOutOfRange found =>
    "Number out of range: " ++ found.text ++ " at position " ++ Text.decimal found.position
  | tooDeep position => "Parentheses nested too deeply at position " ++ Text.decimal position
  | brokenText found =>
    "Text without a character at each end: " ++ found.text ++ " at position " ++
      Text.decimal found.position
  | leftNotName => "Left-hand side of comparison must be an identifier"
  | rightNotLiteral => "Right-hand side of comparison must be a literal"
  | bareOperand operand => "Operand '" ++ operand.ruleText ++ "' is not part of a comparison"

end Eligibility

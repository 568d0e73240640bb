import Eligibility.Binary64.Reading
import Eligibility.Condition.ParseMode
import Eligibility.Condition.TokenReader

/-!
# Parsing rules

The grammar has one level for each connective. `AND` binds tighter than `OR`, and both join to the
left.

* A rule is a sequence of conjunctions with `OR` between them.
* A conjunction is a sequence of comparisons with `AND` between them.
* A comparison is a primary, or two primaries with a comparator between them.
* A primary is a name, a number, a text, or a rule in parentheses.

A comparison is first read and then checked: its left side has to be a name, its right side a name
or a literal, and a name on the right is taken as a text. At most `maxNesting` parentheses may be
open at one place, so the grammar goes down by recursion on how many more may be opened.

A `Parser` holds tokens and can be asked for a rule several times; each time it goes on where the
last reading ended.

Main statements: `chainFrom_suffix`, by which chains of any length end, and the equations of
`chainFrom`: a chain ends where its connective is not next (`chainFrom_of_end`), goes on behind an
item that was read (`chainFrom_of_ok`), and fails where an item fails (`chainFrom_of_error`).
-/

namespace Eligibility

/-- The greatest number of parentheses that may be open at one place. -/
def maxNesting : Nat := 256

/-- A primary: an operand, or a rule in parentheses. -/
inductive Primary where
  | operand (operand : Operand)
  | group (condition : Condition)
deriving DecidableEq, Repr

namespace Grammar

open TokenReader

/-- The finite number that a token is written as. -/
def numberOf (token : Token) : TokenReader Operand :=
  match Binary64.finiteOfChars? token.text.toList with
  | some x => pure (.literal (.number x))
  | none => fail (.numberOutOfRange token)

/-- The text between the quotes of a token. -/
def textOf (token : Token) : TokenReader Operand :=
  match token.content? with
  | some text => pure (.literal (.text text))
  | none => fail (.brokenText token)

/-- The operand that a token is. -/
def operandOf (token : Token) : TokenReader Operand :=
  match token.kind with
  | .name => pure (.name token.text)
  | .number => numberOf token
  | .text => textOf token
  | _ => fail (.unexpectedToken token)

/-- Takes the parenthesis that closes the one opened at a place. -/
def closeParen (opened : Nat) : TokenReader Unit := do
  match ← peek with
  | some token =>
    if token.kind = .rightParen then do
      let _ ← next
    else fail (.unclosedParen opened)
  | none => fail (.unclosedParen opened)

/-- A primary. `inner?` reads a rule in parentheses, if one more may be opened. -/
def primary (inner? : Option (TokenReader Condition)) : TokenReader Primary := do
  let token ← next
  if token.kind = .leftParen then
    match inner? with
    | none => fail (.tooDeep token.position)
    | some inner => do
      let condition ← nested inner
      closeParen token.position
      return .group condition
  else
    return .operand (← operandOf token)

/-- Takes a comparator, if one is next. -/
def comparator? : TokenReader (Option Comparator) := do
  match ← peek with
  | some token =>
    match token.kind with
    | .comparator c => do
      let _ ← next
      return some c
    | _ => return none
  | none => return none

/-- An operand that is compared with nothing. -/
def bareOperand (mode : ParseMode) (operand : Operand) : TokenReader Condition :=
  match mode with
  | .lenient => pure (.leaf (.operand operand))
  | .strict => fail (.bareOperand operand)

/-- The comparison of two primaries. -/
def compared (comparator : Comparator) : Primary → Primary → TokenReader Condition
  | .operand (.name field), .operand (.literal literal) =>
    pure (.compare field comparator literal)
  | .operand (.name field), .operand (.name word) => pure (.compare field comparator (.text word))
  | .operand (.name _), .group _ => fail .rightNotLiteral
  | _, _ => fail .leftNotName

/-- A comparison, or a primary without one. -/
def comparison (mode : ParseMode) (inner? : Option (TokenReader Condition)) :
    TokenReader Condition := do
  let left ← primary inner?
  match ← comparator? with
  | some c => do
    let right ← primary inner?
    compared c left right
  | none =>
    match left with
    | .group condition => return condition
    | .operand operand => bareOperand mode operand

/-- Goes on with a chain of which `left` is read: as long as the connective is next, one more item
is read and joined to what there is. -/
def chainFrom (connective : Connective) (item : TokenReader Condition) (left : Condition)
    (cursor : Cursor) : Except ParseError Condition × Cursor :=
  match _hpending : cursor.pending with
  | [] => (.ok left, cursor)
  | token :: rest =>
    if token.kind = .connective connective then
      match _hitem : item.run { cursor with pending := rest } with
      | (.error e, after) => (.error e, after)
      | (.ok right, after) => chainFrom connective item (.join connective left right) after
    else (.ok left, cursor)
termination_by cursor.pending.length
decreasing_by
  have := (item.suffix { cursor with pending := rest }).length_le
  rw [_hitem] at this
  simp only [_hpending, List.length_cons] at this ⊢
  omega

/-- A chain takes tokens from the front only. -/
theorem chainFrom_suffix (connective : Connective) (item : TokenReader Condition)
    (left : Condition) (cursor : Cursor) :
    (chainFrom connective item left cursor).2.pending <:+ cursor.pending := by
  fun_induction chainFrom connective item left cursor with
  | case1 => exact List.suffix_refl _
  | case2 left cursor token rest hpending hkind e after hitem =>
    have h := item.suffix { cursor with pending := rest }
    rw [hitem] at h
    exact hpending ▸ h.trans (List.suffix_cons token rest)
  | case3 left cursor token rest hpending hkind right after hitem ih =>
    have h := item.suffix { cursor with pending := rest }
    rw [hitem] at h
    exact hpending ▸ (ih.trans h).trans (List.suffix_cons token rest)
  | case4 => exact List.suffix_refl _

/-- A chain ends where its connective is not next. -/
theorem chainFrom_of_end {connective : Connective} {cursor : Cursor}
    (h : ∀ token ∈ cursor.pending.head?, token.kind ≠ .connective connective)
    (item : TokenReader Condition) (left : Condition) :
    chainFrom connective item left cursor = (.ok left, cursor) := by
  rw [chainFrom]
  split
  · rfl
  · rename_i token rest hpending
    rw [if_neg (h token (by simp [hpending]))]

/-- A chain goes on behind an item that was read. -/
theorem chainFrom_of_ok {connective : Connective} {item : TokenReader Condition} {token : Token}
    {rest : List Token} {depth : Nat} {right : Condition} {after : Cursor}
    (hkind : token.kind = .connective connective)
    (hitem : item.run ⟨rest, depth⟩ = (.ok right, after)) (left : Condition) :
    chainFrom connective item left ⟨token :: rest, depth⟩ =
      chainFrom connective item (.join connective left right) after := by
  rw [chainFrom]
  simp only [hkind, if_pos]
  split <;> simp_all

/-- A chain fails where an item fails. -/
theorem chainFrom_of_error {connective : Connective} {item : TokenReader Condition}
    {token : Token} {rest : List Token} {depth : Nat} {e : ParseError} {after : Cursor}
    (hkind : token.kind = .connective connective)
    (hitem : item.run ⟨rest, depth⟩ = (.error e, after)) (left : Condition) :
    chainFrom connective item left ⟨token :: rest, depth⟩ = (.error e, after) := by
  rw [chainFrom]
  simp only [hkind, if_pos]
  split <;> simp_all

/-- Items with a connective between them. -/
def chain (connective : Connective) (item : TokenReader Condition) : TokenReader Condition := do
  let first ← item
  ⟨chainFrom connective item first, chainFrom_suffix connective item first⟩

/-- A rule. `inner?` reads a rule in parentheses, if one more may be opened. -/
def disjunction (mode : ParseMode) (inner? : Option (TokenReader Condition)) :
    TokenReader Condition :=
  chain .or (chain .and (comparison mode inner?))

/-- A rule inside which a number of parentheses may be opened. -/
def expression (mode : ParseMode) : (allowance : Nat) → TokenReader Condition
  | 0 => disjunction mode none
  | allowance + 1 => disjunction mode (some (expression mode allowance))

/-- The end of a rule. -/
def finish : TokenReader Unit := do
  match ← peek with
  | none => pure ()
  | some token =>
    if token.kind = .rightParen then fail (.unmatchedParen token.position)
    else fail (.trailingToken token)

/-- A rule that takes all tokens. -/
def wholeRule (mode : ParseMode) (allowance : Nat) : TokenReader Condition := do
  let condition ← expression mode allowance
  finish
  return condition

end Grammar

/-- Tokens from which rules are read one after the other. -/
structure Parser where
  /-- All tokens. -/
  tokens : List Token
  /-- How many of them are taken. -/
  consumed : Nat := 0
  /-- How many parentheses are open. -/
  depth : Nat := 0
  mode : ParseMode := .lenient
deriving DecidableEq, Repr

namespace Parser

/-- Where the parser stands. -/
def cursor (parser : Parser) : Cursor := ⟨parser.tokens.drop parser.consumed, parser.depth⟩

/-- The parser at another cursor over the same tokens. -/
def moveTo (parser : Parser) (cursor : Cursor) : Parser :=
  { parser with
    consumed := parser.tokens.length - cursor.pending.length
    depth := cursor.depth }

/-- Reads a rule that takes all tokens that are left. -/
def parse (parser : Parser) : Except ParseError Condition × Parser :=
  if parser.tokens.isEmpty then (.error .empty, parser)
  else
    let (answer, cursor) :=
      (Grammar.wholeRule parser.mode (maxNesting - parser.depth)).run parser.cursor
    (answer, parser.moveTo cursor)

end Parser

/-- The rule that a sequence of tokens is. -/
def Condition.ofTokens (mode : ParseMode) (tokens : List Token) : Except ParseError Condition :=
  ({ tokens, mode } : Parser).parse.1

end Eligibility

import Eligibility.Text.Basic
import Eligibility.Text.Word
import Eligibility.Token.Basic

/-!
# Reading tokens

Blanks are skipped, and at the next character the longest token that can start there is taken: a
parenthesis, a comparator, a word, a number or a quoted text. A word is a connective when it is
spelled `and` or `or` in any case and ends there, and a name otherwise. When no token can start at a
character, reading ends with that character as the fault.

Main statements: `splits_of_lexeme?` (a lexeme and what follows it make up the unread text),
`lexeme?_length` (a lexeme takes something) and `collect_eq` (tokens are collected in order).
-/

namespace Eligibility

/-- No token can start at this character. -/
structure UnexpectedCharacter where
  /-- The byte at which the character starts. -/
  position : Nat
  character : Char
deriving DecidableEq, Repr

/-- What is said about a character at which no token can start. -/
def UnexpectedCharacter.message (e : UnexpectedCharacter) : String :=
  "Unexpected character '" ++ String.singleton e.character ++ "' at position " ++
    Text.decimal e.position

/-- What the front of an unread text was found to be. -/
structure Lexeme where
  kind : Token.Kind
  characters : List Char
  rest : List Char

namespace Lexeme

/-- The lexeme of one or two characters, none of them a letter, a digit or a quote. -/
def symbol? : List Char → Option Lexeme
  | '(' :: rest => some ⟨.leftParen, ['('], rest⟩
  | ')' :: rest => some ⟨.rightParen, [')'], rest⟩
  | '>' :: '=' :: rest => some ⟨.comparator .greaterEqual, ['>', '='], rest⟩
  | '<' :: '=' :: rest => some ⟨.comparator .lessEqual, ['<', '='], rest⟩
  | '!' :: '=' :: rest => some ⟨.comparator .notEqual, ['!', '='], rest⟩
  | '>' :: rest => some ⟨.comparator .greater, ['>'], rest⟩
  | '<' :: rest => some ⟨.comparator .less, ['<'], rest⟩
  | '=' :: rest => some ⟨.comparator .equal, ['='], rest⟩
  | _ => none

/-- Does a word go on at the front of this text? -/
def goesOn : List Char → Bool
  | [] => false
  | c :: _ => Text.isWord c

/-- The connective that a word names. -/
def connective? (word : List Char) : Option Connective :=
  Connective.ofExactKeyword? (String.ofList (word.map Char.toUpper))

/-- The kind of a word in front of `rest`. -/
def wordKind (word rest : List Char) : Token.Kind :=
  match connective? word with
  | some c => if goesOn rest then .name else .connective c
  | none => .name

/-- The word at the front of a text. -/
def word (cs : List Char) : Lexeme :=
  let characters := cs.takeWhile Text.isNameRest
  let rest := cs.dropWhile Text.isNameRest
  ⟨wordKind characters rest, characters, rest⟩

/-- The number at the front of a text: digits, and behind a point more digits if there are any. -/
def number (cs : List Char) : Lexeme :=
  let whole := cs.takeWhile Char.isDigit
  let rest := cs.dropWhile Char.isDigit
  let fraction := rest.tail.takeWhile Char.isDigit
  if rest.head? = some '.' ∧ fraction ≠ [] then
    ⟨.number, whole ++ '.' :: fraction, rest.tail.dropWhile Char.isDigit⟩
  else ⟨.number, whole, rest⟩

/-- The text behind a quote, up to the next quote of the same kind. -/
def quoted? (quote : Char) (cs : List Char) : Option Lexeme :=
  match cs.dropWhile (· != quote) with
  | _ :: rest => some ⟨.text, quote :: (cs.takeWhile (· != quote) ++ [quote]), rest⟩
  | [] => none

end Lexeme

open Lexeme in
/-- The longest lexeme at the front of a text, if one starts there. -/
def lexeme? (cs : List Char) : Option Lexeme :=
  match cs with
  | [] => none
  | c :: rest =>
    if Text.isNameStart c then some (word (c :: rest))
    else if c.isDigit then some (number (c :: rest))
    else if c = '"' ∨ c = '\'' then quoted? c rest
    else symbol? (c :: rest)

/-! ### What a lexeme takes -/

namespace Lexeme

/-- A lexeme that takes something and leaves the rest of `cs`. -/
def Splits (l : Lexeme) (cs : List Char) : Prop := l.characters ++ l.rest = cs ∧ l.characters ≠ []

/-- A symbol and what is left of the text make up the text. -/
theorem splits_of_symbol? {cs : List Char} {l : Lexeme} (h : symbol? cs = some l) :
    l.Splits cs := by
  unfold symbol? at h
  split at h
  all_goals cases h
  all_goals exact ⟨rfl, by simp⟩

/-- A word and what is left of the text make up the text. -/
theorem splits_word {c : Char} {rest : List Char} (h : Text.isNameStart c = true) :
    (word (c :: rest)).Splits (c :: rest) :=
  ⟨List.takeWhile_append_dropWhile, by simp [word, Text.isNameRest_of_isNameStart h]⟩

/-- A number and what is left of the text make up the text. -/
theorem splits_number {c : Char} {rest : List Char} (h : c.isDigit = true) :
    (number (c :: rest)).Splits (c :: rest) := by
  unfold number
  simp only
  split
  · rename_i hpoint
    refine ⟨?_, by simp⟩
    obtain ⟨after, hafter⟩ := List.head?_eq_some_iff.1 hpoint.1
    have hsplit := List.takeWhile_append_dropWhile (p := Char.isDigit) (l := c :: rest)
    rw [hafter] at hsplit ⊢
    simpa using hsplit
  · exact ⟨List.takeWhile_append_dropWhile, by simp [h]⟩

/-- A quoted text and what is left behind it make up the text. -/
theorem splits_of_quoted? {quote : Char} {cs : List Char} {l : Lexeme}
    (h : quoted? quote cs = some l) : l.Splits (quote :: cs) := by
  unfold quoted? at h
  split at h
  · rename_i d rest hdrop
    cases h
    refine ⟨?_, by simp⟩
    have hd : d = quote := by
      have := List.head_dropWhile_not (· != quote) (l := cs) (by simp [hdrop])
      simpa [hdrop] using this
    have hsplit := List.takeWhile_append_dropWhile (p := (· != quote)) (l := cs)
    rw [hdrop, hd] at hsplit
    simpa using hsplit
  · simp at h

end Lexeme

/-- A lexeme takes something, and with what follows it makes up the unread text. -/
theorem splits_of_lexeme? {cs : List Char} {l : Lexeme} (h : lexeme? cs = some l) :
    l.Splits cs := by
  unfold lexeme? at h
  split at h
  · simp at h
  · rename_i c rest
    split at h
    · rename_i hc
      cases h
      exact Lexeme.splits_word hc
    · split at h
      · rename_i hc
        cases h
        exact Lexeme.splits_number hc
      · split at h
        · exact Lexeme.splits_of_quoted? h
        · exact Lexeme.splits_of_symbol? h

/-- What follows a lexeme is shorter than the text it was read from. -/
theorem lexeme?_length {cs : List Char} {l : Lexeme} (h : lexeme? cs = some l) :
    l.rest.length < cs.length := by
  obtain ⟨happ, hne⟩ := splits_of_lexeme? h
  have := List.length_pos_iff.2 hne
  rw [← happ, List.length_append]
  omega

/-! ### The lexer -/

/-- A text of which tokens are still to be read. -/
structure Lexer where
  /-- The characters that are not read yet. -/
  rest : List Char
  /-- The byte at which they start. -/
  position : Nat
deriving DecidableEq, Repr

namespace Lexer

/-- A lexer at the start of a text. -/
def ofText (text : String) : Lexer := ⟨text.toList, 0⟩

/-- The lexer behind the blanks at its front. -/
def skipBlanks (lexer : Lexer) : Lexer :=
  ⟨lexer.rest.dropWhile Text.isBlank,
    lexer.position + byteLength (lexer.rest.takeWhile Text.isBlank)⟩

/-- The lexer behind a lexeme at its front. -/
def behind (lexer : Lexer) (l : Lexeme) : Lexer :=
  ⟨l.rest, lexer.position + byteLength l.characters⟩

/-- The lexer at the end of its text. -/
def atEnd (lexer : Lexer) : Lexer := ⟨[], lexer.position + byteLength lexer.rest⟩

/-- Reads the next token, if there is one. After a fault the whole text counts as read. -/
def next (lexer : Lexer) : Option (Except UnexpectedCharacter Token) × Lexer :=
  let lexer := lexer.skipBlanks
  match lexer.rest with
  | [] => (none, lexer)
  | c :: _ =>
    match lexeme? lexer.rest with
    | some l => (some (.ok ⟨l.kind, String.ofList l.characters, lexer.position⟩), lexer.behind l)
    | none => (some (.error ⟨lexer.position, c⟩), lexer.atEnd)

/-- A token that is read leaves fewer characters. -/
theorem next_length {lexer after : Lexer} {token : Token}
    (h : lexer.next = (some (.ok token), after)) :
    after.rest.length < lexer.rest.length := by
  have hskip : lexer.skipBlanks.rest.length ≤ lexer.rest.length :=
    (List.dropWhile_sublist _).length_le
  unfold next at h
  simp only at h
  split at h
  · simp at h
  · split at h
    · rename_i hl
      have := lexeme?_length hl
      simp only [Prod.mk.injEq] at h
      rw [← h.2, behind]
      exact Nat.lt_of_lt_of_le this hskip
    · simp at h

/-- Reads all tokens that are left behind those in `done`, whose last one comes first. -/
def collect (done : List Token) (lexer : Lexer) : Except UnexpectedCharacter (List Token) :=
  match _h : lexer.next with
  | (none, _) => .ok done.reverse
  | (some (.error e), _) => .error e
  | (some (.ok token), after) => collect (token :: done) after
termination_by lexer.rest.length
decreasing_by exact next_length _h

/-- All tokens that are left. -/
def tokens (lexer : Lexer) : Except UnexpectedCharacter (List Token) := collect [] lexer

/-- Where the lexer ends, the tokens are given in the order of the text. -/
theorem collect_of_next_none {lexer after : Lexer} (h : lexer.next = (none, after))
    (done : List Token) : collect done lexer = .ok done.reverse := by
  rw [collect]
  split <;> simp_all

/-- A fault of the lexer is the answer. -/
theorem collect_of_next_error {lexer after : Lexer} {e : UnexpectedCharacter}
    (h : lexer.next = (some (.error e), after)) (done : List Token) :
    collect done lexer = .error e := by
  rw [collect]
  split <;> simp_all

/-- A token is put in front of those before it. -/
theorem collect_of_next_ok {lexer after : Lexer} {token : Token}
    (h : lexer.next = (some (.ok token), after)) (done : List Token) :
    collect done lexer = collect (token :: done) after := by
  rw [collect]
  split <;> simp_all

/-- Tokens that were collected before come first. -/
theorem collect_append (front back : List Token) (lexer : Lexer) :
    collect (front ++ back) lexer = (collect front lexer).map (back.reverse ++ ·) := by
  fun_induction collect front lexer with
  | case1 front lexer _ h => simp [collect_of_next_none h, Except.map]
  | case2 front lexer e _ h => simp [collect_of_next_error h, Except.map]
  | case3 front lexer token after h ih => rw [collect_of_next_ok h, ← ih, List.cons_append]

/-- The tokens that are left come behind those collected so far. -/
theorem collect_eq (done : List Token) (lexer : Lexer) :
    collect done lexer = lexer.tokens.map (done.reverse ++ ·) :=
  collect_append [] done lexer

end Lexer

/-- All tokens of a rule text. -/
def tokenize (text : String) : Except UnexpectedCharacter (List Token) := (Lexer.ofText text).tokens

end Eligibility

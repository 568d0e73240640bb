import Eligibility.Proofs.Lexing
import Eligibility.Proofs.Parsing

/-!
# Tokens in other surroundings

A text is read in the middle of another one as it is read on its own, only at other places.

* **What stands behind a text** (`Lexeme.Fits.append_right`): a token ends where it ended before, if
  no character that could belong to it comes right behind the text (`Lexeme.extendsToken`).
* **Other places** (`Lexer.Reads.append_right`): the same tokens are read as many bytes further on
  as there are in front of the text.
* **The grammar** (`Derives.shift`, `nestedWithin_map_shift`) does not look at places.
-/

namespace Eligibility

open Text

/-! ### What stands behind a text -/

namespace Lexeme

/-- Can this character, right behind a token, belong to it? -/
def extendsToken (c : Char) : Bool := isWord c || c == '=' || c == '.'

variable {back : List Char}

/-- Where nothing extends a token, a word ends. -/
theorem endsAt_isWord_of_extendsToken (h : EndsAt extendsToken back) : EndsAt isWord back := by
  refine h.mono fun c hc => ?_
  simp only [extendsToken, Bool.or_eq_false_iff] at hc
  exact hc.1.1

/-- Where nothing extends a token, no character follows that would. -/
theorem head?_ne_of_extendsToken (h : EndsAt extendsToken back) {c : Char}
    (hc : extendsToken c = true) : back.head? ≠ some c := by
  intro hhead
  rw [h c hhead] at hc
  cases hc

/-- A token ends where it ended before, when what stands behind the text cannot belong to it. -/
theorem Fits.append_right {kind : Token.Kind} {cs rest : List Char} (h : Fits kind cs rest)
    (hback : EndsAt extendsToken back) : Fits kind cs (rest ++ back) := by
  have hword : EndsAt isWord back := endsAt_isWord_of_extendsToken hback
  have hname : EndsAt isNameRest back := endsAt_isNameRest hword
  have hdigit : EndsAt Char.isDigit back := by
    refine hname.mono fun c hc => ?_
    rw [← Bool.not_eq_true] at hc ⊢
    exact fun hdigit => hc (isNameRest_iff.2 (.inr hdigit))
  cases h with
  | leftParen => exact .leftParen _
  | rightParen => exact .rightParen _
  | comparator hstop =>
    refine .comparator fun hlonger => ?_
    rcases rest with _ | ⟨c, rest⟩
    · exact head?_ne_of_extendsToken hback (by decide)
    · exact hstop hlonger
  | connective hchars hkeyword hstop => exact .connective hchars hkeyword (hstop.append hword)
  | name hchars hkeyword hstop =>
    exact .name hchars (hkeyword.imp_right (mt EndsAt.of_append)) (hstop.append hname)
  | number hwhole hne hfraction hstop hpoint =>
    refine .number hwhole hne hfraction (hstop.append hdigit) fun hnone hhead => ?_
    rcases rest with _ | ⟨c, rest⟩
    · exact absurd hhead (head?_ne_of_extendsToken hback (by decide))
    · exact (hpoint hnone hhead).append hdigit
  | text hquote hbody => exact .text hquote hbody

end Lexeme

/-! ### Other places -/

namespace Token

/-- The token so many bytes further on. -/
def shift (offset : Nat) (token : Token) : Token :=
  { token with position := token.position + offset }

/-- What a token stands for does not depend on its place. -/
theorem Denotes.shift {token : Token} {operand : Operand} (h : token.Denotes operand)
    (offset : Nat) : (token.shift offset).Denotes operand := by
  cases h with
  | name hkind => exact .name hkind
  | number hkind hvalue => exact .number hkind hvalue
  | text hkind hcontent => exact .text hkind hcontent

end Token

namespace Lexer

/-- The next token of a text is the next one, so many bytes further on, when other text stands in
front and something that cannot belong to a token behind. -/
theorem next_append_right {lexer after : Lexer} {token : Token}
    (h : lexer.next = (some (.ok token), after)) {back : List Char}
    (hback : EndsAt Lexeme.extendsToken back) (offset : Nat) :
    next ⟨lexer.rest ++ back, lexer.position + offset⟩ =
      (some (.ok (token.shift offset)), ⟨after.rest ++ back, after.position + offset⟩) := by
  obtain ⟨front, hblank, hfits, hrest, hposition, hafter⟩ := exists_of_next h
  have hplace : lexer.position + offset + byteLength front = token.position + offset := by
    rw [hposition, Nat.add_right_comm]
  rw [hrest, List.append_assoc, next_of_blanks hblank, List.append_assoc,
    next_of_fits (hfits.append_right hback), String.ofList_toList, hplace, hafter,
    Nat.add_right_comm]
  rfl

/-- **Tokens are read at any place** where nothing follows that could belong to the last of them. -/
theorem Reads.append_right {lexer last : Lexer} {tokens : List Token}
    (h : Reads lexer tokens last) {back : List Char} (hback : EndsAt Lexeme.extendsToken back)
    (offset : Nat) :
    Reads ⟨lexer.rest ++ back, lexer.position + offset⟩ (tokens.map (Token.shift offset))
      ⟨last.rest ++ back, last.position + offset⟩ := by
  induction h with
  | done => exact .done _
  | token hnext _ ih => exact .token (next_append_right hnext hback offset) ih

end Lexer

/-! ### The grammar -/

namespace Grammar

variable {tokens : List Token}

/-- What is derived does not depend on places. -/
theorem Derives.shift {mode : ParseMode} {level : Level} {condition : Condition}
    (h : Derives mode level tokens condition) (offset : Nat) :
    Derives mode level (tokens.map (Token.shift offset)) condition := by
  induction h with
  | ofConjunction _ ih => exact .ofConjunction ih
  | ofComparison _ ih => exact .ofComparison ih
  | or _ hjoint _ ihl ihr =>
    rw [List.map_append, List.map_cons]
    exact .or ihl hjoint ihr
  | and _ hjoint _ ihl ihr =>
    rw [List.map_append, List.map_cons]
    exact .and ihl hjoint ihr
  | compare hfield hsymbol hside => exact .compare hfield hsymbol (hside.shift offset)
  | group hopening _ hclosing ih =>
    rw [List.map_cons, List.map_append]
    exact .group hopening ih hclosing
  | bare hmode h => exact .bare hmode (h.shift offset)

/-- How deep tokens lie in parentheses does not depend on places. -/
theorem nestedWithin_map_shift {limit : Int} (offset : Nat) :
    NestedWithin limit (tokens.map (Token.shift offset)) ↔ NestedWithin limit tokens := by
  induction tokens generalizing limit with
  | nil => rfl
  | cons token tokens ih =>
    have hopens : opens (token.shift offset) = opens token := rfl
    rw [List.map_cons, nestedWithin_cons, nestedWithin_cons, ih, hopens]

/-- What is derived within parentheses does not depend on places. -/
theorem DerivesWithin.shift {mode : ParseMode} {allowance : Nat} {level : Level}
    {condition : Condition} (h : DerivesWithin mode allowance level tokens condition)
    (offset : Nat) :
    DerivesWithin mode allowance level (tokens.map (Token.shift offset)) condition :=
  ⟨h.1.shift offset, (nestedWithin_map_shift offset).2 h.2⟩

end Grammar

end Eligibility

import Mathlib.Data.List.Forall2
import Mathlib.Data.List.TakeWhile
import Eligibility.Proofs.Lexing

/-!
# Tokens tile their text

A text that is read is covered by its tokens up to blanks, and a text that is not read is refused at
the first character that can start nothing. Places are bytes; a place is always met between two
characters, because it is the length of some characters at the front.

* **Slices** (`Lexer.Reads.slice`, `Lexer.Reads.ordered`, `Lexer.Reads.covers`): each token is what
  the text has at its place, tokens follow each other without overlap, and what is in no token is
  blank. All three go by induction on a run of the lexer.
* **Maximal tokens** (`Token.IsMaximal`): what it means for a token to take all that it can, form by
  form.
* **Unreadable characters** (`lexeme?_eq_none_iff`, `Lexer.tokens_eq_error_iff`): no lexeme starts
  at a character exactly when it `StartsNothing`, and a text is refused when some tokens are read up
  to such a character.
* **Fronts of texts** (`Lexer.Reads.truncate`): in front of any place at which a run of the lexer
  stands, the same tokens are read when the text ends there. Only their kinds can differ, since a
  keyword in front of a character of a word is taken as a name.
* **Whole texts** (`tokenize_tiles`): the tokens of a text tile it, or the text is read up to a
  fault.
-/

namespace Eligibility

open Text

/-! ### Slices -/

/-- The text has these characters at this place, and behind them the characters `back`. -/
def HasSlice (text : String) (position : Nat) (cs back : List Char) : Prop :=
  ∃ front, text.toList = front ++ (cs ++ back) ∧ byteLength front = position

/-- The place behind a token. -/
def Token.stop (token : Token) : Nat := token.position + byteLength token.text.toList

/-- Every character takes a byte at least. -/
theorem byteLength_pos {cs : List Char} (h : cs ≠ []) : 0 < byteLength cs := by
  obtain ⟨c, others, rfl⟩ := List.exists_cons_of_ne_nil h
  rw [byteLength_cons]
  exact Nat.add_pos_left c.utf8Size_pos _

/-- A character of two texts in a row is one of the first or one of the second. -/
theorem exists_of_append_eq {α : Type} {first second front back : List α} {a : α}
    (h : first ++ second = front ++ a :: back) :
    (∃ rest, first = front ++ a :: rest) ∨
      ∃ inner, front = first ++ inner ∧ second = inner ++ a :: back := by
  obtain ⟨inner, hfront, hsecond⟩ | ⟨outer, hfirst, hback⟩ := List.append_eq_append_iff.1 h
  · exact .inr ⟨inner, hfront, hsecond⟩
  · rcases outer with _ | ⟨b, rest⟩
    · refine .inr ⟨[], ?_, ?_⟩
      · rw [hfirst, List.append_nil, List.append_nil]
      · exact hback.symm
    · obtain ⟨rfl, -⟩ := List.cons.inj hback
      exact .inl ⟨rest, hfirst⟩

namespace Lexer

variable {lexer last : Lexer} {tokens : List Token}

/-- What is left is the end of what there was. -/
theorem Reads.suffix (h : Reads lexer tokens last) : last.rest <:+ lexer.rest := by
  induction h with
  | done => exact List.suffix_refl _
  | token hnext _ ih =>
    obtain ⟨front, -, -, hrest, -, -⟩ := exists_of_next hnext
    rw [hrest]
    exact (ih.trans (List.suffix_append _ _)).trans (List.suffix_append _ _)

/-- The end of the text stays where it is. -/
theorem Reads.position_add (h : Reads lexer tokens last) :
    last.position + byteLength last.rest = lexer.position + byteLength lexer.rest := by
  induction h with
  | done => rfl
  | token hnext _ ih =>
    obtain ⟨front, -, -, hrest, hposition, hbetween⟩ := exists_of_next hnext
    rw [ih, hbetween, hposition, hrest]
    simp only [byteLength_append]
    omega

/-- Each token is what the text has at its place. -/
theorem Reads.slice (h : Reads lexer tokens last) : ∀ token ∈ tokens, ∃ front back,
    lexer.rest = front ++ (token.text.toList ++ back) ∧
      token.position = lexer.position + byteLength front ∧
      Lexeme.Fits token.kind token.text.toList back := by
  induction h with
  | done => simp
  | @token lexer between last token tokens hnext _ ih =>
    obtain ⟨blanks, -, hfits, hrest, hposition, hbetween⟩ := exists_of_next hnext
    rintro found (_ | ⟨_, hfound⟩)
    · exact ⟨blanks, between.rest, hrest, hposition, hfits⟩
    · obtain ⟨front, back, hslice, hplace, hfoundFits⟩ := ih found hfound
      refine ⟨blanks ++ (token.text.toList ++ front), back, ?_, ?_, hfoundFits⟩
      · rw [hrest, hslice, List.append_assoc, List.append_assoc]
      · rw [hplace, hbetween, hposition, byteLength_append, byteLength_append]
        omega

/-- Tokens follow each other: each starts further on than the one before, and not before the end of
that one. -/
theorem Reads.ordered (h : Reads lexer tokens last) :
    tokens.Pairwise fun a b => a.position < b.position ∧ a.stop ≤ b.position := by
  induction h with
  | done => exact List.Pairwise.nil
  | @token lexer between last token tokens hnext hrest ih =>
    obtain ⟨_, -, hfits, -, -, hbetween⟩ := exists_of_next hnext
    have hlength : 0 < byteLength token.text.toList := by
      obtain ⟨c, others, hcs, -⟩ := hfits.first
      exact byteLength_pos (hcs ▸ List.cons_ne_nil c others)
    refine List.pairwise_cons.2 ⟨fun found hfound => ?_, ih⟩
    obtain ⟨front, -, -, hplace, -⟩ := hrest.slice found hfound
    rw [hplace, hbetween, Token.stop]
    omega

/-- What is in no token is blank, if only blanks are left. -/
theorem Reads.covers (h : Reads lexer tokens last) (hblank : ∀ c ∈ last.rest, isBlank c = true)
    {front back : List Char} {c : Char} (hrest : lexer.rest = front ++ c :: back) :
    isBlank c = true ∨ ∃ token ∈ tokens, token.position ≤ lexer.position + byteLength front ∧
      lexer.position + byteLength front < token.stop := by
  induction h generalizing front with
  | done => exact .inl (hblank c (by simp [hrest]))
  | @token lexer between last token tokens hnext _ ih =>
    obtain ⟨blanks, hblanks, -, hsplit, hposition, hbetween⟩ := exists_of_next hnext
    obtain ⟨rest, rfl⟩ | ⟨inner, rfl, hinner⟩ := exists_of_append_eq (hsplit.symm.trans hrest)
    · exact .inl (hblanks c (by simp))
    obtain ⟨rest, htoken⟩ | ⟨behind, rfl, hbehind⟩ := exists_of_append_eq hinner
    · refine .inr ⟨token, List.mem_cons_self, ?_, ?_⟩
      · rw [hposition, byteLength_append]
        omega
      · have hc := c.utf8Size_pos
        rw [Token.stop, hposition, htoken]
        simp only [byteLength_append, byteLength_cons]
        omega
    · have hplace : lexer.position + byteLength (blanks ++ (token.text.toList ++ behind)) =
          between.position + byteLength behind := by
        rw [hbetween, hposition]
        simp only [byteLength_append]
        omega
      rw [hplace]
      exact (ih hblank hbehind).imp_right fun ⟨found, hfound, hspan⟩ =>
        ⟨found, List.mem_cons_of_mem _ hfound, hspan⟩

end Lexer

/-! ### Maximal tokens -/

/-- Is this the kind of a word, that is of a name or of a keyword? -/
def Token.Kind.isWord : Token.Kind → Bool
  | .name | .connective _ => true
  | _ => false

/-- A token takes all that it can in front of these characters. -/
structure Token.IsMaximal (token : Token) (rest : List Char) : Prop where
  /-- A word is made of characters of names and ends where none of them follows. -/
  word : token.kind.isWord = true →
    (∀ c ∈ token.text.toList, isNameRest c = true) ∧ EndsAt isNameRest rest
  /-- A word is a keyword exactly when it is spelled like one, in any case. -/
  keyword : token.kind.isWord = true → ∀ connective : Connective,
    token.kind = .connective connective ↔ upperCase token.text = connective.keyword
  /-- A comparator is its symbol, and `>` and `<` end where no `=` follows. -/
  comparator : ∀ comparator : Comparator, token.kind = .comparator comparator →
    token.text = comparator.symbol ∧
      (comparator = .greater ∨ comparator = .less → rest.head? ≠ some '=')
  /-- A number takes all its digits, and a point with all digits behind it. -/
  number : token.kind = .number → ∃ whole fraction, whole ≠ [] ∧
    token.text.toList = whole ++ pointed fraction ∧ AllDigits whole ∧ AllDigits fraction ∧
      EndsAt Char.isDigit rest ∧
      (fraction = [] → rest.head? = some '.' → EndsAt Char.isDigit rest.tail)
  /-- A text stands between two quotes of one kind, and holds no other of that kind. -/
  text : token.kind = .text → ∃ quote body, (quote = '"' ∨ quote = '\'') ∧
    token.text.toList = quote :: (body ++ [quote]) ∧ quote ∉ body

/-- The characters of a name can all go on a name. -/
theorem isNameRest_of_isNameChars {cs : List Char} (h : isNameChars cs = true) :
    ∀ c ∈ cs, isNameRest c = true := by
  rcases cs with _ | ⟨first, others⟩
  · cases h
  · simp only [isNameChars, Bool.and_eq_true, List.all_eq_true] at h
    exact List.forall_mem_cons.2 ⟨isNameRest_of_isNameStart h.1, h.2⟩

/-- A token that fits is maximal, if it is no keyword that was taken as a name. -/
theorem Token.isMaximal_of_fits {token : Token} {rest : List Char}
    (h : Lexeme.Fits token.kind token.text.toList rest)
    (hname : token.kind = .name → Lexeme.connective? token.text.toList = none) :
    token.IsMaximal rest := by
  obtain ⟨kind, text, position⟩ := token
  refine ⟨?word, ?keyword, ?comparator, ?number, ?text⟩
  case word =>
    intro hword
    show (∀ c ∈ text.toList, isNameRest c = true) ∧ EndsAt isNameRest rest
    generalize text.toList = cs at h
    cases h with
    | connective hchars _ hstop =>
      exact ⟨isNameRest_of_isNameChars hchars, Lexeme.endsAt_isNameRest hstop⟩
    | name hchars _ hstop => exact ⟨isNameRest_of_isNameChars hchars, hstop⟩
    | _ => cases hword
  case keyword =>
    intro hword connective
    show kind = .connective connective ↔ upperCase text = connective.keyword
    rw [← Lexeme.connective?_eq_some_iff]
    replace hname : kind = .name → Lexeme.connective? text.toList = none := hname
    generalize text.toList = cs at h hname
    cases h with
    | connective _ hkeyword _ => simp [hkeyword]
    | name _ _ _ => simp [hname]
    | _ => cases hword
  case comparator =>
    rintro comparator (rfl : kind = _)
    show text = comparator.symbol ∧ _
    rw [← String.toList_inj]
    generalize text.toList = cs at h
    cases h with
    | comparator hstop => exact ⟨rfl, hstop⟩
  case number =>
    rintro (rfl : kind = _)
    show ∃ whole fraction, whole ≠ [] ∧ text.toList = whole ++ pointed fraction ∧ _
    generalize text.toList = cs at h
    cases h with
    | number hwhole hne hfraction hstop hpoint =>
      exact ⟨_, _, hne, rfl, hwhole, hfraction, hstop, hpoint⟩
  case text =>
    rintro (rfl : kind = _)
    show ∃ quote body, _ ∧ text.toList = quote :: (body ++ [quote]) ∧ _
    generalize text.toList = cs at h
    cases h with
    | text hquote hbody => exact ⟨_, _, hquote, rfl, hbody⟩

/-! ### Unreadable characters -/

/-- Nothing can start at this character in front of these. -/
structure StartsNothing (c : Char) (rest : List Char) : Prop where
  not_blank : isBlank c = false
  /-- It is no ASCII letter and no underscore. -/
  not_letter : isNameStart c = false
  not_digit : c.isDigit = false
  not_symbol : c ∉ ['(', ')', '<', '>', '=']
  /-- An exclamation mark is not followed by `=`. -/
  of_mark : c = '!' → rest.head? ≠ some '='
  /-- A quote is the last of its kind. -/
  of_quote : c = '"' ∨ c = '\'' → c ∉ rest

namespace Lexeme

/-- A quote starts nothing when it is the last of its kind. -/
theorem quoted?_eq_none_iff {quote : Char} {cs : List Char} :
    quoted? quote cs = none ↔ quote ∉ cs := by
  have hdrop : quoted? quote cs = none ↔ cs.dropWhile (· != quote) = [] := by
    unfold quoted?
    split
    · rename_i hcons
      simp [hcons]
    · rename_i hnil
      simp [hnil]
  rw [hdrop, List.dropWhile_eq_nil_iff]
  constructor
  · intro h hmem
    simpa using h quote hmem
  · rintro h c hc
    rw [bne_iff_ne]
    rintro rfl
    exact h hc

/-- A character other than a letter, a digit and a quote starts nothing when it is no symbol, and no
exclamation mark in front of `=`. -/
theorem symbol?_eq_none_iff {c : Char} {rest : List Char} :
    symbol? (c :: rest) = none ↔
      c ∉ ['(', ')', '<', '>', '='] ∧ (c = '!' → rest.head? ≠ some '=') := by
  constructor
  · intro h
    constructor
    · intro hmem
      simp only [List.mem_cons, List.not_mem_nil, or_false] at hmem
      unfold symbol? at h
      rcases hmem with rfl | rfl | rfl | rfl | rfl <;> split at h <;> simp_all
    · rintro rfl hhead
      obtain ⟨back, rfl⟩ := List.head?_eq_some_iff.1 hhead
      cases h
  · rintro ⟨hsymbol, hmark⟩
    unfold symbol?
    split <;> simp_all

/-- **No lexeme starts at a character that can start nothing**, and at every other character one
does. -/
theorem lexeme?_eq_none_iff {c : Char} {rest : List Char} (hblank : isBlank c = false) :
    lexeme? (c :: rest) = none ↔ StartsNothing c rest := by
  unfold lexeme?
  simp only
  split_ifs with hletter hdigit hquote
  · refine iff_of_false (by simp) fun h => ?_
    rw [h.not_letter] at hletter
    cases hletter
  · refine iff_of_false (by simp) fun h => ?_
    rw [h.not_digit] at hdigit
    cases hdigit
  · rw [quoted?_eq_none_iff]
    constructor
    · intro hlast
      refine ⟨hblank, by simpa using hletter, by simpa using hdigit, ?_, ?_, fun _ => hlast⟩
      · rcases hquote with rfl | rfl <;> decide
      · rintro rfl
        simp at hquote
    · exact fun h => h.of_quote hquote
  · rw [symbol?_eq_none_iff]
    constructor
    · rintro ⟨hsymbol, hmark⟩
      exact ⟨hblank, by simpa using hletter, by simpa using hdigit, hsymbol, hmark,
        fun h => absurd h hquote⟩
    · exact fun h => ⟨h.not_symbol, h.of_mark⟩

/-! ### Fronts of texts -/

/-- What fits in front of some characters fits where the text ends among them. Only its kind can
differ, since a keyword in front of a character of a word is a name there. -/
theorem Fits.truncate {kind : Token.Kind} {cs rest back : List Char}
    (h : Fits kind cs (rest ++ back)) : ∃ other, Fits other cs rest := by
  cases h with
  | leftParen => exact ⟨_, .leftParen rest⟩
  | rightParen => exact ⟨_, .rightParen rest⟩
  | comparator hstop =>
    refine ⟨_, .comparator fun hc hhead => hstop hc ?_⟩
    rw [List.head?_append, hhead]
    rfl
  | connective hword hkeyword hstop => exact ⟨_, .connective hword hkeyword hstop.of_append⟩
  | name hword _ hstop =>
    rcases hkeyword : connective? cs with _ | c
    · exact ⟨_, .name hword (.inl hkeyword) hstop.of_append⟩
    · by_cases hend : EndsAt isWord rest
      · exact ⟨_, .connective hword hkeyword hend⟩
      · exact ⟨_, .name hword (.inr hend) hstop.of_append⟩
  | number hwhole hne hfraction hstop hpoint =>
    refine ⟨_, .number hwhole hne hfraction hstop.of_append fun hnone hhead => ?_⟩
    obtain ⟨behind, rfl⟩ := List.head?_eq_some_iff.1 hhead
    exact (hpoint hnone rfl).of_append
  | text hquote hbody => exact ⟨_, .text hquote hbody⟩

end Lexeme

/-- Tokens of one text at one place, whatever their kinds. -/
def Token.IsAlike (a b : Token) : Prop := a.text = b.text ∧ a.position = b.position

namespace Lexer

variable {lexer last : Lexer} {tokens : List Token}

/-- **In front of what is left, the same tokens are read** when the text ends there. -/
theorem Reads.truncate (h : Reads lexer tokens last) {front cs back : List Char}
    (hlexer : lexer.rest = front ++ back) (hlast : last.rest = cs ++ back) :
    ∃ others, Reads ⟨front, lexer.position⟩ others ⟨cs, last.position⟩ ∧
      List.Forall₂ Token.IsAlike tokens others := by
  induction h generalizing front with
  | done lexer =>
    obtain rfl : front = cs := List.append_cancel_right (hlexer.symm.trans hlast)
    exact ⟨[], .done _, .nil⟩
  | @token lexer between last token tokens hnext hrest ih =>
    obtain ⟨blanks, hblanks, hfits, hsplit, hposition, hplace⟩ := exists_of_next hnext
    obtain ⟨middle, hmiddle⟩ := hrest.suffix
    have hbetween : between.rest = (middle ++ cs) ++ back := by
      rw [← hmiddle, hlast, List.append_assoc]
    have hfront : front = blanks ++ (token.text.toList ++ (middle ++ cs)) := by
      apply List.append_cancel_right
      calc front ++ back = lexer.rest := hlexer.symm
        _ = blanks ++ (token.text.toList ++ (middle ++ cs)) ++ back := by
          rw [hsplit, hbetween]
          simp only [List.append_assoc]
    obtain ⟨others, hothers, halike⟩ := ih hbetween hlast
    rw [hbetween] at hfits
    obtain ⟨kind, hkind⟩ := hfits.truncate
    have hother : next ⟨front, lexer.position⟩ =
        (some (.ok ⟨kind, token.text, token.position⟩), ⟨middle ++ cs, between.position⟩) := by
      rw [hfront, next_of_blanks hblanks, next_of_fits hkind, ← hposition, ← hplace,
        String.ofList_toList]
    exact ⟨_, .token hother hothers, .cons ⟨rfl, rfl⟩ halike⟩

/-! ### Texts that are not read -/

/-- A fault is the first character behind blanks, and no lexeme starts there. Behind it there is
nothing left. -/
theorem exists_of_next_error {after : Lexer} {e : UnexpectedCharacter}
    (h : lexer.next = (some (.error e), after)) :
    ∃ blanks back, lexer.rest = blanks ++ e.character :: back ∧
      (∀ c ∈ blanks, isBlank c = true) ∧ e.position = lexer.position + byteLength blanks ∧
      StartsNothing e.character back ∧
      after = ⟨[], lexer.position + byteLength lexer.rest⟩ := by
  have hsplit : lexer.rest.takeWhile isBlank ++ lexer.rest.dropWhile isBlank = lexer.rest :=
    List.takeWhile_append_dropWhile
  have hend := endsAt_dropWhile isBlank lexer.rest
  rw [next] at h
  split at h
  · cases h
  rename_i c back hrest
  replace hrest : lexer.rest.dropWhile isBlank = c :: back := hrest
  split at h
  · cases h
  rename_i hnone
  cases h
  rw [hrest] at hsplit hend
  refine ⟨_, back, hsplit.symm, List.all_eq_true.1 List.all_takeWhile, rfl, ?_, ?_⟩
  · rw [← Lexeme.lexeme?_eq_none_iff ((endsAt_cons _ _ _).1 hend), ← hrest]
    exact hnone
  · show Lexer.mk [] _ = _
    rw [← hsplit, byteLength_append, ← Nat.add_assoc, ← hrest]
    rfl

/-- What is collected up to a fault is read. -/
theorem reads_of_collect_error {done : List Token} {e : UnexpectedCharacter}
    (h : collect done lexer = .error e) :
    ∃ tokens last after, Reads lexer tokens last ∧ last.next = (some (.error e), after) := by
  fun_induction collect done lexer with
  | case1 => cases h
  | case2 done lexer fault after hnext =>
    cases h
    exact ⟨[], lexer, after, .done lexer, hnext⟩
  | case3 done lexer token between hnext ih =>
    obtain ⟨tokens, last, after, hreads, hfault⟩ := ih h
    exact ⟨token :: tokens, last, after, .token hnext hreads, hfault⟩

/-- **A text is refused where tokens are read up to a fault.** -/
theorem tokens_eq_error_iff {e : UnexpectedCharacter} :
    lexer.tokens = .error e ↔
      ∃ tokens last after, Reads lexer tokens last ∧ last.next = (some (.error e), after) := by
  constructor
  · exact reads_of_collect_error
  · rintro ⟨tokens, last, after, hreads, hfault⟩
    rw [Lexer.tokens, hreads.collect_eq, collect_of_next_error hfault]

end Lexer

/-! ### Whole texts -/

/-- The text is made of these tokens, of which each takes all that it can, and of blanks. -/
structure Tiles (text : String) (tokens : List Token) : Prop where
  /-- Each token starts further on than the one before, and not before the end of that one. -/
  ordered : tokens.Pairwise fun a b => a.position < b.position ∧ a.stop ≤ b.position
  /-- A token is what the text has at its place. -/
  slice : ∀ token ∈ tokens, ∃ back,
    HasSlice text token.position token.text.toList back ∧ token.IsMaximal back
  /-- A character is blank or in a token. -/
  covers : ∀ position c back, HasSlice text position [c] back →
    isBlank c = true ∨ ∃ token ∈ tokens, token.position ≤ position ∧ position < token.stop

/-- The text is read up to this fault, at which nothing can start. Up to there it is read like the
whole of a text, and from there on nothing is left. -/
def ReadsUpTo (text : String) (e : UnexpectedCharacter) : Prop :=
  ∃ front back, text.toList = front ++ e.character :: back ∧ byteLength front = e.position ∧
    StartsNothing e.character back ∧
    ∃ tokens last after, Lexer.Reads (Lexer.ofText text) tokens last ∧
      last.next = (some (.error e), after) ∧ after.next = (none, after) ∧
      ∃ others, tokenize (String.ofList front) = .ok others ∧
        List.Forall₂ Token.IsAlike tokens others

/-- The tokens of a text that is read tile it. -/
theorem tiles_of_tokenize {text : String} {tokens : List Token} (h : tokenize text = .ok tokens) :
    Tiles text tokens := by
  obtain ⟨last, hreads, hblank⟩ := Lexer.tokens_eq_ok_iff.1 h
  refine ⟨hreads.ordered, fun token htoken => ?_, ?_⟩
  · obtain ⟨front, back, hslice, hplace, hfits⟩ := hreads.slice token htoken
    refine ⟨back, ⟨front, hslice, ?_⟩, ?_⟩
    · rw [hplace, Lexer.ofText, Nat.zero_add]
    · exact Token.isMaximal_of_fits hfits (hreads.isFormed hblank token htoken).2
  · rintro position c back ⟨front, hsplit, rfl⟩
    have hcovers := hreads.covers hblank hsplit
    rwa [Lexer.ofText, Nat.zero_add] at hcovers

/-- A text that is refused is read up to the fault. -/
theorem readsUpTo_of_tokenize {text : String} {e : UnexpectedCharacter}
    (h : tokenize text = .error e) : ReadsUpTo text e := by
  obtain ⟨tokens, last, after, hreads, hfault⟩ := Lexer.tokens_eq_error_iff.1 h
  obtain ⟨blanks, back, hlast, hblanks, hplace, hnothing, hafter⟩ :=
    Lexer.exists_of_next_error hfault
  obtain ⟨front, hfront⟩ := hreads.suffix
  have hsplit : text.toList = (front ++ blanks) ++ e.character :: back := by
    rw [List.append_assoc, ← hlast]
    exact hfront.symm
  obtain ⟨others, hothers, halike⟩ := hreads.truncate hsplit hlast
  refine ⟨front ++ blanks, back, hsplit, ?_, hnothing, tokens, last, after, hreads, hfault, ?_,
    others, ?_, halike⟩
  · have hend := hreads.position_add
    rw [← hfront, byteLength_append] at hend
    simp only [Lexer.ofText] at hend
    rw [byteLength_append, hplace]
    omega
  · rw [hafter]
    rfl
  · refine Lexer.tokens_eq_ok_iff.2 ⟨⟨blanks, last.position⟩, ?_, hblanks⟩
    rw [Lexer.ofText, String.toList_ofList]
    exact hothers

/-- **Tokens tile the text that they are read from.** A text that is read is made of its tokens, of
which each takes all that it can, and of blanks. A text that is refused is read up to the first
character behind a token at which nothing can start. -/
theorem tokenize_tiles (text : String) :
    (∀ tokens, tokenize text = .ok tokens → Tiles text tokens) ∧
      ∀ e, tokenize text = .error e → ReadsUpTo text e :=
  ⟨fun _ => tiles_of_tokenize, fun _ => readsUpTo_of_tokenize⟩

/-- A keyword in front of a letter outside ASCII is taken as a name, and then that letter is the
fault; without the letter it is a keyword. -/
theorem tokenize_tiles_of_letter_behind_keyword :
    Tiles "x>=1.5 AND" [⟨.name, "x", 0⟩, ⟨.comparator .greaterEqual, ">=", 1⟩, ⟨.number, "1.5", 3⟩,
      ⟨.connective .and, "AND", 7⟩] ∧
    ReadsUpTo "x>=1.5 ANDé" ⟨10, 'é'⟩ := by
  constructor
  · refine (tokenize_tiles _).1 _ (Lexer.tokens_eq_ok_iff.2 ⟨⟨[], 10⟩, ?_, by simp⟩)
    exact .token rfl (.token rfl (.token rfl (.token rfl (.done _))))
  · refine (tokenize_tiles _).2 _ (Lexer.tokens_eq_error_iff.2 ?_)
    exact ⟨_, ⟨['é'], 10⟩, _, .token rfl (.token rfl (.token rfl (.token rfl (.done _)))), rfl⟩

end Eligibility

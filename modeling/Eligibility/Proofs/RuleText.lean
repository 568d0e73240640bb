import Mathlib.Data.List.Forall2
import Eligibility.Proofs.Lexing
import Eligibility.Proofs.NumberText
import Eligibility.Proofs.Result
import Eligibility.Proofs.Spelling
import Eligibility.Rule

/-!
# Rule text is read back

A condition that is written as rule text is read back as itself, as long as the parser may open a
parenthesis for every join on the way to a leaf.

* **Conditions that can be written** (`IsWritable`): names are free, which means that they are not
  taken for a connective; numbers are finite and have no minus sign; no text holds both kinds of
  quotes. Every condition that is read from a text is of this kind (`isWritable_of_derives`).
* **What rule text spells** (`reads_ruleText`): the lexer cuts the text of such a condition into
  tokens that spell it, whatever is written behind it. The induction is on the condition, and what
  follows a part is a blank, a parenthesis or nothing.
* **Keywords between texts** (`ReadsAs.intercalate`): comparisons with the keyword of a connective
  between them are read as their join from the left, and no number of them is too great. Among them
  are the texts of conditions (`ofText_disjunctionText`).
-/

namespace Eligibility

open Text

/-! ### Conditions that can be written -/

/-- A name that is the keyword of no connective in any case. -/
def IsFreeName (text : String) : Prop :=
  isName text = true ∧ ∀ connective : Connective, upperCase text ≠ connective.keyword

/-- A finite number without a minus sign, or a text without one of the two kinds of quotes. -/
def Literal.IsWritable : Literal → Prop
  | .number value => value.isFinite = true ∧ value.isNegative = false
  | .text value => hasMixedQuotes value = false

/-- A free name, or a literal that can be written. -/
def Operand.IsWritable : Operand → Prop
  | .name text => IsFreeName text
  | .literal value => value.IsWritable

/-- A leaf whose field and literal, or whose operand, can be written. -/
def Leaf.IsWritable : Leaf → Prop
  | .comparison c => IsFreeName c.field ∧ c.literal.IsWritable
  | .operand o => o.IsWritable

/-- A condition all of whose leaves can be written. -/
def Condition.IsWritable (condition : Condition) : Prop :=
  ∀ leaf ∈ condition.leaves, leaf.IsWritable

/-- A name is free when it is neither of the two keywords. -/
theorem isFreeName_iff {text : String} :
    IsFreeName text ↔ isName text = true ∧
      upperCase text ≠ Connective.and.keyword ∧ upperCase text ≠ Connective.or.keyword := by
  unfold IsFreeName
  constructor
  · rintro ⟨hname, hkeyword⟩
    exact ⟨hname, hkeyword .and, hkeyword .or⟩
  · rintro ⟨hname, hand, hor⟩
    refine ⟨hname, fun connective => ?_⟩
    cases connective with
    | and => exact hand
    | or => exact hor

instance : DecidablePred IsFreeName := fun _ => decidable_of_iff _ isFreeName_iff.symm

instance : DecidablePred Literal.IsWritable
  | .number value => inferInstanceAs (Decidable (value.isFinite = true ∧ value.isNegative = false))
  | .text value => inferInstanceAs (Decidable (hasMixedQuotes value = false))

instance : DecidablePred Operand.IsWritable
  | .name text => inferInstanceAs (Decidable (IsFreeName text))
  | .literal value => inferInstanceAs (Decidable value.IsWritable)

instance : DecidablePred Leaf.IsWritable
  | .comparison c => inferInstanceAs (Decidable (IsFreeName c.field ∧ c.literal.IsWritable))
  | .operand o => inferInstanceAs (Decidable o.IsWritable)

instance : DecidablePred Condition.IsWritable :=
  fun condition => inferInstanceAs (Decidable (∀ leaf ∈ condition.leaves, leaf.IsWritable))

/-- A condition of one leaf can be written when the leaf can. -/
@[simp] theorem Condition.isWritable_leaf (l : Leaf) : (leaf l).IsWritable ↔ l.IsWritable := by
  simp [IsWritable, leaves]

/-- A join can be written when both its sides can. -/
@[simp] theorem Condition.isWritable_join (connective : Connective) (left right : Condition) :
    (join connective left right).IsWritable ↔ left.IsWritable ∧ right.IsWritable := by
  simp only [IsWritable, leaves, List.forall_mem_append]

/-- A word names no connective when it is the keyword of none. -/
theorem connective?_eq_none_iff {text : String} :
    Lexeme.connective? text.toList = none ↔
      ∀ connective : Connective, upperCase text ≠ connective.keyword := by
  rw [Option.eq_none_iff_forall_ne_some]
  exact forall_congr' fun _ => not_congr Lexeme.connective?_eq_some_iff

/-! ### What is read can be written -/

/-- A token that is a name is a free one. -/
theorem Token.IsFormed.isFreeName {token : Token} (h : token.IsFormed)
    (hkind : token.kind = .name) : IsFreeName token.text := by
  obtain ⟨⟨rest, hfits⟩, hkeyword⟩ := h
  rw [hkind] at hfits
  cases hfits with
  | name hword _ _ => exact ⟨hword, connective?_eq_none_iff.1 (hkeyword hkind)⟩

/-- No name holds a quote. -/
theorem hasMixedQuotes_of_isName {text : String} (h : isName text = true) :
    hasMixedQuotes text = false := by
  obtain ⟨c, rest, htext, hc, hrest⟩ := isName_iff.1 h
  have hquote : '"' ∉ text.toList := by
    rw [htext]
    rintro (_ | ⟨_, hmem⟩)
    · exact absurd hc (by decide)
    · exact absurd (hrest _ hmem) (by decide)
  simp [hasMixedQuotes, hquote]

/-- What a formed token denotes can be written. -/
theorem Token.IsFormed.isWritable {token : Token} {operand : Operand} (h : token.IsFormed)
    (hdenotes : token.Denotes operand) : operand.IsWritable := by
  cases hdenotes with
  | name hkind => exact h.isFreeName hkind
  | number hkind hvalue =>
    obtain ⟨⟨rest, hfits⟩, -⟩ := h
    generalize hcs : token.text.toList = cs at hfits hvalue
    rw [hkind] at hfits
    cases hfits with
    | number hwhole hne hfraction _ _ =>
      exact Binary64.isNegative_of_finiteOfChars? hwhole hne hfraction hvalue
  | text hkind hcontent =>
    obtain ⟨⟨rest, hfits⟩, -⟩ := h
    generalize hcs : token.text.toList = cs at hfits
    rw [hkind] at hfits
    cases hfits with
    | @text quote body _ hquote hbody =>
      have hbetween :=
        (Token.denotes_iff_of_quoted hkind hquote.symm hcs _).1 (.text hkind hcontent)
      cases hbetween
      show hasMixedQuotes (String.ofList body) = false
      rcases hquote with rfl | rfl <;> simp [hasMixedQuotes, hbody]

/-- What can be written on its own can be written on the right side of a comparison. -/
theorem Operand.IsWritable.asLiteral {operand : Operand} (h : operand.IsWritable) :
    operand.asLiteral.IsWritable := by
  cases operand with
  | name text => exact hasMixedQuotes_of_isName h.1
  | literal value => exact h

/-- A condition that is derived from formed tokens can be written. -/
theorem isWritable_of_derives {mode : ParseMode} {level : Grammar.Level} {tokens : List Token}
    {condition : Condition} (h : Grammar.Derives mode level tokens condition)
    (htokens : ∀ token ∈ tokens, token.IsFormed) : condition.IsWritable := by
  induction h with
  | ofConjunction _ ih => exact ih htokens
  | ofComparison _ ih => exact ih htokens
  | or _ _ _ ihl ihr | and _ _ _ ihl ihr =>
    rw [List.forall_mem_append, List.forall_mem_cons] at htokens
    rw [Condition.isWritable_join]
    exact ⟨ihl htokens.1, ihr htokens.2.2⟩
  | compare hfield _ hside =>
    rw [Condition.compare, Condition.isWritable_leaf]
    exact ⟨(htokens _ (by simp)).isFreeName hfield,
      ((htokens _ (by simp)).isWritable hside).asLiteral⟩
  | group _ _ _ ih =>
    rw [List.forall_mem_cons, List.forall_mem_append] at htokens
    exact ih htokens.2.1
  | bare _ hdenotes =>
    rw [Condition.isWritable_leaf]
    exact (htokens _ (by simp)).isWritable hdenotes

/-! ### What rule text spells -/

/-- Behind a part of a rule text there is a blank, a parenthesis that is closed or nothing. -/
def Closes (rest : List Char) : Prop := ∀ c ∈ rest.head?, c = ' ' ∨ c = ')'

/-- The end of a text closes what stands in front of it. -/
theorem closes_nil : Closes [] := by
  intro c hc
  cases hc

/-- A space or a closing parenthesis closes what stands in front of it. -/
theorem closes_cons {c : Char} (h : c = ' ' ∨ c = ')') (rest : List Char) : Closes (c :: rest) := by
  intro d hd
  obtain rfl : c = d := by simpa using hd
  exact h

/-- No class that holds neither of the two characters goes on there. -/
theorem Closes.endsAt {rest : List Char} (h : Closes rest) {p : Char → Bool}
    (hblank : p ' ' = false) (hparen : p ')' = false) : EndsAt p rest := by
  intro c hc
  rcases h c hc with rfl | rfl
  · exact hblank
  · exact hparen

/-- A free name is read as a name. -/
theorem reads_name {name : String} (h : IsFreeName name) {rest : List Char} (hrest : Closes rest)
    (position : Nat) :
    ∃ last, Lexer.Reads ⟨name.toList ++ rest, position⟩ [⟨.name, name, position⟩] ⟨rest, last⟩ := by
  have hfits : Lexeme.Fits .name name.toList rest :=
    .name h.1 (.inl (connective?_eq_none_iff.2 h.2)) (hrest.endsAt (by decide) (by decide))
  have hreads := Lexer.Reads.one hfits position
  rw [String.ofList_toList] at hreads
  exact ⟨_, hreads⟩

/-- A literal that can be written is read as the literal. -/
theorem reads_literal {literal : Literal} (h : literal.IsWritable) {rest : List Char}
    (hrest : Closes rest) (position : Nat) :
    ∃ token last, Lexer.Reads ⟨literal.ruleText.toList ++ rest, position⟩ [token] ⟨rest, last⟩ ∧
      token.Denotes (.literal literal) := by
  cases literal with
  | number value =>
    obtain ⟨whole, fraction, htext, hne, hwhole, hfraction, hvalue⟩ :=
      Binary64.text_toList h.1 h.2
    have hfits : Lexeme.Fits .number (whole ++ pointed fraction) rest := by
      refine .number hwhole hne hfraction (hrest.endsAt (by decide) (by decide)) ?_
      intro _ hpoint
      rcases hrest _ hpoint with heq | heq <;> cases heq
    rw [Literal.ruleText, htext]
    refine ⟨_, _, Lexer.Reads.one hfits position, .number rfl ?_⟩
    rw [String.toList_ofList, hvalue]
  | text value =>
    obtain ⟨quote, hquote, hbody, htext⟩ : ∃ quote, (quote = '"' ∨ quote = '\'') ∧
        quote ∉ value.toList ∧
        (Literal.text value).ruleText.toList = quote :: (value.toList ++ [quote]) := by
      by_cases hsingle : '\'' ∈ value.toList
      · refine ⟨'"', .inl rfl, ?_, by simp [Literal.ruleText, hsingle]⟩
        simpa [Literal.IsWritable, hasMixedQuotes, hsingle] using h
      · exact ⟨'\'', .inr rfl, hsingle, by simp [Literal.ruleText, hsingle]⟩
    rw [htext]
    have hdenotes := (@Token.denotes_iff_of_quoted
      ⟨.text, String.ofList (quote :: (value.toList ++ [quote])), position⟩ quote value.toList rfl
      hquote.symm String.toList_ofList _).2 rfl
    rw [String.ofList_toList] at hdenotes
    exact ⟨_, _, Lexer.Reads.one (.text hquote hbody) position, hdenotes⟩

/-- A character that is a letter in upper case can start a name. -/
theorem isNameStart_of_isAlpha_toUpper {c : Char} (h : c.toUpper.isAlpha = true) :
    isNameStart c = true := by
  unfold Char.toUpper at h
  split at h
  · rename_i hlower
    rw [isNameStart_iff]
    exact .inr (.inl hlower)
  · rw [isNameStart, h, Bool.true_or]

/-- Letters make a name. -/
theorem isNameChars_of_isNameStart {cs : List Char} (hne : cs ≠ [])
    (h : ∀ c ∈ cs, isNameStart c = true) : isNameChars cs = true := by
  obtain ⟨first, others, rfl⟩ := List.exists_cons_of_ne_nil hne
  obtain ⟨hfirst, hothers⟩ := List.forall_mem_cons.1 h
  rw [isNameChars, hfirst, Bool.true_and, List.all_eq_true]
  exact fun c hc => isNameRest_of_isNameStart (hothers c hc)

/-- A keyword is read as its connective, in any case. -/
theorem fits_of_ofKeyword {keyword : String} {connective : Connective}
    (h : Connective.ofKeyword keyword = .ok connective) (rest : List Char) :
    Lexeme.Fits (.connective connective) keyword.toList (' ' :: rest) := by
  have hupper : upperCase keyword = connective.keyword := Connective.ofKeyword_eq_ok_iff.1 h
  have hletters : ∀ c ∈ keyword.toList, isNameStart c = true := by
    intro c hc
    apply isNameStart_of_isAlpha_toUpper
    have hall : connective.keyword.toList.all Char.isAlpha = true := by cases connective <;> decide
    rw [← hupper, toList_upperCase, List.all_map] at hall
    exact List.all_eq_true.1 hall c hc
  have hne : keyword.toList ≠ [] := by
    intro hnil
    have hkeyword : connective.keyword.toList = [] := by
      rw [← hupper, toList_upperCase, hnil, List.map_nil]
    cases connective <;> cases hkeyword
  refine .connective (isNameChars_of_isNameStart hne hletters) ?_
    ((endsAt_cons _ _ _).2 (by decide))
  show Connective.ofExactKeyword? (upperCase keyword) = some connective
  rw [hupper, Connective.ofExactKeyword?_keyword]

/-- A keyword is read as its connective. -/
theorem fits_keyword (connective : Connective) (rest : List Char) :
    Lexeme.Fits (.connective connective) connective.keyword.toList (' ' :: rest) :=
  fits_of_ofKeyword (Connective.ofKeyword_keyword connective) rest

/-- A symbol is read as its comparator. -/
theorem fits_symbol (comparator : Comparator) (rest : List Char) :
    Lexeme.Fits (.comparator comparator) comparator.symbol.toList (' ' :: rest) :=
  .comparator (by simp)

/-- Tokens are read behind tokens and a space. -/
theorem Lexer.Reads.append_space {first last : Lexer} {front tokens : List Token}
    {back : List Char} {position : Nat} (hfront : Reads first front ⟨' ' :: back, position⟩)
    (hne : tokens ≠ []) (hback : Reads ⟨back, position + byteLength [' ']⟩ tokens last) :
    Reads first (front ++ tokens) last := by
  have hspace : ∀ c ∈ [' '], isBlank c = true := List.forall_mem_singleton.2 (by decide)
  exact hfront.append (.of_blanks hspace hne hback)

/-- A leaf that can be written is read as tokens that spell it. -/
theorem reads_leaf {leaf : Leaf} (h : leaf.IsWritable) {rest : List Char} (hrest : Closes rest)
    (position : Nat) :
    ∃ tokens last, Lexer.Reads ⟨leaf.ruleText.toList ++ rest, position⟩ tokens ⟨rest, last⟩ ∧
      Grammar.Spells tokens (.leaf leaf) := by
  rcases leaf with ⟨field, comparator, literal⟩ | name | literal
  · obtain ⟨hfield, hliteral⟩ := h
    have htext : (Leaf.comparison ⟨field, comparator, literal⟩).ruleText.toList ++ rest =
        field.toList ++ ' ' :: (comparator.symbol.toList ++
          ' ' :: (literal.ruleText.toList ++ rest)) := by
      simp [Leaf.ruleText]
    obtain ⟨behind, hname⟩ := reads_name hfield (closes_cons (.inl rfl) _) position
    have hsymbol := Lexer.Reads.one (fits_symbol comparator (literal.ruleText.toList ++ rest))
      (behind + byteLength [' '])
    obtain ⟨side, last, hside, hdenotes⟩ := reads_literal hliteral hrest _
    rw [htext]
    exact ⟨_, last, (hname.append_space (by simp) hsymbol).append_space (by simp) hside,
      .compare rfl rfl hdenotes⟩
  · obtain ⟨last, hreads⟩ := reads_name h hrest position
    exact ⟨_, last, hreads, .operand (.name rfl)⟩
  · obtain ⟨token, last, hreads, hdenotes⟩ := reads_literal h hrest position
    exact ⟨[token], last, hreads, .operand hdenotes⟩

/-- **What rule text spells.** The text of a condition that can be written is read as tokens that
spell it, and what stands behind it is left. -/
theorem reads_ruleText {condition : Condition} (h : condition.IsWritable) {rest : List Char}
    (hrest : Closes rest) (position : Nat) :
    ∃ tokens last, Lexer.Reads ⟨condition.ruleText.toList ++ rest, position⟩ tokens ⟨rest, last⟩ ∧
      Grammar.Spells tokens condition := by
  induction condition generalizing rest position with
  | leaf leaf => exact reads_leaf ((Condition.isWritable_leaf leaf).1 h) hrest position
  | join connective left right ihl ihr =>
    obtain ⟨hleft, hright⟩ := (Condition.isWritable_join connective left right).1 h
    have htext : (Condition.join connective left right).ruleText.toList ++ rest =
        '(' :: (left.ruleText.toList ++ ' ' :: (connective.keyword.toList ++
          ' ' :: (right.ruleText.toList ++ ')' :: rest))) := by
      simp [Condition.ruleText]
    have hopening := Lexer.Reads.one (.leftParen (left.ruleText.toList ++
      ' ' :: (connective.keyword.toList ++ ' ' :: (right.ruleText.toList ++ ')' :: rest)))) position
    obtain ⟨first, behindFirst, hfirst, hspellsFirst⟩ :=
      ihl hleft (closes_cons (.inl rfl) _) (position + byteLength ['('])
    have hjoint := Lexer.Reads.one
      (fits_keyword connective (right.ruleText.toList ++ ')' :: rest))
      (behindFirst + byteLength [' '])
    obtain ⟨second, behindSecond, hsecond, hspellsSecond⟩ :=
      ihr hright (closes_cons (.inr rfl) rest) _
    have hclosing := Lexer.Reads.one (.rightParen rest) behindSecond
    have hreads := hopening.append (((hfirst.append_space (by simp) hjoint).append_space
      hspellsSecond.derives.ne_nil hsecond).append hclosing)
    rw [htext]
    refine ⟨_, _, hreads, ?_⟩
    rw [List.append_assoc first]
    exact .join rfl hspellsFirst rfl hspellsSecond rfl

/-! ### Writing and reading -/

namespace Condition

/-- The text of a condition that can be written is cut into tokens that spell it. -/
theorem tokenize_ruleText {condition : Condition} (h : condition.IsWritable) :
    ∃ tokens, tokenize condition.ruleText = .ok tokens ∧ Grammar.Spells tokens condition := by
  obtain ⟨tokens, last, hreads, hspells⟩ := reads_ruleText h closes_nil 0
  rw [List.append_nil] at hreads
  exact ⟨tokens, Lexer.tokens_eq_ok_iff.2 ⟨_, hreads, by simp⟩, hspells⟩

/-- In front of what closes a part, this text is read as tokens from which the condition is derived
at a level, within the parentheses that the parser may open. -/
def ReadsAs (mode : ParseMode) (level : Grammar.Level) (text : String) (condition : Condition) :
    Prop :=
  ∀ back, Closes back → ∀ position, ∃ tokens last,
    Lexer.Reads ⟨text.toList ++ back, position⟩ tokens ⟨back, last⟩ ∧
      Grammar.DerivesWithin mode maxNesting level tokens condition

variable {mode : ParseMode} {level : Grammar.Level} {text next keyword : String}
  {condition left right : Condition} {connective : Connective}

/-- A text that is read as a condition in front of what closes a part is read as it on its own. -/
theorem ReadsAs.ofText (h : ReadsAs mode level text condition) :
    ofText mode text = .ok condition := by
  obtain ⟨tokens, last, hreads, hderives, hnested⟩ := h [] closes_nil 0
  rw [List.append_nil] at hreads
  have htokens : tokenize text = .ok tokens := Lexer.tokens_eq_ok_iff.2 ⟨_, hreads, by simp⟩
  exact ofText_eq_ok_iff.2 ⟨tokens, htokens, hderives.disjunction, hnested⟩

/-- A comparison is read as one at every level. -/
theorem ReadsAs.raise (h : ReadsAs mode .comparison text condition) (level : Grammar.Level) :
    ReadsAs mode level text condition := by
  intro back hback position
  obtain ⟨tokens, last, hreads, hderives, hnested⟩ := h back hback position
  exact ⟨tokens, last, hreads, hderives.raise level, hnested⟩

/-- One more comparison behind a keyword is joined to all that stands before it. -/
theorem ReadsAs.join (hkeyword : Connective.ofKeyword keyword = .ok connective)
    (hleft : ReadsAs mode (.joinedBy connective) text left)
    (hright : ReadsAs mode .comparison next right) :
    ReadsAs mode (.joinedBy connective) (text ++ (" " ++ keyword ++ " ") ++ next)
      (join connective left right) := by
  intro back hback position
  have htext : (text ++ (" " ++ keyword ++ " ") ++ next).toList ++ back =
      text.toList ++ ' ' :: (keyword.toList ++ ' ' :: (next.toList ++ back)) := by
    simp
  obtain ⟨first, behind, hfirst, hleftWithin⟩ := hleft _ (closes_cons (.inl rfl) _) position
  have hjoint := Lexer.Reads.one (fits_of_ofKeyword hkeyword (next.toList ++ back))
    (behind + byteLength [' '])
  obtain ⟨second, last, hsecond, hrightWithin⟩ := hright back hback _
  have hreads := (hfirst.append_space (List.cons_ne_nil _ _) hjoint).append_space
    hrightWithin.1.ne_nil hsecond
  rw [List.append_assoc, List.singleton_append] at hreads
  rw [htext]
  exact ⟨_, last, hreads, hleftWithin.1.joined rfl hrightWithin.1,
    Grammar.nestedWithin_joint hleftWithin rfl hrightWithin⟩

/-- **Comparisons with a keyword between them** are read as their join from the left. -/
theorem ReadsAs.intercalate (hkeyword : Connective.ofKeyword keyword = .ok connective)
    {texts : List String} {conditions : List Condition}
    (h : ReadsAs mode (.joinedBy connective) text condition)
    (hrest : List.Forall₂ (ReadsAs mode .comparison) texts conditions) :
    ReadsAs mode (.joinedBy connective) ((" " ++ keyword ++ " ").intercalate (text :: texts))
      (conditions.foldl (Condition.join connective) condition) := by
  induction hrest generalizing text condition with
  | nil =>
    rw [String.intercalate_singleton]
    exact h
  | cons hnext _ ih =>
    rw [String.intercalate_cons_cons, ← String.intercalate_cons_append]
    exact ih (h.join hkeyword hnext)

/-- The text of a condition that can be written is read as it when the parser may open enough
parentheses. -/
theorem readsAs_ruleText (h : condition.IsWritable) (hlow : condition.height ≤ maxNesting) :
    ReadsAs .lenient .comparison condition.ruleText condition := by
  intro back hback position
  obtain ⟨tokens, last, hreads, hspells⟩ := reads_ruleText h hback position
  exact ⟨tokens, last, hreads, hspells.derives,
    (hspells.nestedWithin_iff _).2 (Int.ofNat_le.2 hlow)⟩

/-- A condition that can be written is read back when the parser may open enough parentheses. -/
theorem ofText_ruleText_of_height_le (h : condition.IsWritable)
    (hlow : condition.height ≤ maxNesting) :
    ofText .lenient condition.ruleText = .ok condition :=
  (readsAs_ruleText h hlow).ofText

/-- Conditions with `OR` between them, and no parentheses around their joins. -/
def disjunctionText (first : Condition) (rest : List Condition) : String :=
  rest.foldl (fun text next => text ++ " OR " ++ next.ruleText) first.ruleText

/-- A disjunction is written with a keyword between its parts. -/
theorem disjunctionText_eq (first : Condition) (rest : List Condition) :
    disjunctionText first rest = " OR ".intercalate (first.ruleText :: rest.map ruleText) := by
  unfold disjunctionText
  generalize first.ruleText = text
  induction rest generalizing text with
  | nil => rw [List.map_nil, String.intercalate_singleton, List.foldl_nil]
  | cons next rest ih =>
    rw [List.foldl_cons, ih, List.map_cons, String.intercalate_cons_cons,
      String.intercalate_cons_append]

/-- **Disjunctions need no parentheses.** Conditions with `OR` between them are read as their join
from the left, however many they are. -/
theorem ofText_disjunctionText {first : Condition} {rest : List Condition}
    (h : ∀ c ∈ first :: rest, c.IsWritable ∧ c.height ≤ maxNesting) :
    ofText .lenient (disjunctionText first rest) = .ok (rest.foldl (join .or) first) := by
  obtain ⟨⟨hwritable, hlow⟩, hrest⟩ := List.forall_mem_cons.1 h
  have htexts : List.Forall₂ (ReadsAs .lenient .comparison) (rest.map ruleText) rest := by
    rw [List.forall₂_map_left_iff, List.forall₂_same]
    intro c hc
    exact readsAs_ruleText (hrest c hc).1 (hrest c hc).2
  rw [disjunctionText_eq]
  exact (((readsAs_ruleText hwritable hlow).raise _).intercalate
    (Connective.ofKeyword_keyword .or) htexts).ofText

/-- A condition that is read from a text can be written. -/
theorem isWritable_of_ofText {mode : ParseMode} {text : String} {condition : Condition}
    (h : ofText mode text = .ok condition) : condition.IsWritable := by
  obtain ⟨tokens, htokens, hderives, -⟩ := ofText_eq_ok_iff.1 h
  exact isWritable_of_derives hderives (isFormed_of_tokenize htokens)

/-- Tokens that spell a condition too high for the parser are refused for their parentheses. -/
theorem ofTokens_of_spells {tokens : List Token} {condition : Condition}
    (h : Grammar.Spells tokens condition) (hhigh : maxNesting < condition.height) :
    ∃ position, ofTokens .lenient tokens = .error (.tooDeep position) := by
  have hdeep : Grammar.TooDeep (Grammar.wholeRule .lenient maxNesting) ⟨tokens, 0⟩ := by
    have hcomparison := h.tooDeep hhigh [] 0
    rw [List.append_nil] at hcomparison
    apply Grammar.TooDeep.bind
    rw [Grammar.expression_eq]
    exact (hcomparison.bind _).bind _
  obtain ⟨position, after, hrun⟩ := hdeep
  exact ⟨position, by rw [ofTokens_eq h.derives.ne_nil, hrun]⟩

/-- **Rule text is read back up to the bound on parentheses.** Whatever is read from a text can be
written. A condition that can be written is read back from its text as itself when no way from the
root to a leaf has more than `maxNesting` joins; and otherwise its text is refused because too many
parentheses are open, and for nothing else. -/
theorem ofText_ruleText :
    (∀ mode text condition, ofText mode text = .ok condition → condition.IsWritable) ∧
    ∀ condition : Condition, condition.IsWritable →
      (condition.height ≤ maxNesting → ofText .lenient condition.ruleText = .ok condition) ∧
      (maxNesting < condition.height →
        ∃ position, ofText .lenient condition.ruleText =
          .error (.ungrammatical (.tooDeep position))) := by
  refine ⟨fun mode text condition => isWritable_of_ofText, fun condition h => ?_⟩
  obtain ⟨tokens, htokens, hspells⟩ := tokenize_ruleText h
  have htext : ofText .lenient condition.ruleText =
      (ofTokens .lenient tokens).mapError .ungrammatical := by
    rw [ofText, htokens]
  refine ⟨fun hlow => ?_, fun hhigh => ?_⟩
  · rw [htext, Except.mapError_eq_ok_iff, ofTokens_eq_ok_iff]
    refine ⟨.ofConjunction (.ofComparison hspells.derives), ?_⟩
    rw [hspells.nestedWithin_iff]
    exact Int.ofNat_le.2 hlow
  · obtain ⟨position, hposition⟩ := ofTokens_of_spells hspells hhigh
    exact ⟨position, by rw [htext, hposition]; rfl⟩

/-- A flat chain of 256 joins is read back, and one of 257 joins is refused. -/
theorem ofText_ruleText_chain :
    let chain (length : Nat) : Condition :=
      (List.replicate length (name "x")).foldl (join .or) (name "x")
    ofText .lenient (chain 256).ruleText = .ok (chain 256) ∧
      ∃ position, ofText .lenient (chain 257).ruleText =
        .error (.ungrammatical (.tooDeep position)) := by
  intro chain
  have hname : (name "x").IsWritable := by
    refine (isWritable_leaf _).2 ⟨by decide, ?_⟩
    rintro (_ | _) <;> decide
  have hwritable : ∀ length, (chain length).IsWritable := by
    intro length
    refine List.foldlRecOn _ _ hname fun left hleft right hright => ?_
    rw [isWritable_join, (List.mem_replicate.1 hright).2]
    exact ⟨hleft, hname⟩
  have hheight : ∀ length, (chain length).height = length := by
    intro length
    have hflat : ∀ c ∈ List.replicate length (name "x"), c.height = 0 := by
      intro c hc
      rw [(List.mem_replicate.1 hc).2]
      rfl
    show (List.foldl (join .or) (name "x") (List.replicate length (name "x"))).height = length
    rw [height_foldl_join .or (name "x") hflat, List.length_replicate]
    exact Nat.zero_add length
  constructor
  · exact (ofText_ruleText.2 _ (hwritable 256)).1 (Nat.le_of_eq (hheight 256))
  · have hhigh : maxNesting < (chain 257).height :=
      Nat.lt_of_lt_of_eq (Nat.lt_succ_self 256) (hheight 257).symm
    exact (ofText_ruleText.2 _ (hwritable 257)).2 hhigh

end Condition

end Eligibility

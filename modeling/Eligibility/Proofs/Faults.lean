import Eligibility.Proofs.RepeatedReading

/-!
# What faults are about

A fault names a token, a place or an operand. `Blames` says, fault by fault, what is true of it when
a reader has taken some tokens and left others: a token is blamed that was taken last, a parenthesis
behind which a rule was read and no closing parenthesis is left.

* **Readers** (`Accountable`): when a reader of the grammar fails, its fault is about the tokens it
  has taken and left, and it goes on behind no text that cannot be cut out of its quotes. By
  induction on the number of parentheses that may be opened.
* **Calls** (`blames_of_parse`, `parse_eq_brokenText`): the faults of a fresh parser, of which two
  more are about the token behind a complete rule.
-/

namespace Eligibility

namespace Grammar

open TokenReader

variable {α β : Type} {mode : ParseMode}

/-! ### Faults and what is taken and left -/

/-- What it means that a reader has taken some tokens, left others and failed in some way. -/
inductive Blames (mode : ParseMode) : (taken left : List Token) → ParseError → Prop
  /-- The last token begins no operand. -/
  | unexpectedToken (front : List Token) {left : List Token} {found : Token}
      (hkind : found.kind ∉ [.leftParen, .name, .number, .text]) :
      Blames mode (front ++ [found]) left (.unexpectedToken found)
  /-- Nothing is left. -/
  | unexpectedEnd {taken : List Token} : Blames mode taken [] .unexpectedEnd
  /-- A rule stands behind the parenthesis, and no closing one behind the rule. -/
  | unclosedParen (front : List Token) {inside left : List Token} {opening : Token}
      {condition : Condition}
      (hopening : opening.kind = .leftParen)
      (hinside : Derives mode .disjunction inside condition)
      (hleft : ∀ token ∈ left.head?, token.kind ≠ .rightParen) :
      Blames mode (front ++ opening :: inside) left (.unclosedParen opening.position)
  /-- The last token is written as no finite number. -/
  | numberOutOfRange (front : List Token) {left : List Token} {found : Token}
      (hkind : found.kind = .number)
      (hvalue : Binary64.finiteOfChars? found.text.toList = none) :
      Blames mode (front ++ [found]) left (.numberOutOfRange found)
  /-- The last token is a parenthesis. -/
  | tooDeep (front : List Token) {left : List Token} {opening : Token}
      (hopening : opening.kind = .leftParen) :
      Blames mode (front ++ [opening]) left (.tooDeep opening.position)
  /-- The last token is a text that cannot be cut out of its quotes. -/
  | brokenText (front : List Token) {left : List Token} {found : Token}
      (hkind : found.kind = .text) (hcontent : found.content? = none) :
      Blames mode (front ++ [found]) left (.brokenText found)
  /-- Comparisons are refused for what they compare, and name no token. -/
  | leftNotName {taken left : List Token} : Blames mode taken left .leftNotName
  /-- As on the left. -/
  | rightNotLiteral {taken left : List Token} : Blames mode taken left .rightNotLiteral
  /-- Only strict readers refuse operands. -/
  | bareOperand {taken left : List Token} {operand : Operand} (hmode : mode = .strict) :
      Blames mode taken left (.bareOperand operand)

/-- A fault is not about what was taken before. -/
theorem Blames.append_left {taken left : List Token} {e : ParseError}
    (h : Blames mode taken left e) (front : List Token) : Blames mode (front ++ taken) left e := by
  cases h with
  | unexpectedToken _ hkind => rw [← List.append_assoc]; exact .unexpectedToken _ hkind
  | unexpectedEnd => exact .unexpectedEnd
  | unclosedParen _ hopening hinside hleft =>
    rw [← List.append_assoc]; exact .unclosedParen _ hopening hinside hleft
  | numberOutOfRange _ hkind hvalue =>
    rw [← List.append_assoc]; exact .numberOutOfRange _ hkind hvalue
  | tooDeep _ hopening => rw [← List.append_assoc]; exact .tooDeep _ hopening
  | brokenText _ hkind hcontent => rw [← List.append_assoc]; exact .brokenText _ hkind hcontent
  | leftNotName => exact .leftNotName
  | rightNotLiteral => exact .rightNotLiteral
  | bareOperand hmode => exact .bareOperand hmode

/-- The answer of a reader that has taken some tokens and left others: a fault is about these, and
it is the fault of each text among those taken that cannot be cut out of its quotes. -/
structure Explains (mode : ParseMode) (taken left : List Token) (answer : Except ParseError α) :
    Prop where
  blames : ∀ e, answer = .error e → Blames mode taken left e
  broken : ∀ token ∈ taken, token.kind = .text → token.content? = none →
    answer = .error (.brokenText token)

/-- From a cursor a reader has come to this end, which what it has taken and left explains. -/
def Explained (mode : ParseMode) (cursor : Cursor) (ended : Except ParseError α × Cursor) : Prop :=
  ∃ taken, cursor.pending = taken ++ ended.2.pending ∧
    Explains mode taken ended.2.pending ended.1

/-- However a reader ends, what it has taken and left explains it. -/
def Accountable (mode : ParseMode) (reader : TokenReader α) : Prop :=
  ∀ cursor, Explained mode cursor (reader.run cursor)

/-- Nothing was taken and nothing has failed. -/
theorem explained_ok (value : α) (cursor : Cursor) : Explained mode cursor (.ok value, cursor) :=
  ⟨[], rfl, by simp, by simp⟩

/-- One token was taken. -/
theorem explained_token {token : Token} {answer : Except ParseError α} {rest : List Token}
    (hblames : ∀ e, answer = .error e → Blames mode [token] rest e)
    (hbroken : token.kind = .text → token.content? = none → answer = .error (.brokenText token))
    (depth depth' : Nat) : Explained mode ⟨token :: rest, depth⟩ (answer, ⟨rest, depth'⟩) := by
  refine ⟨[token], rfl, hblames, fun found hfound hkind hcontent => ?_⟩
  obtain rfl : found = token := by simpa using hfound
  exact hbroken hkind hcontent

/-- One token was taken that is no text, and nothing has failed. -/
theorem explained_taken {token : Token} (hkind : token.kind ≠ .text) (value : α)
    (rest : List Token) (depth depth' : Nat) :
    Explained mode ⟨token :: rest, depth⟩ (.ok value, ⟨rest, depth'⟩) :=
  explained_token (by simp) (fun htext => absurd htext hkind) depth depth'

/-- One token was taken that is no text, and a fault is about it. -/
theorem explained_refused {token : Token} {e : ParseError} {rest : List Token}
    (hkind : token.kind ≠ .text) (h : Blames mode [token] rest e) (depth depth' : Nat) :
    Explained mode ⟨token :: rest, depth⟩
      ((.error e, ⟨rest, depth'⟩) : Except ParseError α × Cursor) := by
  refine explained_token (fun e' he => ?_) (fun htext => absurd htext hkind) depth depth'
  cases he
  exact h

/-- What follows on a reading without a fault is explained as a whole. -/
theorem Explained.trans {value : α} {cursor after : Cursor} {ended : Except ParseError β × Cursor}
    (h : Explained mode cursor ((.ok value, after) : Except ParseError α × Cursor))
    (hnext : Explained mode after ended) : Explained mode cursor ended := by
  obtain ⟨first, hpending, hfirst⟩ := h
  obtain ⟨second, hafter, hsecond⟩ := hnext
  refine ⟨first ++ second, ?_, fun e he => (hsecond.blames e he).append_left first, ?_⟩
  · rw [List.append_assoc, ← hafter]
    exact hpending
  · intro token htoken hkind hcontent
    obtain hmem | hmem := List.mem_append.1 htoken
    · cases hfirst.broken token hmem hkind hcontent
    · exact hsecond.broken token hmem hkind hcontent

/-- A fault ends one type of reading as it ends another. -/
theorem Explained.of_error {cursor after : Cursor} {e : ParseError}
    (h : Explained mode cursor ((.error e, after) : Except ParseError α × Cursor)) :
    Explained mode cursor ((.error e, after) : Except ParseError β × Cursor) := by
  obtain ⟨taken, hpending, hblames, hbroken⟩ := h
  refine ⟨taken, hpending, fun e' he => hblames e' (congrArg _ (Except.error.inj he)), ?_⟩
  intro token htoken hkind hcontent
  exact congrArg _ (Except.error.inj (hbroken token htoken hkind hcontent))

/-- A value takes nothing, so there is nothing to explain. -/
theorem accountable_pure (value : α) : Accountable mode (pure value : TokenReader α) :=
  explained_ok value

/-- One accountable reader after the other is accountable. -/
theorem Accountable.bind {reader : TokenReader α} {next : α → TokenReader β}
    (h : Accountable mode reader) (hnext : ∀ value, Accountable mode (next value)) :
    Accountable mode (reader >>= next) := by
  intro cursor
  have hfirst := h cursor
  rw [run_bind]
  rcases hrun : reader.run cursor with ⟨e | value, after⟩
  · rw [hrun] at hfirst
    exact hfirst.of_error
  · rw [hrun] at hfirst
    exact hfirst.trans (hnext value after)

/-- Faults that are about no tokens. -/
theorem accountable_fail {e : ParseError} (h : ∀ left, Blames mode [] left e) :
    Accountable mode (fail e : TokenReader α) := by
  refine fun cursor => ⟨[], rfl, fun e' he => ?_, by simp⟩
  cases he
  exact h _

/-! ### The readers of the grammar -/

/-- A comparator is no text, and reading one never fails. -/
theorem accountable_comparator? : Accountable mode comparator? := by
  rintro ⟨_ | ⟨token, rest⟩, depth⟩
  · exact explained_ok none _
  · rw [comparator?, run_bind, run_peek]
    simp only [List.head?_cons]
    split
    · rename_i comparator hkind
      exact explained_taken (by simp [hkind]) (some comparator) rest depth depth
    · exact explained_ok none _

/-- What two sides of the wrong kind are refused for is about no token. -/
theorem accountable_compared (comparator : Comparator) (left right : Primary) :
    Accountable mode (compared comparator left right) := by
  unfold compared
  split
  · exact accountable_pure _
  · exact accountable_pure _
  · exact accountable_fail fun _ => .rightNotLiteral
  · exact accountable_fail fun _ => .leftNotName

/-- Only strict readers refuse an operand, and this is about no token. -/
theorem accountable_bareOperand (operand : Operand) :
    Accountable mode (bareOperand mode operand) := by
  cases mode with
  | lenient => exact accountable_pure _
  | strict => exact accountable_fail fun _ => .bareOperand rfl

/-- The parenthesis that closes another one is taken. -/
theorem closeParen_of_rightParen {closing : Token} (h : closing.kind = .rightParen)
    (opened depth : Nat) (rest : List Token) :
    (closeParen opened).run ⟨closing :: rest, depth⟩ = (.ok (), ⟨rest, depth⟩) := by
  simp [closeParen, run_bind, h]

/-- Anything else leaves a parenthesis unclosed. -/
theorem closeParen_of_other {left : List Token}
    (h : ∀ token ∈ left.head?, token.kind ≠ .rightParen) (opened depth : Nat) :
    (closeParen opened).run ⟨left, depth⟩ = (.error (.unclosedParen opened), ⟨left, depth⟩) := by
  rcases left with _ | ⟨token, rest⟩
  · rfl
  · simp [closeParen, run_bind, h token rfl]

/-- A token that opens no parenthesis is read as an operand or refused. -/
theorem explained_operandOf {token : Token} (hopening : token.kind ≠ .leftParen)
    (rest : List Token) (depth : Nat) :
    Explained mode ⟨token :: rest, depth⟩ ((operandOf token).run ⟨rest, depth⟩) := by
  unfold operandOf
  split
  · rename_i hkind
    exact explained_taken (by simp [hkind]) _ rest depth depth
  · rename_i hkind
    unfold numberOf
    split
    · exact explained_taken (by simp [hkind]) _ rest depth depth
    · rename_i hvalue
      exact explained_refused (by simp [hkind]) (.numberOutOfRange [] hkind hvalue)
        depth depth
  · rename_i hkind
    unfold textOf
    split
    · rename_i hcontent
      exact explained_token (by simp) (by simp [hcontent]) depth depth
    · rename_i hcontent
      refine explained_token (fun e he => ?_) (fun _ _ => rfl) depth depth
      cases he
      exact .brokenText [] hkind hcontent
  · rename_i hname hnumber htext
    refine explained_refused htext (.unexpectedToken [] ?_) depth depth
    simpa [hopening] using ⟨hname, hnumber, htext⟩

/-- A parenthesis behind which a rule was read is blamed for what stands behind the rule. -/
theorem explained_unclosed {opening : Token} {inside left : List Token} {condition : Condition}
    {value : α} {depth within : Nat} (hopening : opening.kind = .leftParen)
    (hinside : Derives mode .disjunction inside condition)
    (hleft : ∀ token ∈ left.head?, token.kind ≠ .rightParen)
    (h : Explained mode ⟨opening :: (inside ++ left), depth⟩
      ((.ok value, ⟨left, within⟩) : Except ParseError α × Cursor)) (within' : Nat) :
    Explained mode ⟨opening :: (inside ++ left), depth⟩
      ((.error (.unclosedParen opening.position), ⟨left, within'⟩) :
        Except ParseError β × Cursor) := by
  obtain ⟨taken, hpending, -, hbroken⟩ := h
  obtain rfl : opening :: inside = taken := List.append_cancel_right hpending
  refine ⟨opening :: inside, rfl, fun e he => ?_, fun token htoken hkind hcontent => ?_⟩
  · cases he
    exact .unclosedParen [] hopening hinside hleft
  · cases hbroken token htoken hkind hcontent

variable {inner? : Option (TokenReader Condition)} {item : TokenReader Condition}

/-- A primary is accountable when the rule inside its parentheses is, and is derived. -/
theorem accountable_primary (h : ∀ inner ∈ inner?, Accountable mode inner)
    (hderives : ∀ inner ∈ inner?, Takes inner (Derives mode .disjunction)) :
    Accountable mode (primary inner?) := by
  rintro ⟨_ | ⟨token, rest⟩, depth⟩
  · exact ⟨[], rfl, fun e he => by cases he; exact .unexpectedEnd, by simp⟩
  rw [primary, run_bind, run_next_cons]
  simp only
  split
  · rename_i hopening
    have hkind : token.kind ≠ .text := by simp [hopening]
    rcases inner? with _ | inner
    · exact explained_refused hkind (.tooDeep [] hopening) depth depth
    have hinner : Explained mode ⟨token :: rest, depth⟩ (inner.run ⟨rest, depth + 1⟩) :=
      (explained_taken hkind () rest depth (depth + 1)).trans (h inner rfl _)
    rw [run_bind, run_nested]
    rcases hrun : inner.run ⟨rest, depth + 1⟩ with ⟨e | condition, ⟨left, within⟩⟩
    · rw [hrun] at hinner
      exact hinner.of_error
    rw [hrun] at hinner
    simp only
    rw [run_bind]
    by_cases hclosing : ∀ closing ∈ left.head?, closing.kind ≠ .rightParen
    · obtain ⟨inside, hrest, hinside, -⟩ := hderives inner rfl _ _ _ hrun
      obtain rfl : rest = inside ++ left := hrest
      rw [closeParen_of_other hclosing]
      exact explained_unclosed hopening hinside hclosing hinner _
    · rcases left with _ | ⟨closing, left⟩
      · simp at hclosing
      have hclosing : closing.kind = .rightParen := by simpa using hclosing
      rw [closeParen_of_rightParen hclosing]
      exact hinner.trans (explained_taken (by simp [hclosing]) _ left within _)
  · rename_i hopening
    have hoperand : Explained mode _ _ := explained_operandOf hopening rest depth
    rw [run_bind]
    rcases hrun : (operandOf token).run ⟨rest, depth⟩ with ⟨e | operand, after⟩
    · rw [hrun] at hoperand
      exact hoperand.of_error
    · rw [hrun] at hoperand
      exact hoperand.trans (explained_ok _ _)

/-- A comparison is accountable when the rule inside its parentheses is, and is derived. -/
theorem accountable_comparison (h : ∀ inner ∈ inner?, Accountable mode inner)
    (hderives : ∀ inner ∈ inner?, Takes inner (Derives mode .disjunction)) :
    Accountable mode (comparison mode inner?) := by
  unfold comparison
  apply (accountable_primary h hderives).bind
  intro left
  apply accountable_comparator?.bind
  rintro (_ | comparator)
  · cases left with
    | group condition => exact accountable_pure _
    | operand operand => exact accountable_bareOperand operand
  · exact (accountable_primary h hderives).bind fun right =>
      accountable_compared comparator left right

/-- A chain is accountable when its items are. -/
theorem accountable_chain (connective : Connective) (h : Accountable mode item) :
    Accountable mode (chain connective item) := by
  have hchain : ∀ left cursor,
      Explained mode cursor (chainFrom connective item left cursor) := by
    intro left cursor
    fun_induction chainFrom connective item left cursor with
    | case1 => exact explained_ok _ _
    | case2 left cursor token rest hpending hkind e after hitem =>
      have hended := h { cursor with pending := rest }
      rw [hitem] at hended
      obtain ⟨_, depth⟩ := cursor
      obtain rfl : _ = token :: rest := hpending
      exact (explained_taken (by simp [hkind]) () rest depth depth).trans hended
    | case3 left cursor token rest hpending hkind right after hitem ih =>
      have hended := h { cursor with pending := rest }
      rw [hitem] at hended
      obtain ⟨_, depth⟩ := cursor
      obtain rfl : _ = token :: rest := hpending
      exact (explained_taken (by simp [hkind]) () rest depth depth).trans (hended.trans ih)
    | case4 => exact explained_ok _ _
  unfold chain
  apply h.bind
  exact hchain

/-- The rules inside parentheses are derived. -/
theorem takes_of_mem_inner? {allowance : Nat} {inner : TokenReader Condition}
    (h : inner ∈ Grammar.inner? mode allowance) : Takes inner (Derives mode .disjunction) := by
  rcases allowance with _ | below
  · cases h
  · cases h
    intro cursor condition after hrun
    obtain ⟨taken, htaken, hderives, hdepth⟩ := expression_takes mode below _ _ _ hrun
    exact ⟨taken, htaken, hderives.1, hdepth⟩

/-- **A rule is read by an accountable reader**, however many parentheses may be opened. -/
theorem accountable_expression (mode : ParseMode) (allowance : Nat) :
    Accountable mode (expression mode allowance) :=
  expression_induction
    (fun _ h => accountable_comparison h fun _ hinner => takes_of_mem_inner? hinner)
    (fun _ _ => accountable_chain _) allowance

/-! ### Whole rules -/

/-- What it means that all tokens should be one rule, some were taken and others left, and reading
them has failed in some way. -/
inductive BlamesWhole (mode : ParseMode) : (taken left : List Token) → ParseError → Prop
  /-- The fault is in the rule. -/
  | within {taken left : List Token} {e : ParseError} (h : Blames mode taken left e) :
      BlamesWhole mode taken left e
  /-- A closing parenthesis is left behind a rule. -/
  | unmatchedParen {taken rest : List Token} {closing : Token} {condition : Condition}
      (htaken : Derives mode .disjunction taken condition) (hclosing : closing.kind = .rightParen) :
      BlamesWhole mode taken (closing :: rest) (.unmatchedParen closing.position)
  /-- Some other token is left behind a rule. -/
  | trailingToken {taken rest : List Token} {found : Token} {condition : Condition}
      (htaken : Derives mode .disjunction taken condition) (hkind : found.kind ≠ .rightParen) :
      BlamesWhole mode taken (found :: rest) (.trailingToken found)

/-- A token behind a rule is blamed. -/
theorem blames_of_finish {taken : List Token} {condition : Condition}
    (htaken : Derives mode .disjunction taken condition) {cursor after : Cursor} {e : ParseError}
    (h : finish.run cursor = (.error e, after)) :
    after = cursor ∧ BlamesWhole mode taken cursor.pending e := by
  rw [finish, run_bind, run_peek] at h
  rcases hpending : cursor.pending with _ | ⟨token, rest⟩
  · rw [hpending] at h
    cases h
  · rw [hpending] at h
    simp only [List.head?_cons] at h
    split at h
    · rename_i hclosing
      cases h
      exact ⟨rfl, .unmatchedParen htaken hclosing⟩
    · rename_i hkind
      cases h
      exact ⟨rfl, .trailingToken htaken hkind⟩

/-- The answer when all tokens should be one rule: a fault is about the tokens that were taken and
left, and it is the fault of each text among those taken that cannot be cut out of its quotes. -/
theorem explains_wholeRule {mode : ParseMode} {allowance : Nat} {cursor after : Cursor}
    {answer : Except ParseError Condition}
    (h : (wholeRule mode allowance).run cursor = (answer, after)) :
    ∃ taken, cursor.pending = taken ++ after.pending ∧
      (∀ e, answer = .error e → BlamesWhole mode taken after.pending e) ∧
      ∀ token ∈ taken, token.kind = .text → token.content? = none →
        answer = .error (.brokenText token) := by
  obtain ⟨taken, hpending, hblames, hbroken⟩ := accountable_expression mode allowance cursor
  rw [wholeRule, run_bind] at h
  rcases hrun : (expression mode allowance).run cursor with ⟨e | condition, between⟩
  · rw [hrun] at h hpending hblames hbroken
    cases h
    refine ⟨taken, hpending, fun e' he => ?_, fun token htoken hkind hcontent => ?_⟩
    · cases he
      exact .within (hblames e rfl)
    · exact congrArg _ (Except.error.inj (hbroken token htoken hkind hcontent))
  · rw [hrun] at h hpending hblames hbroken
    obtain ⟨inside, htaken, ⟨hderives, -⟩, -⟩ := expression_takes mode allowance _ _ _ hrun
    obtain rfl : taken = inside := List.append_cancel_right (hpending.symm.trans htaken)
    simp only [run_bind] at h
    -- behind a rule that was read nothing more is taken
    have hafter : after = between ∧
        ∀ e, answer = .error e → BlamesWhole mode taken between.pending e := by
      rcases hfinish : finish.run between with ⟨e | _, last⟩
      · rw [hfinish] at h
        cases h
        obtain ⟨rfl, hblames⟩ := blames_of_finish hderives hfinish
        exact ⟨rfl, fun e' he => by cases he; exact hblames⟩
      · rw [hfinish] at h
        cases h
        exact ⟨(of_finish_run hfinish).2, fun e he => by cases he⟩
    obtain ⟨rfl, hblames⟩ := hafter
    refine ⟨taken, hpending, hblames, fun token htoken hkind hcontent => ?_⟩
    cases hbroken token htoken hkind hcontent

end Grammar

namespace Parser

/-! ### Calls -/

/-- **The faults of a fresh parser** are about the tokens it has taken and those it has left. -/
theorem blames_of_parse {mode : ParseMode} {tokens : List Token} {e : ParseError}
    (hsome : tokens ≠ []) (h : ({ tokens, mode } : Parser).parse.1 = .error e) :
    Grammar.BlamesWhole mode (tokens.take ({ tokens, mode } : Parser).parse.2.consumed)
      (tokens.drop ({ tokens, mode } : Parser).parse.2.consumed) e := by
  rcases hrun : (Grammar.wholeRule mode maxNesting).run ⟨tokens, 0⟩ with ⟨answer, ⟨left, depth⟩⟩
  obtain ⟨taken, htokens, hblames, -⟩ := Grammar.explains_wholeRule hrun
  obtain rfl : tokens = taken ++ left := htokens
  rw [parse_of_run hsome hrun] at h ⊢
  rw [List.take_left, List.drop_left]
  exact hblames e h

/-- A fresh parser goes on behind no text that cannot be cut out of its quotes. -/
theorem parse_eq_brokenText {mode : ParseMode} {tokens : List Token} {found : Token}
    (hfound : found ∈ tokens.take ({ tokens, mode } : Parser).parse.2.consumed)
    (hkind : found.kind = .text) (hcontent : found.content? = none) :
    ({ tokens, mode } : Parser).parse.1 = .error (.brokenText found) := by
  have hsome : tokens ≠ [] := by
    rintro rfl
    simp at hfound
  rcases hrun : (Grammar.wholeRule mode maxNesting).run ⟨tokens, 0⟩ with ⟨answer, ⟨left, depth⟩⟩
  obtain ⟨taken, htokens, -, hbroken⟩ := Grammar.explains_wholeRule hrun
  obtain rfl : tokens = taken ++ left := htokens
  rw [parse_of_run hsome hrun] at hfound ⊢
  rw [List.take_left] at hfound
  exact hbroken found hfound hkind hcontent

end Parser

end Eligibility

import Eligibility.Proofs.Parsing

/-!
# Reading again

A parser keeps its tokens, its place and the number of open parentheses from one call to the next,
whether a call succeeds or fails. The place is all that counts: every call is that of a fresh parser
over the tokens that are left.

* **Readers** (`OrderlyAlong`): a reader is orderly when it leaves as many parentheses open as there
  were, however it ends. All readers of the grammar are (`orderly_wholeRule`); by induction on the
  number of parentheses that may be opened, since a fault inside parentheses leaves through all
  levels above it. Along with that goes what only a parser complains of, that there are no tokens,
  and what nobody complains of where texts stand between quotes.
* **One call** (`IsAtRest.parse`): between calls no parenthesis is open, and the place is not behind
  the end. `IsAtRest.parse_eq_renewed` and `IsAtRest.parse_eq_exhausted` say what the call of such a
  parser has to do with that of a fresh one.
* **Many calls** (`parse_again`): by induction on their number.
-/

namespace Eligibility

namespace Grammar

open TokenReader

/-! ### Orderly readers -/

variable {α β : Type} {tokens : List Token}

/-- A text token among these cannot be cut out of its quotes. -/
def Broken (tokens : List Token) (found : Token) : Prop :=
  found ∈ tokens ∧ found.kind = .text ∧ found.content? = none

/-- A reader along these tokens has ended with as many open parentheses as this. It has not
complained that there are no tokens, nor of quotes that can be cut off. -/
structure EndsOrderly (tokens : List Token) (depth : Nat) (ended : Except ParseError α × Cursor) :
    Prop where
  depth_eq : ended.2.depth = depth
  ne_empty : ended.1 ≠ .error .empty
  broken : ∀ found, ended.1 = .error (.brokenText found) → Broken tokens found

/-- However it ends, a reader along these tokens leaves as many parentheses open as there were. -/
def OrderlyAlong (tokens : List Token) (reader : TokenReader α) : Prop :=
  ∀ cursor, cursor.pending ⊆ tokens → EndsOrderly tokens cursor.depth (reader.run cursor)

/-- Where nothing was taken and nothing has failed, a reading ends orderly. -/
theorem EndsOrderly.of_ok {value : α} {cursor : Cursor} :
    EndsOrderly tokens cursor.depth (.ok value, cursor) :=
  ⟨rfl, by simp, by simp⟩

/-- A value is given orderly. -/
theorem orderly_pure (value : α) : OrderlyAlong tokens (pure value : TokenReader α) :=
  fun _ _ => .of_ok

/-- Nearly all faults are orderly. -/
theorem orderly_fail {e : ParseError} (hempty : e ≠ .empty)
    (hbroken : ∀ found, e = .brokenText found → Broken tokens found) :
    OrderlyAlong tokens (fail e : TokenReader α) := by
  intro cursor _
  refine ⟨rfl, fun heq => hempty (Except.error.inj heq), fun found heq => ?_⟩
  exact hbroken found (Except.error.inj heq)

/-- A fault ends one type of reading as it ends another. -/
theorem EndsOrderly.of_error {depth : Nat} {e : ParseError} {after : Cursor}
    (h : EndsOrderly (α := α) tokens depth (.error e, after)) :
    EndsOrderly (α := β) tokens depth (.error e, after) where
  depth_eq := h.depth_eq
  ne_empty heq := h.ne_empty (congrArg Except.error (Except.error.inj heq))
  broken found heq := h.broken found (congrArg Except.error (Except.error.inj heq))

/-- One orderly reader after the other is orderly. -/
theorem OrderlyAlong.bind {reader : TokenReader α} {next : α → TokenReader β}
    (h : OrderlyAlong tokens reader) (hnext : ∀ value, OrderlyAlong tokens (next value)) :
    OrderlyAlong tokens (reader >>= next) := by
  intro cursor hpending
  have hfirst := h cursor hpending
  have hleft := List.Subset.trans (reader.suffix cursor).subset hpending
  rw [run_bind]
  rcases hrun : reader.run cursor with ⟨e | value, after⟩
  · rw [hrun] at hfirst
    exact hfirst.of_error
  · rw [hrun] at hfirst hleft
    rw [← hfirst.depth_eq]
    exact hnext value after hleft

/-- A look at the next token is orderly. -/
theorem orderly_peek : OrderlyAlong tokens peek :=
  fun _ _ => .of_ok

/-- What goes on behind one of the tokens may have to do with it. -/
theorem orderly_next_bind {next : Token → TokenReader α}
    (hnext : ∀ token ∈ tokens, OrderlyAlong tokens (next token)) :
    OrderlyAlong tokens (TokenReader.next >>= next) := by
  rintro ⟨_ | ⟨token, rest⟩, depth⟩ hpending
  · rw [run_bind, run_next_nil]
    exact ⟨rfl, by simp, by simp⟩
  · obtain ⟨htoken, hrest⟩ := List.cons_subset.1 hpending
    exact hnext token htoken ⟨rest, depth⟩ hrest

/-- What is opened for an orderly reader is closed behind it. -/
theorem OrderlyAlong.nested {reader : TokenReader α} (h : OrderlyAlong tokens reader) :
    OrderlyAlong tokens (nested reader) := by
  intro cursor hpending
  have hinner := h { cursor with depth := cursor.depth + 1 } hpending
  rw [run_nested]
  exact ⟨by rw [hinner.depth_eq, Nat.add_sub_cancel], hinner.ne_empty, hinner.broken⟩

/-! ### The readers of the grammar -/

/-- A token of the parser is read as an operand orderly. -/
theorem orderly_operandOf {token : Token} (htoken : token ∈ tokens) :
    OrderlyAlong tokens (operandOf token) := by
  unfold operandOf
  split
  · exact orderly_pure _
  · unfold numberOf
    split
    · exact orderly_pure _
    · exact orderly_fail (by simp) (by simp)
  · rename_i hkind
    unfold textOf
    split
    · exact orderly_pure _
    · rename_i hcontent
      apply orderly_fail (by simp)
      rintro found ⟨⟩
      exact ⟨htoken, hkind, hcontent⟩
  · exact orderly_fail (by simp) (by simp)

/-- A parenthesis is closed orderly. -/
theorem orderly_closeParen (opened : Nat) : OrderlyAlong tokens (closeParen opened) := by
  unfold closeParen
  apply orderly_peek.bind
  rintro (_ | token)
  · exact orderly_fail (by simp) (by simp)
  · simp only
    split
    · exact orderly_next_bind fun _ _ => orderly_pure _
    · exact orderly_fail (by simp) (by simp)

/-- A comparator is looked for orderly. -/
theorem orderly_comparator? : OrderlyAlong tokens comparator? := by
  unfold comparator?
  apply orderly_peek.bind
  rintro (_ | token)
  · exact orderly_pure _
  · simp only
    split
    · exact orderly_next_bind fun _ _ => orderly_pure _
    · exact orderly_pure _

/-- Two sides are compared orderly. -/
theorem orderly_compared (comparator : Comparator) (left right : Primary) :
    OrderlyAlong tokens (compared comparator left right) := by
  unfold compared
  split
  · exact orderly_pure _
  · exact orderly_pure _
  · exact orderly_fail (by simp) (by simp)
  · exact orderly_fail (by simp) (by simp)

/-- An operand is kept or refused orderly. -/
theorem orderly_bareOperand (mode : ParseMode) (operand : Operand) :
    OrderlyAlong tokens (bareOperand mode operand) := by
  cases mode with
  | lenient => exact orderly_pure _
  | strict => exact orderly_fail (by simp) (by simp)

variable {inner? : Option (TokenReader Condition)} {item : TokenReader Condition}

/-- A primary is read in an orderly way when the rule inside its parentheses is. -/
theorem orderly_primary (h : ∀ inner ∈ inner?, OrderlyAlong tokens inner) :
    OrderlyAlong tokens (primary inner?) := by
  unfold primary
  apply orderly_next_bind
  intro token htoken
  split
  · rcases inner? with _ | inner
    · exact orderly_fail (by simp) (by simp)
    · apply (h inner rfl).nested.bind
      intro condition
      exact (orderly_closeParen _).bind fun _ => orderly_pure _
  · exact (orderly_operandOf htoken).bind fun _ => orderly_pure _

/-- A comparison is read orderly when the rule inside its parentheses is. -/
theorem orderly_comparison (mode : ParseMode) (h : ∀ inner ∈ inner?, OrderlyAlong tokens inner) :
    OrderlyAlong tokens (comparison mode inner?) := by
  unfold comparison
  apply (orderly_primary h).bind
  intro left
  apply orderly_comparator?.bind
  rintro (_ | comparator)
  · cases left with
    | group condition => exact orderly_pure _
    | operand operand => exact orderly_bareOperand mode operand
  · exact (orderly_primary h).bind fun right => orderly_compared comparator left right

/-- A chain is read in an orderly way when its items are. -/
theorem orderly_chain (connective : Connective) (h : OrderlyAlong tokens item) :
    OrderlyAlong tokens (chain connective item) := by
  have hchain : ∀ left cursor, cursor.pending ⊆ tokens →
      EndsOrderly tokens cursor.depth (chainFrom connective item left cursor) := by
    intro left cursor
    fun_induction chainFrom connective item left cursor with
    | case1 => exact fun _ => .of_ok
    | case2 left cursor token rest hpending hkind e after hitem =>
      intro hsub
      rw [hpending] at hsub
      have hended := h { cursor with pending := rest } (List.cons_subset.1 hsub).2
      rwa [hitem] at hended
    | case3 left cursor token rest hpending hkind right after hitem ih =>
      intro hsub
      rw [hpending] at hsub
      have hrest := (List.cons_subset.1 hsub).2
      have hended := h { cursor with pending := rest } hrest
      have hleft := List.Subset.trans (item.suffix { cursor with pending := rest }).subset hrest
      rw [hitem] at hended hleft
      rw [← hended.depth_eq]
      exact ih hleft
    | case4 => exact fun _ => .of_ok
  unfold chain
  apply h.bind
  exact hchain

/-- What holds of a comparison when it holds of the rules inside its parentheses, and of a chain
when it holds of its items, holds of every rule. -/
theorem expression_induction {holds : TokenReader Condition → Prop} {mode : ParseMode}
    (hcomparison : ∀ allowance, (∀ inner ∈ Grammar.inner? mode allowance, holds inner) →
      holds (comparison mode (Grammar.inner? mode allowance)))
    (hchain : ∀ connective item, holds item → holds (chain connective item)) (allowance : Nat) :
    holds (expression mode allowance) := by
  have hdisjunction : ∀ allowance, (∀ inner ∈ Grammar.inner? mode allowance, holds inner) →
      holds (disjunction mode (Grammar.inner? mode allowance)) :=
    fun allowance h => hchain .or _ (hchain .and _ (hcomparison allowance h))
  induction allowance with
  | zero => exact hdisjunction 0 fun inner h => by cases h
  | succ below ih =>
    apply hdisjunction (below + 1)
    rintro inner ⟨⟩
    exact ih

/-- **A rule is read in an orderly way**, however many parentheses may be opened. -/
theorem orderly_expression (mode : ParseMode) (allowance : Nat) :
    OrderlyAlong tokens (expression mode allowance) :=
  expression_induction (fun _ => orderly_comparison mode) (fun _ _ => orderly_chain _) allowance

/-- It is orderly to ask whether a rule is all there is. -/
theorem orderly_finish : OrderlyAlong tokens finish := by
  unfold finish
  apply orderly_peek.bind
  rintro (_ | token)
  · exact orderly_pure _
  · simp only
    split
    · exact orderly_fail (by simp) (by simp)
    · exact orderly_fail (by simp) (by simp)

/-- All tokens are read orderly as one rule. -/
theorem orderly_wholeRule (mode : ParseMode) (allowance : Nat) :
    OrderlyAlong tokens (wholeRule mode allowance) := by
  unfold wholeRule
  apply (orderly_expression mode allowance).bind
  intro condition
  exact orderly_finish.bind fun _ => orderly_pure _

/-- Where no tokens are left, an operand is still due. -/
theorem wholeRule_nil (mode : ParseMode) (allowance depth : Nat) :
    (wholeRule mode allowance).run ⟨[], depth⟩ = (.error .unexpectedEnd, ⟨[], depth⟩) := by
  cases allowance <;> rfl

end Grammar

namespace Parser

/-! ### One call -/

/-- No parenthesis is open, and the place is not behind the end. -/
structure IsAtRest (parser : Parser) : Prop where
  depth_eq : parser.depth = 0
  consumed_le : parser.consumed ≤ parser.tokens.length

/-- A fresh parser over the tokens that are left. -/
def renewed (parser : Parser) : Parser :=
  { tokens := parser.tokens.drop parser.consumed, mode := parser.mode }

/-- What is read in the tokens that are left, when no parenthesis is open. -/
def reading (parser : Parser) : Except ParseError Condition × Cursor :=
  (Grammar.wholeRule parser.mode maxNesting).run ⟨parser.tokens.drop parser.consumed, 0⟩

variable {parser : Parser}

/-- The reading of a call ends orderly. -/
theorem orderly_reading (parser : Parser) :
    Grammar.EndsOrderly parser.renewed.tokens 0 parser.reading :=
  Grammar.orderly_wholeRule parser.mode maxNesting ⟨parser.renewed.tokens, 0⟩ (List.Subset.refl _)

/-- A call leaves no more tokens than it finds. -/
theorem length_reading_le (parser : Parser) :
    parser.reading.2.pending.length ≤ parser.tokens.length - parser.consumed := by
  have h := (Grammar.wholeRule parser.mode maxNesting).suffix ⟨parser.renewed.tokens, 0⟩
  rw [← List.length_drop]
  exact h.length_le

/-- A fresh parser is at rest. -/
theorem isAtRest_renewed (parser : Parser) : parser.renewed.IsAtRest :=
  ⟨rfl, Nat.zero_le _⟩

/-- Without tokens there is no reading. -/
theorem parse_of_nil (h : parser.tokens = []) : parser.parse = (.error .empty, parser) := by
  unfold parse
  rw [if_pos (by simpa using h)]

/-- With tokens a parser at rest reads those that are left, and stays where the reading ends. -/
theorem IsAtRest.parse_eq_reading (h : parser.IsAtRest) (hsome : parser.tokens ≠ []) :
    parser.parse = (parser.reading.1,
      { parser with consumed := parser.tokens.length - parser.reading.2.pending.length }) := by
  have hrun : (Grammar.wholeRule parser.mode (maxNesting - parser.depth)).run parser.cursor =
      parser.reading := by
    unfold reading cursor
    rw [h.depth_eq]
    rfl
  unfold parse
  rw [if_neg (by simpa using hsome), hrun]
  show (parser.reading.1, parser.moveTo parser.reading.2) = _
  unfold moveTo
  rw [(orderly_reading parser).depth_eq, h.depth_eq]

/-- The call of a fresh parser, put as what its reading takes and what it leaves. -/
theorem parse_of_run {mode : ParseMode} {taken left : List Token}
    {answer : Except ParseError Condition} {depth : Nat} (hsome : taken ++ left ≠ [])
    (hrun : (Grammar.wholeRule mode maxNesting).run ⟨taken ++ left, 0⟩ =
      (answer, ⟨left, depth⟩)) :
    ({ tokens := taken ++ left, mode } : Parser).parse =
      (answer, { tokens := taken ++ left, consumed := taken.length, mode }) := by
  have hfresh : ({ tokens := taken ++ left, mode } : Parser).IsAtRest := ⟨rfl, Nat.zero_le _⟩
  have hreading : ({ tokens := taken ++ left, mode } : Parser).reading =
      (answer, ⟨left, depth⟩) := hrun
  rw [hfresh.parse_eq_reading hsome, hreading]
  simp

/-- **The call of a parser at rest** is that of a fresh one over the tokens that are left, and goes
on by as many tokens. -/
theorem IsAtRest.parse_eq_renewed (h : parser.IsAtRest) (hleft : parser.renewed.tokens ≠ []) :
    parser.parse =
      (parser.renewed.parse.1,
        { parser with consumed := parser.consumed + parser.renewed.parse.2.consumed }) := by
  have hsome : parser.tokens ≠ [] := by
    intro hnil
    exact hleft (by simp [renewed, hnil])
  have hle := length_reading_le parser
  have hrest := h.consumed_le
  have hfresh := (isAtRest_renewed parser).parse_eq_reading hleft
  have hlength : parser.renewed.tokens.length = parser.tokens.length - parser.consumed :=
    List.length_drop
  -- both parsers count what they have taken from what the same reading leaves
  have hconsumed : parser.tokens.length - parser.reading.2.pending.length =
      parser.consumed +
        (parser.renewed.tokens.length - parser.reading.2.pending.length) := by
    omega
  rw [h.parse_eq_reading hsome, hfresh, hconsumed]
  rfl

/-- Where no tokens are left of some, a parser at rest says that they have ended. -/
theorem IsAtRest.parse_eq_exhausted (h : parser.IsAtRest) (hsome : parser.tokens ≠ [])
    (hleft : parser.renewed.tokens = []) : parser.parse = (.error .unexpectedEnd, parser) := by
  have hreading : parser.reading = (.error .unexpectedEnd, ⟨[], 0⟩) := by
    unfold reading
    rw [show parser.tokens.drop parser.consumed = [] from hleft]
    exact Grammar.wholeRule_nil _ _ _
  have hconsumed : parser.tokens.length = parser.consumed :=
    Nat.le_antisymm (List.drop_eq_nil_iff.1 hleft) h.consumed_le
  rw [h.parse_eq_reading hsome, hreading]
  simp [hconsumed]

/-- A call leaves a parser at rest, over the same tokens and in the same mode. -/
theorem IsAtRest.parse (h : parser.IsAtRest) :
    parser.parse.2.IsAtRest ∧ parser.parse.2.tokens = parser.tokens ∧
      parser.parse.2.mode = parser.mode := by
  by_cases hsome : parser.tokens = []
  · rw [parse_of_nil hsome]
    exact ⟨h, rfl, rfl⟩
  · rw [h.parse_eq_reading hsome]
    exact ⟨⟨h.depth_eq, Nat.sub_le _ _⟩, rfl, rfl⟩

/-- The place behind a call is as far from the one before it as a fresh parser gets. -/
theorem IsAtRest.consumed_parse (h : parser.IsAtRest) :
    parser.parse.2.consumed = parser.consumed + parser.renewed.parse.2.consumed := by
  by_cases hleft : parser.renewed.tokens = []
  · have hparse : parser.parse.2 = parser := by
      by_cases hsome : parser.tokens = []
      · rw [parse_of_nil hsome]
      · rw [h.parse_eq_exhausted hsome hleft]
    rw [hparse, parse_of_nil hleft]
    rfl
  · rw [h.parse_eq_renewed hleft]

/-- A parser at rest has taken all tokens when it answers with a condition. -/
theorem IsAtRest.consumed_parse_of_ok {condition : Condition} (h : parser.IsAtRest)
    (hparse : parser.parse.1 = .ok condition) : parser.parse.2.consumed = parser.tokens.length := by
  have hsome : parser.tokens ≠ [] := by
    intro hnil
    rw [parse_of_nil hnil] at hparse
    cases hparse
  rw [h.parse_eq_reading hsome] at hparse ⊢
  have hrun : (Grammar.wholeRule parser.mode maxNesting).run ⟨parser.renewed.tokens, 0⟩ =
      (.ok condition, parser.reading.2) :=
    Prod.ext hparse rfl
  simp [(Grammar.of_wholeRule_run hrun).2]

/-- A parser at rest complains of no quotes that can be cut off. -/
theorem IsAtRest.broken_of_parse {found : Token} (h : parser.IsAtRest)
    (hparse : parser.parse.1 = .error (.brokenText found)) :
    Grammar.Broken parser.renewed.tokens found := by
  have hsome : parser.tokens ≠ [] := by
    intro hnil
    rw [parse_of_nil hnil] at hparse
    cases hparse
  rw [h.parse_eq_reading hsome] at hparse
  exact (orderly_reading parser).broken found hparse

/-! ### Many calls -/

/-- The parser after a number of calls. -/
def afterCalls (parser : Parser) : (calls : Nat) → Parser
  | 0 => parser
  | calls + 1 => (parser.afterCalls calls).parse.2

/-- However often it is called, a parser at rest stays at rest, over the same tokens and in the same
mode. -/
theorem IsAtRest.afterCalls (h : parser.IsAtRest) (calls : Nat) :
    (parser.afterCalls calls).IsAtRest ∧ (parser.afterCalls calls).tokens = parser.tokens ∧
      (parser.afterCalls calls).mode = parser.mode := by
  induction calls with
  | zero => exact ⟨h, rfl, rfl⟩
  | succ calls ih =>
    obtain ⟨hrest, htokens, hmode⟩ := ih
    obtain ⟨hrest', htokens', hmode'⟩ := hrest.parse
    exact ⟨hrest', htokens'.trans htokens, hmode'.trans hmode⟩

/-- **A parser can be called again, and reads as a fresh one what is left.** After any number of
calls on one parser its tokens and its mode are the same, no parenthesis is open, and its place is
not behind the end. The next call leaves it so, goes on from its place by as many tokens as a fresh
parser of its mode takes of those that are left, and has the answer of that one; only where there
were tokens and none are left, it says that they have ended and not that there are none. A call that
answers with a condition leaves no tokens. And where the quotes of all text tokens can be cut off,
no call fails for want of them. -/
theorem parse_again (mode : ParseMode) (tokens : List Token) (calls : Nat) :
    let parser := ({ tokens, mode } : Parser).afterCalls calls
    let left := tokens.drop parser.consumed
    let fresh := ({ tokens := left, mode } : Parser)
    (parser.tokens = tokens ∧ parser.mode = mode ∧ parser.depth = 0 ∧
      parser.consumed ≤ tokens.length) ∧
    (parser.parse.2.depth = 0 ∧ parser.consumed ≤ parser.parse.2.consumed ∧
      parser.parse.2.consumed ≤ tokens.length) ∧
    parser.parse.2.consumed = parser.consumed + fresh.parse.2.consumed ∧
    (left ≠ [] ∨ tokens = [] → parser.parse.1 = fresh.parse.1) ∧
    (left = [] → tokens ≠ [] →
      parser.parse.1 = .error .unexpectedEnd ∧ fresh.parse.1 = .error .empty) ∧
    (∀ condition, parser.parse.1 = .ok condition → parser.parse.2.consumed = tokens.length) ∧
    ((∀ token ∈ tokens, token.kind = .text → token.content? ≠ none) →
      ∀ found, parser.parse.1 ≠ .error (.brokenText found)) := by
  intro parser left fresh
  have hstart : ({ tokens, mode } : Parser).IsAtRest := ⟨rfl, Nat.zero_le _⟩
  obtain ⟨hrest, htokens, hmode⟩ := hstart.afterCalls calls
  obtain ⟨hrest', htokens', -⟩ := hrest.parse
  change parser.tokens = tokens at htokens
  change parser.mode = mode at hmode
  have hrenewed : parser.renewed = fresh := by
    unfold renewed
    rw [htokens, hmode]
  have hconsumed := hrest.consumed_parse
  rw [hrenewed] at hconsumed
  have hle : parser.consumed ≤ parser.parse.2.consumed := by
    rw [hconsumed]
    exact Nat.le_add_right _ _
  have hend : parser.parse.2.consumed ≤ tokens.length := by
    rw [← htokens, ← htokens']
    exact hrest'.consumed_le
  refine ⟨⟨htokens, hmode, hrest.depth_eq, ?_⟩, ⟨hrest'.depth_eq, hle, hend⟩, hconsumed,
    ?_, ?_, ?_, ?_⟩
  · exact Nat.le_trans hle hend
  · rintro (hleft | hnil)
    · rw [hrest.parse_eq_renewed (by rwa [hrenewed]), hrenewed]
    · have hleft : fresh.tokens = [] := by
        show tokens.drop _ = []
        rw [hnil, List.drop_nil]
      rw [parse_of_nil (htokens.trans hnil), parse_of_nil hleft]
  · intro hleft hsome
    have hfresh : fresh.parse = (.error .empty, fresh) := parse_of_nil hleft
    rw [hrest.parse_eq_exhausted (by rwa [htokens]) (by rwa [hrenewed]), hfresh]
    exact ⟨rfl, rfl⟩
  · intro condition hparse
    rw [hrest.consumed_parse_of_ok hparse, htokens]
  · intro hquoted found hparse
    obtain ⟨hmem, hkind, hcontent⟩ := hrest.broken_of_parse hparse
    rw [hrenewed] at hmem
    exact hquoted found (List.mem_of_mem_drop hmem) hkind hcontent

/-- The tokens of `(a >) vip`. The first call fails inside the parentheses and behind the second one
of them, so that the second call reads the name, and the third one finds nothing. -/
theorem parse_again_of_fault :
    let closing : Token := ⟨.rightParen, ")", 4⟩
    let parser : Parser :=
      { tokens := [⟨.leftParen, "(", 0⟩, ⟨.name, "a", 1⟩, ⟨.comparator .greater, ">", 3⟩, closing,
          ⟨.name, "vip", 6⟩] }
    parser.parse.1 = .error (.unexpectedToken closing) ∧
      (parser.afterCalls 1).parse.1 = .ok (.name "vip") ∧
      (parser.afterCalls 2).parse.1 = .error .unexpectedEnd := by
  intro closing parser
  have hvip : Condition.ofTokens .lenient [⟨.name, "vip", 6⟩] = .ok (.name "vip") := by
    refine Condition.ofTokens_eq_ok_iff.2
      ⟨.ofConjunction (.ofComparison (.bare rfl (.name rfl))), ?_⟩
    simp [maxNesting]
  have hsecond : (parser.afterCalls 1).parse.1 = .ok (.name "vip") := by
    obtain ⟨-, -, -, hfresh, -⟩ := parse_again .lenient parser.tokens 1
    exact (hfresh (.inl (List.cons_ne_nil _ _))).trans hvip
  have hconsumed : (parser.afterCalls 2).consumed = 5 := by
    obtain ⟨-, -, -, -, -, hend, -⟩ := parse_again .lenient parser.tokens 1
    exact hend _ hsecond
  refine ⟨rfl, hsecond, ?_⟩
  obtain ⟨-, -, -, -, hexhausted, -⟩ := parse_again .lenient parser.tokens 2
  refine (hexhausted ?_ (List.cons_ne_nil _ _)).1
  show parser.tokens.drop (parser.afterCalls 2).consumed = []
  rw [hconsumed]
  rfl

end Parser

end Eligibility

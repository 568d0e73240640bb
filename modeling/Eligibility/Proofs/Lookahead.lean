import Eligibility.Proofs.RepeatedReading

/-!
# One token of lookahead

A reader never looks further than at the token behind those it takes. So what stands behind that
token neither repairs a fault nor changes it.

* **Readers** (`LooksAheadByOne`): a reader of the grammar does the same along all tokens that begin
  with those it takes and the one behind them; where it has come to the end, along no other tokens.
  By induction on the number of parentheses that may be opened.
* **Calls** (`fault_decided_by_lookahead`): a call that fails behind some tokens fails in the same
  way over all tokens that begin with these and one more.
-/

namespace Eligibility

namespace Grammar

open TokenReader

variable {α β : Type}

/-- This way to read has ended like this at a cursor, and it would have ended so, in front of other
tokens, if these began like those that are left. -/
def Decided (read : Cursor → Except ParseError α × Cursor) (cursor : Cursor)
    (ended : Except ParseError α × Cursor) : Prop :=
  ∃ taken, cursor.pending = taken ++ ended.2.pending ∧
    ∀ other, other.head? = ended.2.pending.head? →
      read ⟨taken ++ other, cursor.depth⟩ = (ended.1, ⟨other, ended.2.depth⟩)

/-- What a reader does is decided by the tokens it takes and the one behind them. -/
def LooksAheadByOne (reader : TokenReader α) : Prop :=
  ∀ cursor, Decided reader.run cursor (reader.run cursor)

/-- Tokens begin alike when they begin with the same tokens and go on alike. -/
theorem head?_append_congr {other left : List Token} (h : other.head? = left.head?)
    (front : List Token) : (front ++ other).head? = (front ++ left).head? := by
  rw [List.head?_append, List.head?_append, h]

/-- A value is given without a look at the tokens. -/
theorem lookahead_pure (value : α) : LooksAheadByOne (pure value : TokenReader α) :=
  fun _ => ⟨[], rfl, fun _ _ => rfl⟩

/-- A fault is given without a look at the tokens. -/
theorem lookahead_fail (e : ParseError) : LooksAheadByOne (fail e : TokenReader α) :=
  fun _ => ⟨[], rfl, fun _ _ => rfl⟩

/-- Looking ahead is looking at the first of the tokens that are left. -/
theorem lookahead_peek : LooksAheadByOne peek := by
  intro cursor
  refine ⟨[], rfl, fun other hother => ?_⟩
  rw [List.nil_append, run_peek, hother]
  rfl

/-- To take a token is to look at it, or to see that there is none. -/
theorem lookahead_next : LooksAheadByOne next := by
  rintro ⟨_ | ⟨token, rest⟩, depth⟩
  · refine ⟨[], rfl, fun other hother => ?_⟩
    obtain rfl : other = [] := List.head?_eq_none_iff.1 hother
    rfl
  · exact ⟨[token], rfl, fun _ _ => rfl⟩

/-- One reader after the other looks no further than the second one does. -/
theorem LooksAheadByOne.bind {reader : TokenReader α} {next : α → TokenReader β}
    (h : LooksAheadByOne reader) (hnext : ∀ value, LooksAheadByOne (next value)) :
    LooksAheadByOne (reader >>= next) := by
  intro cursor
  obtain ⟨first, hpending, hfirst⟩ := h cursor
  rw [run_bind]
  rcases hrun : reader.run cursor with ⟨e | value, after⟩
  · rw [hrun] at hpending hfirst
    refine ⟨first, hpending, fun other hother => ?_⟩
    rw [run_bind, hfirst other hother]
  · rw [hrun] at hpending hfirst
    obtain ⟨second, hafter, hsecond⟩ := hnext value after
    refine ⟨first ++ second, by rw [hpending, hafter, List.append_assoc], fun other hother => ?_⟩
    -- the first reader is left with what the second one takes, or looks at the same token
    have hbegins : (second ++ other).head? = after.pending.head? := by
      rw [hafter]
      exact head?_append_congr hother second
    rw [List.append_assoc, run_bind, hfirst _ hbegins]
    exact hsecond other hother

/-- Inside a parenthesis a reader looks no further than outside. -/
theorem LooksAheadByOne.nested {reader : TokenReader α} (h : LooksAheadByOne reader) :
    LooksAheadByOne (nested reader) := by
  intro cursor
  obtain ⟨taken, hpending, htaken⟩ := h { cursor with depth := cursor.depth + 1 }
  refine ⟨taken, hpending, fun other hother => ?_⟩
  rw [run_nested, run_nested]
  simp only [htaken other hother]

/-! ### The readers of the grammar -/

/-- A token is read as an operand whatever follows it. -/
theorem lookahead_operandOf (token : Token) : LooksAheadByOne (operandOf token) := by
  unfold operandOf
  split
  · exact lookahead_pure _
  · unfold numberOf
    split
    · exact lookahead_pure _
    · exact lookahead_fail _
  · unfold textOf
    split
    · exact lookahead_pure _
    · exact lookahead_fail _
  · exact lookahead_fail _

/-- A parenthesis is closed by the next token or not at all. -/
theorem lookahead_closeParen (opened : Nat) : LooksAheadByOne (closeParen opened) := by
  unfold closeParen
  apply lookahead_peek.bind
  rintro (_ | token)
  · exact lookahead_fail _
  · simp only
    split
    · exact lookahead_next.bind fun _ => lookahead_pure _
    · exact lookahead_fail _

/-- Whether there is a comparator shows in the next token. -/
theorem lookahead_comparator? : LooksAheadByOne comparator? := by
  unfold comparator?
  apply lookahead_peek.bind
  rintro (_ | token)
  · exact lookahead_pure _
  · simp only
    split
    · exact lookahead_next.bind fun _ => lookahead_pure _
    · exact lookahead_pure _

/-- Two sides that have been read are compared whatever follows them. -/
theorem lookahead_compared (comparator : Comparator) (left right : Primary) :
    LooksAheadByOne (compared comparator left right) := by
  unfold compared
  split
  · exact lookahead_pure _
  · exact lookahead_pure _
  · exact lookahead_fail _
  · exact lookahead_fail _

/-- An operand that has been read is kept or refused whatever follows it. -/
theorem lookahead_bareOperand (mode : ParseMode) (operand : Operand) :
    LooksAheadByOne (bareOperand mode operand) := by
  cases mode with
  | lenient => exact lookahead_pure _
  | strict => exact lookahead_fail _

variable {inner? : Option (TokenReader Condition)} {item : TokenReader Condition}

/-- A primary looks no further than the rule inside its parentheses. -/
theorem lookahead_primary (h : ∀ inner ∈ inner?, LooksAheadByOne inner) :
    LooksAheadByOne (primary inner?) := by
  unfold primary
  apply lookahead_next.bind
  intro token
  split
  · rcases inner? with _ | inner
    · exact lookahead_fail _
    · apply (h inner rfl).nested.bind
      intro condition
      exact (lookahead_closeParen _).bind fun _ => lookahead_pure _
  · exact (lookahead_operandOf token).bind fun _ => lookahead_pure _

/-- A comparison looks no further than the rule inside its parentheses. -/
theorem lookahead_comparison (mode : ParseMode) (h : ∀ inner ∈ inner?, LooksAheadByOne inner) :
    LooksAheadByOne (comparison mode inner?) := by
  unfold comparison
  apply (lookahead_primary h).bind
  intro left
  apply lookahead_comparator?.bind
  rintro (_ | comparator)
  · cases left with
    | group condition => exact lookahead_pure _
    | operand operand => exact lookahead_bareOperand mode operand
  · exact (lookahead_primary h).bind fun right => lookahead_compared comparator left right

/-- A chain ends in front of all tokens that begin with no connective of its own. -/
theorem decided_of_end {connective : Connective} {left : Condition} {cursor : Cursor}
    (h : ∀ token ∈ cursor.pending.head?, token.kind ≠ .connective connective) :
    Decided (chainFrom connective item left) cursor (.ok left, cursor) := by
  refine ⟨[], rfl, fun other hother => ?_⟩
  apply chainFrom_of_end
  rw [List.nil_append, hother]
  exact h

/-- A chain looks no further than its items. -/
theorem lookahead_chain (connective : Connective) (h : LooksAheadByOne item) :
    LooksAheadByOne (chain connective item) := by
  have hchain : ∀ left cursor, Decided (chainFrom connective item left) cursor
      (chainFrom connective item left cursor) := by
    intro left cursor
    fun_induction chainFrom connective item left cursor with
    | case1 left cursor hpending => exact decided_of_end (by simp [hpending])
    | case2 left cursor token rest hpending hkind e after hitem =>
      obtain ⟨taken, hrest, htaken⟩ := h { cursor with pending := rest }
      rw [hitem] at hrest htaken
      refine ⟨token :: taken, by rw [hpending]; exact congrArg _ hrest, fun other hother => ?_⟩
      exact chainFrom_of_error hkind (htaken other hother) left
    | case3 left cursor token rest hpending hkind right after hitem ih =>
      obtain ⟨first, hrest, hfirst⟩ := h { cursor with pending := rest }
      rw [hitem] at hrest hfirst
      obtain ⟨second, hafter, hsecond⟩ := ih
      refine ⟨token :: (first ++ second), ?_, fun other hother => ?_⟩
      · rw [hpending, List.cons_append, List.append_assoc, ← hafter]
        exact congrArg _ hrest
      · have hbegins : (second ++ other).head? = after.pending.head? := by
          rw [hafter]
          exact head?_append_congr hother second
        rw [List.cons_append, List.append_assoc, chainFrom_of_ok hkind (hfirst _ hbegins)]
        exact hsecond other hother
    | case4 left cursor token rest hpending hkind =>
      exact decided_of_end (by simpa [hpending] using hkind)
  unfold chain
  apply h.bind
  exact hchain

/-- **A rule looks no further than one token**, however many parentheses may be opened. -/
theorem lookahead_expression (mode : ParseMode) (allowance : Nat) :
    LooksAheadByOne (expression mode allowance) :=
  expression_induction (fun _ => lookahead_comparison mode) (fun _ _ => lookahead_chain _) allowance

/-- Whether a rule is all there is shows in the next token. -/
theorem lookahead_finish : LooksAheadByOne finish := by
  unfold finish
  apply lookahead_peek.bind
  rintro (_ | token)
  · exact lookahead_pure _
  · simp only
    split
    · exact lookahead_fail _
    · exact lookahead_fail _

/-- A reader of all tokens as one rule looks no further than one token. -/
theorem lookahead_wholeRule (mode : ParseMode) (allowance : Nat) :
    LooksAheadByOne (wholeRule mode allowance) := by
  unfold wholeRule
  apply (lookahead_expression mode allowance).bind
  intro condition
  exact lookahead_finish.bind fun _ => lookahead_pure _

end Grammar

namespace Parser

/-- Tokens that agree with others beyond a front begin with this front and go on alike. -/
theorem exists_of_take_eq {taken other : List Token} {next : Token} {rest : List Token}
    (h : other.take (taken.length + 1) = (taken ++ next :: rest).take (taken.length + 1)) :
    ∃ back, other = taken ++ next :: back := by
  have hfront : other.take (taken.length + 1) = taken ++ [next] := by
    rw [h, List.take_append, List.take_of_length_le (Nat.le_succ _), Nat.add_sub_cancel_left,
      List.take_succ_cons, List.take_zero]
  refine ⟨other.drop (taken.length + 1), ?_⟩
  rw [← List.singleton_append, ← List.append_assoc, ← hfront, List.take_append_drop]

/-- **One token of lookahead decides every fault.** When a fresh parser fails and has taken some
tokens, a parser of the same mode over other tokens that begin with these and the one behind them
fails in the same way and takes as many; where no token is behind them, this is said of no other
tokens. -/
theorem fault_decided_by_lookahead (mode : ParseMode) (tokens other : List Token) (e : ParseError) :
    let parsed := ({ tokens, mode } : Parser).parse
    let reparsed := ({ tokens := other, mode } : Parser).parse
    parsed.1 = .error e →
      other.take (parsed.2.consumed + 1) = tokens.take (parsed.2.consumed + 1) →
      (tokens.length ≤ parsed.2.consumed → other = tokens) →
      reparsed.1 = .error e ∧ reparsed.2.consumed = parsed.2.consumed := by
  intro parsed reparsed hfail hsame hend
  by_cases hlength : tokens.length ≤ parsed.2.consumed
  · obtain rfl := hend hlength
    exact ⟨hfail, rfl⟩
  have hsome : tokens ≠ [] := by
    rintro rfl
    exact hlength (Nat.zero_le _)
  obtain ⟨taken, htokens, hdecided⟩ := Grammar.lookahead_wholeRule mode maxNesting ⟨tokens, 0⟩
  rcases hrun : (Grammar.wholeRule mode maxNesting).run ⟨tokens, 0⟩ with ⟨answer, ⟨left, depth⟩⟩
  rw [hrun] at htokens hdecided
  obtain rfl : tokens = taken ++ left := htokens
  have hparsed : parsed = _ := parse_of_run hsome hrun
  rw [hparsed] at hfail hsame hlength ⊢
  obtain rfl : answer = .error e := hfail
  -- there is a token behind those taken, and the other tokens have it at the same place
  obtain ⟨next, rest, rfl⟩ : ∃ next rest, left = next :: rest := by
    refine List.exists_cons_of_ne_nil ?_
    rintro rfl
    exact hlength (by simp)
  obtain ⟨back, rfl⟩ := exists_of_take_eq hsame
  have hreparsed : reparsed = _ := parse_of_run (by simp) (hdecided (next :: back) rfl)
  rw [hreparsed]
  exact ⟨rfl, rfl⟩

/-- A strict parser refuses the name in `vip OR` when it has looked at the keyword, and so it does
whatever stands behind the keyword. -/
theorem fault_decided_by_lookahead_of_bare_name :
    let name : Token := ⟨.name, "vip", 0⟩
    let keyword : Token := ⟨.connective .or, "OR", 4⟩
    let closing : Token := ⟨.rightParen, ")", 7⟩
    let parser : Parser := { tokens := [name, keyword], mode := .strict }
    let other : Parser := { tokens := [name, keyword, closing, name], mode := .strict }
    parser.parse.1 = .error (.bareOperand (.name "vip")) ∧ parser.parse.2.consumed = 1 ∧
      other.parse.1 = .error (.bareOperand (.name "vip")) ∧ other.parse.2.consumed = 1 := by
  intro name keyword closing parser other
  have hfail : parser.parse.1 = .error (.bareOperand (.name "vip")) := rfl
  have hconsumed : parser.parse.2.consumed = 1 := rfl
  obtain ⟨hother, hother'⟩ :=
    fault_decided_by_lookahead .strict parser.tokens other.tokens _ hfail rfl
      (fun hlength => absurd hlength (by decide))
  exact ⟨hfail, hconsumed, hother, hother'.trans hconsumed⟩

end Parser

end Eligibility

import Eligibility.Proofs.Grammar
import Eligibility.Proofs.Result
import Eligibility.Rule

/-!
# The parser reads exactly what the grammar derives

The grammar is left recursive and the parser is not. What carries over is this.

* **The parser reads what is derived** (`reads_of_derives`): by induction on the derivation. A
  derived chain is not followed to its end, only up to the point where the parser goes on with
  whatever comes next, so that the derivation of a longer chain can take over there.
* **Where it fails behind what is derived** (`fails_and`, `fails_or`): a chain that was read up to a
  joint fails where its next item does.
* **What the parser reads is derived** (`expression_takes`): by induction on the number of
  parentheses that may still be opened. A reader that succeeds has taken tokens from which its
  answer is derived, and has closed what it opened.
* **Both together** (`wholeRule_eq_ok_iff`, `ofTokens_eq_ok_iff`, `ofText_eq_ok_iff`), and with them
  that no tokens are two rules (`eq_of_derives`).
-/

namespace Eligibility

namespace Grammar

open TokenReader

/-! ### Steps of the parser -/

/-- The reader of a rule inside one more parenthesis, when some number of them may be opened. -/
def inner? (mode : ParseMode) : (allowance : Nat) → Option (TokenReader Condition)
  | 0 => none
  | allowance + 1 => some (expression mode allowance)

/-- An expression is a disjunction; inside its parentheses one less may be opened. -/
theorem expression_eq (mode : ParseMode) (allowance : Nat) :
    expression mode allowance = disjunction mode (inner? mode allowance) := by
  cases allowance <;> rfl

/-- An operand is read from a token that denotes it. -/
theorem operandOf_run_iff {token : Token} {cursor after : Cursor} {operand : Operand} :
    (operandOf token).run cursor = (.ok operand, after) ↔
      token.Denotes operand ∧ after = cursor := by
  constructor
  · intro h
    unfold operandOf at h
    split at h
    · rename_i hkind
      cases h
      exact ⟨.name hkind, rfl⟩
    · rename_i hkind
      unfold numberOf at h
      split at h
      · rename_i hvalue
        cases h
        exact ⟨.number hkind hvalue, rfl⟩
      · simp at h
    · rename_i hkind
      unfold textOf at h
      split at h
      · rename_i hcontent
        cases h
        exact ⟨.text hkind hcontent, rfl⟩
      · simp at h
    · simp at h
  · rintro ⟨hdenotes, rfl⟩
    cases hdenotes with
    | name hkind => rw [operandOf, hkind]; rfl
    | number hkind hvalue => rw [operandOf, hkind, numberOf, hvalue]; rfl
    | text hkind hcontent => rw [operandOf, hkind, textOf, hcontent]; rfl

/-- A token that denotes an operand opens no parenthesis. -/
theorem kind_ne_leftParen_of_denotes {token : Token} {operand : Operand}
    (h : token.Denotes operand) : token.kind ≠ .leftParen := by
  cases h <;> simp [*]

/-- A primary that is one token. -/
theorem primary_of_denotes {token : Token} {operand : Operand} (h : token.Denotes operand)
    (inner? : Option (TokenReader Condition)) (rest : List Token) (depth : Nat) :
    (primary inner?).run ⟨token :: rest, depth⟩ = (.ok (.operand operand), ⟨rest, depth⟩) := by
  rw [primary, run_bind, run_next_cons]
  simp only [if_neg (kind_ne_leftParen_of_denotes h)]
  rw [run_bind, operandOf_run_iff.2 ⟨h, rfl⟩]
  rfl

/-- A primary in parentheses that are closed. -/
theorem primary_of_group {opening closing : Token} {inner : TokenReader Condition}
    {condition : Condition} {tokens rest : List Token} {depth : Nat}
    (hopening : opening.kind = .leftParen) (hclosing : closing.kind = .rightParen)
    (h : inner.run ⟨tokens, depth + 1⟩ = (.ok condition, ⟨closing :: rest, depth + 1⟩)) :
    (primary (some inner)).run ⟨opening :: tokens, depth⟩ =
      (.ok (.group condition), ⟨rest, depth⟩) := by
  rw [primary, run_bind, run_next_cons]
  simp only [if_pos hopening]
  rw [run_bind, run_nested]
  simp only [h]
  simp [run_bind, closeParen, hclosing]

/-- A comparator is taken. -/
theorem comparator?_of_comparator {token : Token} {comparator : Comparator}
    (h : token.kind = .comparator comparator) (rest : List Token) (depth : Nat) :
    comparator?.run ⟨token :: rest, depth⟩ = (.ok (some comparator), ⟨rest, depth⟩) := by
  simp [comparator?, run_bind, h]

/-- No comparator is next. -/
def NoComparator (rest : List Token) : Prop :=
  ∀ token ∈ rest.head?, ∀ comparator, token.kind ≠ .comparator comparator

/-- Without a comparator nothing is taken. -/
theorem comparator?_of_noComparator {rest : List Token} (h : NoComparator rest) (depth : Nat) :
    comparator?.run ⟨rest, depth⟩ = (.ok none, ⟨rest, depth⟩) := by
  rcases rest with _ | ⟨token, rest⟩
  · rfl
  · have hne := h token rfl
    simp only [comparator?, run_bind, run_peek, List.head?_cons]
    rfl

/-! ### The parser reads what is derived -/

/-- A chain starts as its first item is read. -/
theorem chain_of_ok {connective : Connective} {item : TokenReader Condition}
    {first : Condition} {cursor after : Cursor} (h : item.run cursor = (.ok first, after)) :
    (chain connective item).run cursor = chainFrom connective item first after := by
  rw [chain, run_bind, h]

/-- How tokens of a level are read when some number of parentheses may be opened. A comparison is
read to its end. A conjunction or a disjunction is read up to where the chain goes on, if it does;
the items of the chain must have ended there. -/
def Reads (mode : ParseMode) (allowance : Nat) : Level → List Token → Condition → Prop
  | .comparison, tokens, condition => ∀ depth rest, NoComparator rest →
    (comparison mode (inner? mode allowance)).run ⟨tokens ++ rest, depth⟩ =
      (.ok condition, ⟨rest, depth⟩)
  | .conjunction, tokens, condition => ∀ depth rest, NoComparator rest →
    (chain .and (comparison mode (inner? mode allowance))).run ⟨tokens ++ rest, depth⟩ =
      chainFrom .and (comparison mode (inner? mode allowance)) condition ⟨rest, depth⟩
  | .disjunction, tokens, condition => ∀ depth rest, NoComparator rest →
    (∀ token ∈ rest.head?, token.kind ≠ .connective .and) →
    (disjunction mode (inner? mode allowance)).run ⟨tokens ++ rest, depth⟩ =
      chainFrom .or (chain .and (comparison mode (inner? mode allowance))) condition ⟨rest, depth⟩

/-- In front of a token that is no comparator there is none. -/
theorem noComparator_of_kind {token : Token} (h : token.kind.isComparator = false)
    (rest : List Token) : NoComparator (token :: rest) := by
  rintro found hfound comparator hkind
  obtain rfl : token = found := by simpa using hfound
  rw [hkind] at h
  cases h

/-- At the end there is no comparator. -/
theorem noComparator_nil : NoComparator [] := by
  intro token htoken
  simp at htoken

/-- **The parser reads what is derived**, if the parentheses do not go deeper than allowed. -/
theorem reads_of_derives {mode : ParseMode} {level : Level} {tokens : List Token}
    {condition : Condition} (h : Derives mode level tokens condition) :
    ∀ allowance : Nat, NestedWithin allowance tokens →
      Reads mode allowance level tokens condition := by
  induction h with
  | ofComparison _ ih =>
    intro allowance hnested depth rest hrest
    exact chain_of_ok (ih allowance hnested depth rest hrest)
  | ofConjunction _ ih =>
    intro allowance hnested depth rest hrest hand
    apply chain_of_ok
    rw [ih allowance hnested depth rest hrest]
    exact chainFrom_of_end hand _ _
  | @and first second joint left right hleft hjoint _ ihl ihr =>
    intro allowance hnested depth rest hrest
    rw [nestedWithin_append, nestedWithin_cons, hleft.openParens_eq_zero,
      opens_of_connective hjoint] at hnested
    obtain ⟨hfirst, -, hsecond⟩ := hnested
    have hstop : NoComparator (joint :: (second ++ rest)) :=
      noComparator_of_kind (by rw [hjoint]; rfl) _
    rw [List.append_assoc, List.cons_append, ihl allowance hfirst depth _ hstop]
    exact chainFrom_of_ok hjoint (ihr allowance (by simpa using hsecond) depth rest hrest) left
  | @or first second joint left right hleft hjoint _ ihl ihr =>
    intro allowance hnested depth rest hrest hand
    rw [nestedWithin_append, nestedWithin_cons, hleft.openParens_eq_zero,
      opens_of_connective hjoint] at hnested
    obtain ⟨hfirst, -, hsecond⟩ := hnested
    have hstop : NoComparator (joint :: (second ++ rest)) :=
      noComparator_of_kind (by rw [hjoint]; rfl) _
    rw [List.append_assoc, List.cons_append, ihl allowance hfirst depth _ hstop (by simp [hjoint])]
    refine chainFrom_of_ok hjoint ?_ left
    rw [ihr allowance (by simpa using hsecond) depth rest hrest]
    exact chainFrom_of_end hand _ _
  | @compare field symbol side comparator operand hfield hsymbol hside =>
    intro allowance _ depth rest _
    have hname : field.Denotes (.name field.text) := .name hfield
    rw [comparison, run_bind, List.cons_append, primary_of_denotes hname]
    simp only
    rw [run_bind, List.cons_append, comparator?_of_comparator hsymbol]
    simp only
    rw [run_bind, List.cons_append, List.nil_append, primary_of_denotes hside]
    cases operand <;> rfl
  | @group opening closing tokens condition hopening hderives hclosing ih =>
    intro allowance hnested depth rest hrest
    rw [nestedWithin_cons, nestedWithin_append, opens_of_leftParen hopening] at hnested
    obtain ⟨-, htokens, hclosed⟩ := hnested
    rw [hderives.openParens_eq_zero, nestedWithin_cons] at hclosed
    obtain ⟨below, rfl⟩ : ∃ below, allowance = below + 1 := ⟨allowance - 1, by omega⟩
    have hbelow : NestedWithin below tokens := by
      have heq : ((below + 1 : Nat) : Int) - 1 = below := by omega
      rwa [heq] at htokens
    have hinner : (expression mode below).run ⟨tokens ++ closing :: rest, depth + 1⟩ =
        (.ok condition, ⟨closing :: rest, depth + 1⟩) := by
      rw [expression_eq, ih below hbelow (depth + 1) (closing :: rest)
        (noComparator_of_kind (by rw [hclosing]; rfl) rest) (by simp [hclosing])]
      exact chainFrom_of_end (by simp [hclosing]) _ _
    rw [comparison, run_bind, List.cons_append, List.append_assoc, List.cons_append,
      List.nil_append, inner?, primary_of_group hopening hclosing hinner]
    simp only
    rw [run_bind, comparator?_of_noComparator hrest]
    rfl
  | @bare token operand hmode hdenotes =>
    intro allowance _ depth rest hrest
    rw [comparison, run_bind, List.cons_append, List.nil_append, primary_of_denotes hdenotes]
    simp only
    rw [run_bind, comparator?_of_noComparator hrest, hmode]
    rfl

/-! ### Where the parser fails -/

/-- At this cursor the reader fails with this fault. -/
def Fails {α : Type} (reader : TokenReader α) (cursor : Cursor) (e : ParseError) : Prop :=
  ∃ after, reader.run cursor = (.error e, after)

/-- What is read first decides. -/
theorem Fails.bind {α β : Type} {reader : TokenReader α} {cursor : Cursor} {e : ParseError}
    (h : Fails reader cursor e) (next : α → TokenReader β) : Fails (reader >>= next) cursor e := by
  obtain ⟨after, hrun⟩ := h
  exact ⟨after, by rw [run_bind, hrun]⟩

/-- A primary in parentheses fails where the rule inside them does. -/
theorem fails_primary {opening : Token} {inner : TokenReader Condition} {tokens : List Token}
    {depth : Nat} {e : ParseError} (hopening : opening.kind = .leftParen)
    (h : Fails inner ⟨tokens, depth + 1⟩ e) :
    Fails (primary (some inner)) ⟨opening :: tokens, depth⟩ e := by
  obtain ⟨after, hrun⟩ := h
  refine ⟨{ after with depth := after.depth - 1 }, ?_⟩
  rw [primary, run_bind, run_next_cons]
  simp only [if_pos hopening]
  rw [run_bind, run_nested]
  simp only [hrun]

/-- A conjunction fails where the comparison behind what is derived does. -/
theorem fails_and {mode : ParseMode} {allowance : Nat} {first second : List Token} {joint : Token}
    {left : Condition} {depth : Nat} {e : ParseError}
    (hleft : Derives mode .conjunction first left) (hnested : NestedWithin allowance first)
    (hjoint : joint.kind = .connective .and)
    (hright : Fails (comparison mode (inner? mode allowance)) ⟨second, depth⟩ e) :
    Fails (chain .and (comparison mode (inner? mode allowance)))
      ⟨first ++ joint :: second, depth⟩ e := by
  obtain ⟨after, hrun⟩ := hright
  refine ⟨after, ?_⟩
  rw [reads_of_derives hleft allowance hnested depth _
    (noComparator_of_kind (by rw [hjoint]; rfl) second)]
  exact chainFrom_of_error hjoint hrun left

/-- A disjunction fails where the conjunction behind what is derived does. -/
theorem fails_or {mode : ParseMode} {allowance : Nat} {first second : List Token} {joint : Token}
    {left : Condition} {depth : Nat} {e : ParseError}
    (hleft : Derives mode .disjunction first left) (hnested : NestedWithin allowance first)
    (hjoint : joint.kind = .connective .or)
    (hright : Fails (chain .and (comparison mode (inner? mode allowance))) ⟨second, depth⟩ e) :
    Fails (disjunction mode (inner? mode allowance)) ⟨first ++ joint :: second, depth⟩ e := by
  obtain ⟨after, hrun⟩ := hright
  refine ⟨after, ?_⟩
  rw [reads_of_derives hleft allowance hnested depth _
    (noComparator_of_kind (by rw [hjoint]; rfl) second) (by simp [hjoint])]
  exact chainFrom_of_error hjoint hrun left

/-! ### What the parser reads is derived -/

/-- When one reader after the other succeeds, both do. -/
theorem run_bind_eq_ok_iff {α β : Type} {reader : TokenReader α} {next : α → TokenReader β}
    {cursor after : Cursor} {answer : β} :
    (reader >>= next).run cursor = (.ok answer, after) ↔
      ∃ value between, reader.run cursor = (.ok value, between) ∧
        (next value).run between = (.ok answer, after) := by
  rw [run_bind]
  rcases reader.run cursor with ⟨e | value, between⟩
  · simp
  · constructor
    · intro h
      exact ⟨value, between, rfl, h⟩
    · rintro ⟨_, _, heq, h⟩
      cases heq
      exact h

/-- A primary is a token that denotes an operand, or what stands between two parentheses. -/
theorem of_primary_run {inner? : Option (TokenReader Condition)} {pending : List Token}
    {depth : Nat} {result : Primary} {after : Cursor}
    (h : (primary inner?).run ⟨pending, depth⟩ = (.ok result, after)) :
    (∃ token operand, pending = token :: after.pending ∧ token.Denotes operand ∧
      result = .operand operand ∧ after.depth = depth) ∨
    ∃ opening closing inner condition tokens within,
      pending = opening :: tokens ∧ opening.kind = .leftParen ∧ inner? = some inner ∧
        inner.run ⟨tokens, depth + 1⟩ = (.ok condition, ⟨closing :: after.pending, within⟩) ∧
        closing.kind = .rightParen ∧ result = .group condition ∧ after.depth = within - 1 := by
  rcases pending with _ | ⟨token, rest⟩
  · simp [primary, run_bind] at h
  rw [primary, run_bind, run_next_cons] at h
  simp only at h
  split at h
  · rename_i hopening
    rcases inner? with _ | inner
    · simp at h
    obtain ⟨condition, between, hinner, h⟩ := run_bind_eq_ok_iff.1 h
    obtain ⟨_, last, hclose, h⟩ := run_bind_eq_ok_iff.1 h
    rw [run_pure] at h
    cases h
    rw [run_nested] at hinner
    rcases hrun : inner.run ⟨rest, depth + 1⟩ with ⟨answer, ⟨left, within⟩⟩
    rw [hrun] at hinner
    simp only [Prod.mk.injEq] at hinner
    obtain ⟨rfl, rfl⟩ := hinner
    rcases left with _ | ⟨closing, left⟩
    · simp [closeParen, run_bind] at hclose
    by_cases hclosing : closing.kind = .rightParen
    · simp only [closeParen, run_bind, run_peek, List.head?_cons, if_pos hclosing, run_next_cons,
        run_pure, Prod.mk.injEq] at hclose
      obtain ⟨-, rfl⟩ := hclose
      exact .inr ⟨token, closing, inner, condition, rest, within, rfl, hopening, rfl, hrun,
        hclosing, rfl, rfl⟩
    · simp [closeParen, run_bind, hclosing] at hclose
  · obtain ⟨operand, between, hoperand, h⟩ := run_bind_eq_ok_iff.1 h
    obtain ⟨hdenotes, rfl⟩ := operandOf_run_iff.1 hoperand
    rw [run_pure] at h
    cases h
    exact .inl ⟨token, operand, rfl, hdenotes, rfl, rfl⟩

/-- A primary that is an operand is one token. -/
theorem of_primary_run_operand {inner? : Option (TokenReader Condition)} {pending : List Token}
    {depth : Nat} {operand : Operand} {after : Cursor}
    (h : (primary inner?).run ⟨pending, depth⟩ = (.ok (.operand operand), after)) :
    ∃ token, pending = token :: after.pending ∧ token.Denotes operand ∧ after.depth = depth := by
  rcases of_primary_run h with ⟨token, _, hpending, hdenotes, heq, hdepth⟩ | h
  · cases heq
    exact ⟨token, hpending, hdenotes, hdepth⟩
  · obtain ⟨_, _, _, _, _, _, -, -, -, -, -, heq, -⟩ := h
    cases heq

/-- A comparator is taken when there is one, and else nothing. -/
theorem of_comparator?_run {pending : List Token} {depth : Nat} {found : Option Comparator}
    {after : Cursor} (h : comparator?.run ⟨pending, depth⟩ = (.ok found, after)) :
    (∃ token comparator, pending = token :: after.pending ∧ token.kind = .comparator comparator ∧
      found = some comparator ∧ after.depth = depth) ∨
    found = none ∧ after = ⟨pending, depth⟩ := by
  rcases pending with _ | ⟨token, rest⟩
  · cases h
    exact .inr ⟨rfl, rfl⟩
  · rw [comparator?, run_bind, run_peek] at h
    simp only [List.head?_cons] at h
    split at h
    · rename_i comparator hkind
      cases h
      exact .inl ⟨token, comparator, rfl, hkind, rfl, rfl⟩
    · cases h
      exact .inr ⟨rfl, rfl⟩

/-- Two primaries are a comparison when the left one is a name and the right one an operand. -/
theorem of_compared_run {comparator : Comparator} {left right : Primary} {cursor after : Cursor}
    {condition : Condition}
    (h : (compared comparator left right).run cursor = (.ok condition, after)) :
    ∃ field operand, left = .operand (.name field) ∧ right = .operand operand ∧
      condition = .compare field comparator operand.asLiteral ∧ after = cursor := by
  unfold compared at h
  split at h
  · rename_i field value
    cases h
    exact ⟨field, .literal value, rfl, rfl, rfl, rfl⟩
  · rename_i field word
    cases h
    exact ⟨field, .name word, rfl, rfl, rfl, rfl⟩
  · simp at h
  · simp at h

/-- A rule ends where no tokens are left. -/
theorem of_finish_run {cursor after : Cursor} {answer : Unit}
    (h : finish.run cursor = (.ok answer, after)) : cursor.pending = [] ∧ after = cursor := by
  rcases hpending : cursor.pending with _ | ⟨token, rest⟩
  · rw [finish, run_bind, run_peek, hpending] at h
    cases h
    exact ⟨rfl, rfl⟩
  · rw [finish, run_bind, run_peek, hpending] at h
    simp only [List.head?_cons] at h
    split at h <;> cases h

/-- A reader that succeeds has taken tokens that fit its answer, and as many parentheses are open as
before. -/
def Takes (reader : TokenReader Condition) (spec : List Token → Condition → Prop) : Prop :=
  ∀ cursor condition after, reader.run cursor = (.ok condition, after) →
    ∃ taken, cursor.pending = taken ++ after.pending ∧ spec taken condition ∧
      after.depth = cursor.depth

/-- Tokens from which a condition is derived within some number of parentheses. -/
def DerivesWithin (mode : ParseMode) (allowance : Nat) (level : Level) (tokens : List Token)
    (condition : Condition) : Prop :=
  Derives mode level tokens condition ∧ NestedWithin allowance tokens

/-- Parentheses around a rule take one of those that may be opened. -/
theorem DerivesWithin.group {mode : ParseMode} {allowance : Nat} {tokens : List Token}
    {condition : Condition} {opening closing : Token} (hopening : opening.kind = .leftParen)
    (h : DerivesWithin mode allowance .disjunction tokens condition)
    (hclosing : closing.kind = .rightParen) :
    DerivesWithin mode (allowance + 1) .comparison (opening :: (tokens ++ [closing]))
      condition := by
  obtain ⟨hderives, hnested⟩ := h
  refine ⟨.group hopening hderives hclosing, ?_⟩
  have hinside : ((allowance + 1 : Nat) : Int) - 1 = allowance := by omega
  rw [nestedWithin_cons, nestedWithin_append, opens_of_leftParen hopening, hinside,
    hderives.openParens_eq_zero]
  exact ⟨Int.natCast_nonneg _, hnested, by simp⟩

/-- A comparison that is read is derived, if that holds one parenthesis further in. -/
theorem comparison_takes {mode : ParseMode} {allowance : Nat}
    (hinner : ∀ below, allowance = below + 1 →
      Takes (expression mode below) (DerivesWithin mode below .disjunction)) :
    Takes (comparison mode (inner? mode allowance)) (DerivesWithin mode allowance .comparison) := by
  rintro ⟨pending, depth⟩ condition after h
  rw [comparison] at h
  obtain ⟨left, ⟨second, depth₂⟩, hleft, h⟩ := run_bind_eq_ok_iff.1 h
  obtain ⟨found, ⟨third, depth₃⟩, hfound, h⟩ := run_bind_eq_ok_iff.1 h
  obtain ⟨symbol, comparator, hsecond, hsymbol, rfl, hdepth₃⟩ | ⟨rfl, hthird⟩ :=
    of_comparator?_run hfound
  · -- two primaries with a comparator between them, of which the grammar takes only one form
    obtain ⟨right, ⟨fourth, depth₄⟩, hright, h⟩ := run_bind_eq_ok_iff.1 h
    obtain ⟨field, operand, rfl, rfl, rfl, rfl⟩ := of_compared_run h
    obtain ⟨token, hpending, hname, hdepth₂⟩ := of_primary_run_operand hleft
    obtain ⟨side, hthird, hside, hdepth₄⟩ := of_primary_run_operand hright
    cases hname with
    | name hfield =>
      refine ⟨[token, symbol, side], by simp_all, ⟨.compare hfield hsymbol hside, ?_⟩,
        hdepth₄.trans (hdepth₃.trans hdepth₂)⟩
      simp [opens_of_name hfield, opens_of_comparator hsymbol]
  · cases hthird
    obtain ⟨token, operand, rfl, hdenotes, rfl, hdepth₂⟩ |
        ⟨opening, closing, inner, inside, tokens, within, rfl, hopening, hinner?, hrun, hclosing,
          rfl, hdepth₂⟩ := of_primary_run hleft
    · -- an operand without a comparator
      rcases mode with _ | _
      · cases h
        exact ⟨[token], rfl, ⟨.bare rfl hdenotes, by simp⟩, hdepth₂⟩
      · cases h
    · -- a rule in parentheses
      cases h
      rcases allowance with _ | below
      · cases hinner?
      cases hinner?
      obtain ⟨taken, htokens, hwithin, hdepth⟩ := hinner below rfl _ _ _ hrun
      refine ⟨opening :: (taken ++ [closing]), ?_, hwithin.group hopening hclosing, ?_⟩
      · simp_all
      · simp_all

/-- A chain of items is derived when each item is. -/
theorem chainFrom_takes {connective : Connective} {item : TokenReader Condition}
    {itemSpec spec : List Token → Condition → Prop} (hitem : Takes item itemSpec)
    (hjoin : ∀ first joint second left right, spec first left →
      joint.kind = .connective connective → itemSpec second right →
      spec (first ++ joint :: second) (.join connective left right))
    {first : List Token} {left : Condition} (hfirst : spec first left) {cursor after : Cursor}
    {condition : Condition}
    (h : chainFrom connective item left cursor = (.ok condition, after)) :
    ∃ taken, cursor.pending = taken ++ after.pending ∧ spec (first ++ taken) condition ∧
      after.depth = cursor.depth := by
  fun_induction chainFrom connective item left cursor generalizing first with
  | case1 left cursor hpending =>
    cases h
    exact ⟨[], rfl, by simpa using hfirst, rfl⟩
  | case2 => cases h
  | case3 left cursor joint rest hpending hjoint right between hright ih =>
    obtain ⟨second, hsecond, hdenotes, hdepth⟩ := hitem _ _ _ hright
    obtain ⟨taken, htaken, hall, hdepth'⟩ := ih (hjoin _ _ _ _ _ hfirst hjoint hdenotes) h
    refine ⟨joint :: (second ++ taken), ?_, ?_, hdepth'.trans hdepth⟩
    · rw [hpending, List.cons_append, List.append_assoc, ← htaken, ← hsecond]
    · simpa using hall
  | case4 left cursor token rest hpending hkind =>
    cases h
    exact ⟨[], rfl, by simpa using hfirst, rfl⟩

/-- A chain that is read is derived when its items are. -/
theorem chain_takes {connective : Connective} {item : TokenReader Condition}
    {itemSpec spec : List Token → Condition → Prop} (hitem : Takes item itemSpec)
    (hone : ∀ tokens condition, itemSpec tokens condition → spec tokens condition)
    (hjoin : ∀ first joint second left right, spec first left →
      joint.kind = .connective connective → itemSpec second right →
      spec (first ++ joint :: second) (.join connective left right)) :
    Takes (chain connective item) spec := by
  intro cursor condition after h
  obtain ⟨left, between, hleft, h⟩ := run_bind_eq_ok_iff.1 h
  obtain ⟨first, hfirst, hdenotes, hdepth⟩ := hitem _ _ _ hleft
  obtain ⟨taken, htaken, hall, hdepth'⟩ := chainFrom_takes hitem hjoin (hone _ _ hdenotes) h
  exact ⟨first ++ taken, by rw [hfirst, htaken, List.append_assoc], hall, hdepth'.trans hdepth⟩

/-- A joint between derived parts keeps the bound on parentheses. -/
theorem nestedWithin_joint {mode : ParseMode} {allowance : Nat} {level : Level}
    {first second : List Token} {joint : Token} {connective : Connective} {left right : Condition}
    {other : Level} (hleft : DerivesWithin mode allowance level first left)
    (hjoint : joint.kind = .connective connective)
    (hright : DerivesWithin mode allowance other second right) :
    NestedWithin allowance (first ++ joint :: second) := by
  rw [nestedWithin_append, nestedWithin_cons, hleft.1.openParens_eq_zero,
    opens_of_connective hjoint]
  exact ⟨hleft.2, by omega, by simpa using hright.2⟩

/-- A rule that is read is derived, if that holds for comparisons. -/
theorem disjunction_takes {mode : ParseMode} {allowance : Nat}
    (h : Takes (comparison mode (inner? mode allowance))
      (DerivesWithin mode allowance .comparison)) :
    Takes (disjunction mode (inner? mode allowance))
      (DerivesWithin mode allowance .disjunction) := by
  have hand : Takes (chain .and (comparison mode (inner? mode allowance)))
      (DerivesWithin mode allowance .conjunction) := by
    refine chain_takes h (fun _ _ hone => ⟨.ofComparison hone.1, hone.2⟩) ?_
    intro first joint second left right hleft hjoint hright
    exact ⟨.and hleft.1 hjoint hright.1, nestedWithin_joint hleft hjoint hright⟩
  refine chain_takes hand (fun _ _ hone => ⟨.ofConjunction hone.1, hone.2⟩) ?_
  intro first joint second left right hleft hjoint hright
  exact ⟨.or hleft.1 hjoint hright.1, nestedWithin_joint hleft hjoint hright⟩

/-- **What the parser reads is derived**, and within the parentheses that may be opened. -/
theorem expression_takes (mode : ParseMode) (allowance : Nat) :
    Takes (expression mode allowance) (DerivesWithin mode allowance .disjunction) := by
  induction allowance with
  | zero =>
    rw [expression_eq]
    exact disjunction_takes (comparison_takes fun below h => by cases h)
  | succ below ih =>
    rw [expression_eq]
    exact disjunction_takes (comparison_takes fun other h => by cases h; exact ih)

/-! ### Whole rules -/

/-- A whole rule is a rule behind which no tokens are left. -/
theorem of_wholeRule_run {mode : ParseMode} {allowance : Nat} {cursor last : Cursor}
    {condition : Condition} (h : (wholeRule mode allowance).run cursor = (.ok condition, last)) :
    (expression mode allowance).run cursor = (.ok condition, last) ∧ last.pending = [] := by
  obtain ⟨read, after, hread, hrest⟩ := run_bind_eq_ok_iff.1 h
  obtain ⟨_, between, hfinish, hanswer⟩ := run_bind_eq_ok_iff.1 hrest
  obtain ⟨hend, hbetween⟩ := of_finish_run hfinish
  cases hbetween
  cases hanswer
  exact ⟨hread, hend⟩

/-- All tokens are read as a rule exactly when it is derived from them within the parentheses that
may be opened. -/
theorem wholeRule_eq_ok_iff {mode : ParseMode} {allowance depth : Nat} {tokens : List Token}
    {condition : Condition} :
    ((wholeRule mode allowance).run ⟨tokens, depth⟩).1 = .ok condition ↔
      Derives mode .disjunction tokens condition ∧ NestedWithin allowance tokens := by
  constructor
  · intro h
    rcases hrun : (wholeRule mode allowance).run ⟨tokens, depth⟩ with ⟨answer, last⟩
    rw [hrun] at h
    obtain rfl : answer = .ok condition := h
    obtain ⟨hread, hend⟩ := of_wholeRule_run hrun
    obtain ⟨taken, htokens, hderives, -⟩ := expression_takes mode allowance _ _ _ hread
    rw [hend, List.append_nil] at htokens
    obtain rfl : tokens = taken := htokens
    exact hderives
  · rintro ⟨hderives, hnested⟩
    have hreads := reads_of_derives hderives allowance hnested depth [] noComparator_nil
      (by simp)
    rw [List.append_nil, chainFrom_of_end (by simp)] at hreads
    rw [wholeRule, run_bind, expression_eq, hreads]
    rfl

/-- No tokens are two rules, however deep their parentheses go. -/
theorem eq_of_derives {mode : ParseMode} {tokens : List Token} {first second : Condition}
    (hfirst : Derives mode .disjunction tokens first)
    (hsecond : Derives mode .disjunction tokens second) : first = second := by
  have hnested := nestedWithin_length tokens
  have h₁ : ((wholeRule mode tokens.length).run ⟨tokens, 0⟩).1 = .ok first :=
    wholeRule_eq_ok_iff.2 ⟨hfirst, hnested⟩
  have h₂ : ((wholeRule mode tokens.length).run ⟨tokens, 0⟩).1 = .ok second :=
    wholeRule_eq_ok_iff.2 ⟨hsecond, hnested⟩
  exact Except.ok.inj (h₁.symm.trans h₂)

end Grammar

namespace Condition

/-- A fresh parser reads all tokens as one rule, if there are any. -/
theorem ofTokens_eq {mode : ParseMode} {tokens : List Token} (h : tokens ≠ []) :
    ofTokens mode tokens = ((Grammar.wholeRule mode maxNesting).run ⟨tokens, 0⟩).1 := by
  obtain ⟨token, rest, rfl⟩ := List.exists_cons_of_ne_nil h
  rfl

/-- Tokens are read as a condition exactly when it is derived from them and none of them lies inside
more than `maxNesting` open parentheses. -/
theorem ofTokens_eq_ok_iff {mode : ParseMode} {tokens : List Token} {condition : Condition} :
    ofTokens mode tokens = .ok condition ↔
      Grammar.Derives mode .disjunction tokens condition ∧
        Grammar.NestedWithin maxNesting tokens := by
  by_cases h : tokens = []
  · rw [h]
    constructor
    · intro hread
      cases hread
    · rintro ⟨hderives, -⟩
      exact absurd rfl hderives.ne_nil
  · rw [ofTokens_eq h]
    exact Grammar.wholeRule_eq_ok_iff

/-- A text is read as a condition exactly when it has tokens and the condition is derived from these
within the parentheses that may be opened. -/
theorem ofText_eq_ok_iff {mode : ParseMode} {text : String} {condition : Condition} :
    ofText mode text = .ok condition ↔
      ∃ tokens, tokenize text = .ok tokens ∧
        Grammar.DerivesWithin mode maxNesting .disjunction tokens condition := by
  unfold ofText
  rcases tokenize text with e | tokens
  · constructor
    · intro h
      cases h
    · rintro ⟨tokens, htokens, -⟩
      cases htokens
  · show (ofTokens mode tokens).mapError RuleError.ungrammatical = .ok condition ↔ _
    rw [Except.mapError_eq_ok_iff, ofTokens_eq_ok_iff]
    constructor
    · intro h
      exact ⟨tokens, rfl, h⟩
    · rintro ⟨_, ⟨⟩, h⟩
      exact h

/-- **The parser accepts exactly its grammar, and builds exactly the derived tree.** A fresh parser
answers with a condition exactly when it is derived from the tokens and no token lies inside more
than `maxNesting` open parentheses; at most one condition is derived from them; and a text token
between quotes is derived as nothing but the text between them. -/
theorem parse_eq_ok_iff_derives (mode : ParseMode) (tokens : List Token) :
    (∀ condition, ({ tokens, mode } : Parser).parse.1 = .ok condition ↔
      Grammar.Derives mode .disjunction tokens condition ∧
        Grammar.NestedWithin maxNesting tokens) ∧
    (∀ first second, Grammar.Derives mode .disjunction tokens first →
      Grammar.Derives mode .disjunction tokens second → first = second) ∧
    ∀ token ∈ tokens, ∀ quote body, token.kind = .text → quote = '\'' ∨ quote = '"' →
      token.text.toList = quote :: (body ++ [quote]) →
        ∀ operand, token.Denotes operand ↔ operand = .literal (.text (String.ofList body)) := by
  refine ⟨fun condition => ofTokens_eq_ok_iff, fun first second => Grammar.eq_of_derives, ?_⟩
  intro token _ quote body hkind hquote htext operand
  exact token.denotes_iff_of_quoted hkind hquote htext operand

/-- A name in parentheses is read as the name, and is derived as nothing else. -/
theorem parse_eq_ok_iff_derives_of_group :
    let tokens : List Token := [⟨.leftParen, "(", 0⟩, ⟨.name, "vip", 1⟩, ⟨.rightParen, ")", 4⟩]
    ({ tokens, mode := .lenient } : Parser).parse.1 = .ok (name "vip") ∧
      ∀ other, Grammar.Derives .lenient .disjunction tokens other → other = name "vip" := by
  intro tokens
  have hderives : Grammar.Derives .lenient .disjunction tokens (name "vip") :=
    .ofConjunction (.ofComparison
      (.group rfl (.ofConjunction (.ofComparison (.bare rfl (.name rfl)))) rfl))
  obtain ⟨hparse, hunique, -⟩ := parse_eq_ok_iff_derives .lenient tokens
  constructor
  · refine (hparse _).2 ⟨hderives, ?_⟩
    simp [tokens, Grammar.opens, maxNesting]
  · intro other hother
    exact hunique other _ hother hderives

end Condition

end Eligibility

import Eligibility.Proofs.Evaluation
import Eligibility.Proofs.Parsing
import Eligibility.Proofs.Result
import Eligibility.Rule

/-!
# Strict reading refuses what cannot be evaluated

A lenient reader keeps operands that are compared with nothing, and a strict one stops at the first
of them. What it stops at is found again without a reader: it is the first bare operand of the
condition that the lenient reader builds, the one that an evaluator complains about.

* **The grammars** (`Derives.lenient`, `Derives.strict`): the strict grammar derives exactly the
  conditions of the lenient one that have no bare operand.
* **The first bare operand** (`refuses_of_derives`): by induction on the lenient derivation. Left of
  the first bare operand everything is derived strictly too, so the strict parser gets as far as
  that, through all levels and parentheses, and fails there.
* **Both readings of tokens and of texts** (`refusesBareOperands_ofTokens`,
  `refusesBareOperands_ofText`), and the claims of both about the same operand in
  `strict_refuses_unevaluable`.
-/

namespace Eligibility

namespace Grammar

open TokenReader

/-! ### The strict grammar -/

/-- What is derived in some mode is derived leniently. -/
theorem Derives.lenient {mode : ParseMode} {level : Level} {tokens : List Token}
    {condition : Condition} (h : Derives mode level tokens condition) :
    Derives .lenient level tokens condition := by
  induction h with
  | ofConjunction _ ih => exact .ofConjunction ih
  | or _ hjoint _ ihl ihr => exact .or ihl hjoint ihr
  | ofComparison _ ih => exact .ofComparison ih
  | and _ hjoint _ ihl ihr => exact .and ihl hjoint ihr
  | compare hfield hsymbol hside => exact .compare hfield hsymbol hside
  | group hopening _ hclosing ih => exact .group hopening ih hclosing
  | bare _ h => exact .bare rfl h

/-- What is derived strictly has no bare operand. -/
theorem Derives.bareOperands_eq_nil {level : Level} {tokens : List Token} {condition : Condition}
    (h : Derives .strict level tokens condition) : condition.bareOperands = [] := by
  induction h with
  | ofConjunction _ ih => exact ih
  | ofComparison _ ih => exact ih
  | or _ _ _ ihl ihr | and _ _ _ ihl ihr => rw [Condition.bareOperands_join, ihl, ihr]; rfl
  | compare => rfl
  | group _ _ _ ih => exact ih
  | bare hmode => cases hmode

/-- What is derived and has no bare operand is derived strictly. -/
theorem Derives.strict {mode : ParseMode} {level : Level} {tokens : List Token}
    {condition : Condition} (h : Derives mode level tokens condition)
    (hbare : condition.bareOperands = []) : Derives .strict level tokens condition := by
  induction h with
  | ofConjunction _ ih => exact .ofConjunction (ih hbare)
  | ofComparison _ ih => exact .ofComparison (ih hbare)
  | or _ hjoint _ ihl ihr =>
    rw [Condition.bareOperands_join, List.append_eq_nil_iff] at hbare
    exact .or (ihl hbare.1) hjoint (ihr hbare.2)
  | and _ hjoint _ ihl ihr =>
    rw [Condition.bareOperands_join, List.append_eq_nil_iff] at hbare
    exact .and (ihl hbare.1) hjoint (ihr hbare.2)
  | compare hfield hsymbol hside => exact .compare hfield hsymbol hside
  | group hopening _ hclosing ih => exact .group hopening (ih hbare) hclosing
  | bare _ h =>
    rw [Condition.bareOperands_operand] at hbare
    cases hbare

/-! ### The first bare operand -/

/-- How the strict parser refuses tokens of a level when some number of parentheses may be opened:
it stops at this operand, whatever stands behind the tokens, if it is no comparator. -/
def Refuses (allowance : Nat) : Level → List Token → Operand → Prop
  | .comparison, tokens, operand => ∀ depth rest, NoComparator rest →
    Fails (comparison .strict (inner? .strict allowance)) ⟨tokens ++ rest, depth⟩
      (.bareOperand operand)
  | .conjunction, tokens, operand => ∀ depth rest, NoComparator rest →
    Fails (chain .and (comparison .strict (inner? .strict allowance))) ⟨tokens ++ rest, depth⟩
      (.bareOperand operand)
  | .disjunction, tokens, operand => ∀ depth rest, NoComparator rest →
    Fails (disjunction .strict (inner? .strict allowance)) ⟨tokens ++ rest, depth⟩
      (.bareOperand operand)

/-- The first bare operand of a join is one of the left side, or the left side has none and it is
one of the right side. -/
theorem head?_bareOperands_join {connective : Connective} {left right : Condition}
    {operand : Operand}
    (h : (Condition.join connective left right).bareOperands.head? = some operand) :
    left.bareOperands.head? = some operand ∨
      left.bareOperands = [] ∧ right.bareOperands.head? = some operand := by
  rw [Condition.bareOperands_join] at h
  rcases hleft : left.bareOperands with _ | ⟨first, others⟩
  · rw [hleft, List.nil_append] at h
    exact .inr ⟨rfl, h⟩
  · rw [hleft, List.cons_append, List.head?_cons] at h
    exact .inl h

/-- **The strict parser stops at the first bare operand** of what is derived leniently, if the
parentheses do not go deeper than allowed. -/
theorem refuses_of_derives {level : Level} {tokens : List Token} {condition : Condition}
    (h : Derives .lenient level tokens condition) {operand : Operand}
    (hhead : condition.bareOperands.head? = some operand) :
    ∀ allowance : Nat, NestedWithin allowance tokens → Refuses allowance level tokens operand := by
  induction h with
  | ofConjunction _ ih | ofComparison _ ih =>
    intro allowance hnested depth rest hrest
    exact (ih hhead allowance hnested depth rest hrest).bind _
  | @and first second joint left right hleft hjoint _ ihl ihr =>
    intro allowance hnested depth rest hrest
    rw [nestedWithin_append, nestedWithin_cons, hleft.openParens_eq_zero,
      opens_of_connective hjoint] at hnested
    obtain ⟨hfirst, -, hsecond⟩ := hnested
    rw [List.append_assoc, List.cons_append]
    obtain hhead | ⟨hbare, hhead⟩ := head?_bareOperands_join hhead
    · exact ihl hhead allowance hfirst depth _ (noComparator_of_kind (by rw [hjoint]; rfl) _)
    · -- the left side is derived strictly, so the parser reads on to the right side
      exact fails_and (hleft.strict hbare) hfirst hjoint
        (ihr hhead allowance (by simpa using hsecond) depth rest hrest)
  | @or first second joint left right hleft hjoint _ ihl ihr =>
    intro allowance hnested depth rest hrest
    rw [nestedWithin_append, nestedWithin_cons, hleft.openParens_eq_zero,
      opens_of_connective hjoint] at hnested
    obtain ⟨hfirst, -, hsecond⟩ := hnested
    rw [List.append_assoc, List.cons_append]
    obtain hhead | ⟨hbare, hhead⟩ := head?_bareOperands_join hhead
    · exact ihl hhead allowance hfirst depth _ (noComparator_of_kind (by rw [hjoint]; rfl) _)
    · exact fails_or (hleft.strict hbare) hfirst hjoint
        (ihr hhead allowance (by simpa using hsecond) depth rest hrest)
  | compare => cases hhead
  | @group opening closing tokens condition hopening hderives hclosing ih =>
    intro allowance hnested depth rest hrest
    rw [nestedWithin_cons, nestedWithin_append, opens_of_leftParen hopening] at hnested
    obtain ⟨-, htokens, hclosed⟩ := hnested
    rw [hderives.openParens_eq_zero, nestedWithin_cons] at hclosed
    obtain ⟨below, rfl⟩ : ∃ below, allowance = below + 1 := ⟨allowance - 1, by omega⟩
    have hbelow : NestedWithin below tokens := by
      have heq : ((below + 1 : Nat) : Int) - 1 = below := by omega
      rwa [heq] at htokens
    have hinner := ih hhead below hbelow (depth + 1) (closing :: rest)
      (noComparator_of_kind (by rw [hclosing]; rfl) rest)
    rw [← expression_eq] at hinner
    rw [List.cons_append, List.append_assoc]
    exact (fails_primary hopening hinner).bind _
  | @bare token found _ hdenotes =>
    intro allowance _ depth rest hrest
    obtain rfl : found = operand := by simpa using hhead
    refine ⟨⟨rest, depth⟩, ?_⟩
    rw [comparison, run_bind, List.cons_append, List.nil_append, primary_of_denotes hdenotes]
    simp only
    rw [run_bind, comparator?_of_noComparator hrest]
    rfl

end Grammar

/-! ### Two readings of the same tokens -/

/-- How a strict reading stands to a lenient one of the same: it fails where the lenient one does,
and otherwise it either gives the same condition, which then has a truth value for every record, or
it refuses an operand, and then the condition has no truth value because of that operand. `refuse`
is the refusal of an operand. -/
structure RefusesBareOperands {ε : Type} (refuse : Operand → ε)
    (lenient strict : Except ε Condition) : Prop where
  of_error : ∀ e, lenient = .error e → ∃ other, strict = .error other
  of_ok : ∀ condition, lenient = .ok condition → ∀ record,
    (strict = .ok condition ∧ condition.isEvaluable = true ∧
      ∃ value, condition.evaluate record = .ok value) ∨
    ∃ operand, strict = .error (refuse operand) ∧ condition.isEvaluable = false ∧
      condition.evaluate record = .error (.bareOperand operand)

/-- Two readings stand to each other as before when their faults are worded anew. -/
theorem RefusesBareOperands.mapError {ε δ : Type} {refuse : Operand → ε}
    {lenient strict : Except ε Condition} (h : RefusesBareOperands refuse lenient strict)
    (f : ε → δ) :
    RefusesBareOperands (fun operand => f (refuse operand)) (lenient.mapError f)
      (strict.mapError f) := by
  refine ⟨fun e he => ?_, fun condition hcondition record => ?_⟩
  · rcases lenient with cause | condition
    · obtain ⟨other, rfl⟩ := h.of_error cause rfl
      exact ⟨f other, rfl⟩
    · cases he
  · obtain ⟨rfl, hvalue⟩ | ⟨operand, rfl, hvalue⟩ :=
      h.of_ok condition (Except.mapError_eq_ok_iff.1 hcondition) record
    · exact .inl ⟨rfl, hvalue⟩
    · exact .inr ⟨operand, rfl, hvalue⟩

namespace Condition

/-- What is read strictly is read leniently. -/
theorem ofTokens_lenient_of_strict {tokens : List Token} {condition : Condition}
    (h : ofTokens .strict tokens = .ok condition) : ofTokens .lenient tokens = .ok condition := by
  obtain ⟨hderives, hnested⟩ := ofTokens_eq_ok_iff.1 h
  exact ofTokens_eq_ok_iff.2 ⟨hderives.lenient, hnested⟩

/-- What is read strictly from a text has a truth value for every record. -/
theorem isEvaluable_of_ofText_strict {text : String} {condition : Condition}
    (h : ofText .strict text = .ok condition) : condition.isEvaluable = true := by
  obtain ⟨tokens, -, hderives, -⟩ := ofText_eq_ok_iff.1 h
  exact condition.isEvaluable_eq_true_iff_bareOperands.2 hderives.bareOperands_eq_nil

/-- A condition without bare operands is read strictly too. -/
theorem ofTokens_strict_of_bareOperands_eq_nil {tokens : List Token} {condition : Condition}
    (h : ofTokens .lenient tokens = .ok condition) (hbare : condition.bareOperands = []) :
    ofTokens .strict tokens = .ok condition := by
  obtain ⟨hderives, hnested⟩ := ofTokens_eq_ok_iff.1 h
  exact ofTokens_eq_ok_iff.2 ⟨hderives.strict hbare, hnested⟩

/-- The first bare operand of a condition is refused. -/
theorem ofTokens_strict_of_head?_bareOperands {tokens : List Token} {condition : Condition}
    {operand : Operand} (h : ofTokens .lenient tokens = .ok condition)
    (hhead : condition.bareOperands.head? = some operand) :
    ofTokens .strict tokens = .error (.bareOperand operand) := by
  obtain ⟨hderives, hnested⟩ := ofTokens_eq_ok_iff.1 h
  have hrefuses := Grammar.refuses_of_derives hderives hhead maxNesting hnested 0 []
    Grammar.noComparator_nil
  rw [List.append_nil, ← Grammar.expression_eq] at hrefuses
  obtain ⟨after, hrun⟩ := hrefuses.bind _
  rw [ofTokens_eq hderives.ne_nil, Grammar.wholeRule, hrun]

/-- **Two readings of tokens.** -/
theorem refusesBareOperands_ofTokens (tokens : List Token) :
    RefusesBareOperands .bareOperand (ofTokens .lenient tokens) (ofTokens .strict tokens) := by
  refine ⟨fun e he => ?_, fun condition hcondition record => ?_⟩
  · rcases hstrict : ofTokens .strict tokens with other | condition
    · exact ⟨other, rfl⟩
    · rw [ofTokens_lenient_of_strict hstrict] at he
      cases he
  · rw [evaluate_eq_meaning]
    rcases hbare : condition.bareOperands with _ | ⟨operand, others⟩
    · left
      exact ⟨ofTokens_strict_of_bareOperands_eq_nil hcondition hbare,
        condition.isEvaluable_eq_true_iff_bareOperands.2 hbare, _,
        condition.meaning_of_bareOperands_eq_nil record hbare⟩
    · right
      have hhead : condition.bareOperands.head? = some operand := by rw [hbare, List.head?_cons]
      refine ⟨operand, ofTokens_strict_of_head?_bareOperands hcondition hhead, ?_,
        condition.meaning_of_head?_bareOperands record hhead⟩
      rw [← Bool.not_eq_true, condition.isEvaluable_eq_true_iff_bareOperands, hbare]
      exact List.cons_ne_nil _ _

/-- What is read from a text in either mode is read leniently too. -/
theorem ofText_lenient {mode : ParseMode} {text : String} {condition : Condition}
    (h : ofText mode text = .ok condition) : ofText .lenient text = .ok condition := by
  obtain ⟨tokens, htokens, hderives, hnested⟩ := ofText_eq_ok_iff.1 h
  exact ofText_eq_ok_iff.2 ⟨tokens, htokens, hderives.lenient, hnested⟩

/-- **Two readings of a text.** A character at which no token can start is found in both. -/
theorem refusesBareOperands_ofText (text : String) :
    RefusesBareOperands (fun operand => .ungrammatical (.bareOperand operand))
      (ofText .lenient text) (ofText .strict text) := by
  unfold ofText
  rcases tokenize text with e | tokens
  · refine ⟨fun _ _ => ⟨_, rfl⟩, fun condition h => ?_⟩
    cases h
  · exact (refusesBareOperands_ofTokens tokens).mapError RuleError.ungrammatical

/-- What is read leniently from a text and has a truth value is read strictly too. -/
theorem ofText_strict_of_isEvaluable {text : String} {condition : Condition}
    (h : ofText .lenient text = .ok condition) (hvalue : condition.isEvaluable = true) :
    ofText .strict text = .ok condition := by
  obtain ⟨hstrict, -⟩ | ⟨_, -, hnone, -⟩ := (refusesBareOperands_ofText text).of_ok _ h []
  · exact hstrict
  · rw [hvalue] at hnone
    cases hnone

/-- **Strict reading refuses exactly what cannot be evaluated.** Of any tokens, and of any text, the
strict reading fails where the lenient one does. Otherwise it gives the same condition, which has a
truth value for every record, or it refuses an operand, and then every evaluation of the condition
complains about that operand; both complaints show the operand by the same text. -/
theorem strict_refuses_unevaluable :
    (∀ tokens, RefusesBareOperands .bareOperand ({ tokens, mode := .lenient } : Parser).parse.1
      ({ tokens, mode := .strict } : Parser).parse.1) ∧
    (∀ text, RefusesBareOperands (fun operand => .ungrammatical (.bareOperand operand))
      (ofText .lenient text) (ofText .strict text)) ∧
    ∀ operand, ∃ shown, shown = (leaf (.operand operand)).ruleText ∧
      (ParseError.bareOperand operand).message =
        "Operand '" ++ shown ++ "' is not part of a comparison" ∧
      (EvaluationError.bareOperand operand).message =
        "Operand '" ++ shown ++ "' is not a comparison and cannot be evaluated" :=
  ⟨refusesBareOperands_ofTokens, refusesBareOperands_ofText, fun _ => ⟨_, rfl, rfl, rfl⟩⟩

/-- The rule `a = b OR vip` is read leniently, and strictly its bare name is refused, which is what
every evaluation complains about. -/
theorem strict_refuses_unevaluable_of_bare_name :
    let tokens : List Token := [⟨.name, "a", 0⟩, ⟨.comparator .equal, "=", 2⟩, ⟨.name, "b", 4⟩,
      ⟨.connective .or, "OR", 6⟩, ⟨.name, "vip", 9⟩]
    let condition : Condition := .join .or (.compare "a" .equal (.text "b")) (name "vip")
    ({ tokens, mode := .lenient } : Parser).parse.1 = .ok condition ∧
      ({ tokens, mode := .strict } : Parser).parse.1 = .error (.bareOperand (.name "vip")) ∧
      condition.evaluate [] = .error (.bareOperand (.name "vip")) := by
  intro tokens condition
  have hleft : Grammar.Derives .lenient .disjunction (tokens.take 3)
      (.compare "a" .equal (.text "b")) :=
    .ofConjunction (.ofComparison (.compare rfl rfl (.name rfl)))
  have hlenient : ofTokens .lenient tokens = .ok condition :=
    ofTokens_eq_ok_iff.2
      ⟨.or hleft rfl (.ofComparison (.bare rfl (.name rfl))), by simp [tokens, Grammar.opens]⟩
  have hvalue : condition.evaluate [] = .error (.bareOperand (.name "vip")) := by
    rw [evaluate_eq_meaning]
    rfl
  obtain ⟨-, -, value, hok⟩ | ⟨operand, hstrict, -, herror⟩ :=
    (strict_refuses_unevaluable.1 tokens).of_ok condition hlenient []
  · rw [hvalue] at hok
    cases hok
  · rw [hvalue] at herror
    cases herror
    exact ⟨hlenient, hstrict, hvalue⟩

end Condition

end Eligibility

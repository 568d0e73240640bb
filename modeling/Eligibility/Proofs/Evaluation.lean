import Eligibility.Condition.Evaluator

/-!
# Evaluators answer with the truth of a condition

An evaluator keeps a list of steps and a stack of results. What it should answer is said here
without either, by recursion on the condition and by a look at its leaves:

* `truth` is the truth value of a condition: its comparisons, joined by its connectives.
* `bareOperands` are the leaves that have no truth value, from left to right.

**Meaning** (`meaning_of_bareOperands_eq_nil`, `meaning_of_head?_bareOperands`): the meaning of a
condition is its truth when it has no bare operand, and otherwise the complaint about the leftmost
one, whatever the record holds.

**Runs of calls** (`performAll_eq`): an evaluator that is called many times, on conditions and on
documents in any order, gives each call the answer it would get alone, and its count is the sum of
what the calls add. `perform_answer` says what that is for one call after any others.
-/

namespace Eligibility

/-- The bare operand that a leaf is, unless it is a comparison. -/
def Leaf.operand? : Leaf → Option Operand
  | .comparison _ => none
  | .operand o => some o

namespace Condition

/-! ### The truth of a condition -/

/-- The truth value of a condition. A bare operand has none; `false` stands in for it, and no
statement rests on that. -/
def truth (record : Record) : Condition → Bool
  | .leaf (.comparison c) => Value.compares (record.get? c.field) c.comparator c.literal
  | .leaf (.operand _) => false
  | .join connective left right => connective.apply (left.truth record) (right.truth record)

/-- The bare operands of a condition, from left to right. -/
def bareOperands (condition : Condition) : List Operand :=
  condition.leaves.filterMap Leaf.operand?

/-- A comparison is no bare operand. -/
@[simp] theorem bareOperands_comparison (c : Comparison) :
    (leaf (.comparison c)).bareOperands = [] := rfl

/-- An operand that stands for itself is one. -/
@[simp] theorem bareOperands_operand (operand : Operand) :
    (leaf (.operand operand)).bareOperands = [operand] := rfl

/-- The bare operands of the left side come before those of the right one. -/
@[simp] theorem bareOperands_join (connective : Connective) (left right : Condition) :
    (join connective left right).bareOperands = left.bareOperands ++ right.bareOperands := by
  simp [bareOperands, leaves]

/-- A condition is evaluable when it has no bare operand. -/
theorem isEvaluable_eq_true_iff_bareOperands (condition : Condition) :
    condition.isEvaluable = true ↔ condition.bareOperands = [] := by
  rw [isEvaluable_eq_true_iff, bareOperands, List.filterMap_eq_nil_iff]
  refine forall₂_congr fun leaf _ => ?_
  cases leaf <;> simp [Leaf.isComparison, Leaf.operand?]

/-- Without bare operands a condition means its truth. -/
theorem meaning_of_bareOperands_eq_nil (record : Record) {condition : Condition}
    (h : condition.bareOperands = []) :
    condition.meaning record = .ok (condition.truth record) := by
  induction condition with
  | leaf leaf =>
    cases leaf with
    | comparison c => rfl
    | operand operand => simp at h
  | join connective left right ihl ihr =>
    rw [bareOperands_join, List.append_eq_nil_iff] at h
    rw [meaning, ihl h.1, ihr h.2]
    rfl

/-- The leftmost bare operand decides the meaning, whatever the record holds. -/
theorem meaning_of_head?_bareOperands (record : Record) {condition : Condition} {operand : Operand}
    (h : condition.bareOperands.head? = some operand) :
    condition.meaning record = .error (.bareOperand operand) := by
  induction condition with
  | leaf leaf =>
    cases leaf with
    | comparison c => simp at h
    | operand found =>
      obtain rfl : found = operand := by simpa using h
      rfl
  | join connective left right ihl ihr =>
    rw [bareOperands_join, List.head?_append] at h
    rw [meaning]
    rcases hleft : left.bareOperands with _ | ⟨first, others⟩
    · -- the left side has a truth value, so the complaint comes from the right
      rw [hleft, List.head?_nil, Option.none_or] at h
      rw [meaning_of_bareOperands_eq_nil record hleft, ihr h]
      rfl
    · rw [hleft, List.head?_cons, Option.some_or] at h
      rw [ihl (by rw [hleft, List.head?_cons, h])]
      rfl

/-- A complaint about an operand is one about the leftmost bare operand. -/
theorem meaning_eq_bareOperand_iff (record : Record) {condition : Condition} {operand : Operand} :
    condition.meaning record = .error (.bareOperand operand) ↔
      condition.bareOperands.head? = some operand := by
  refine ⟨fun h => ?_, meaning_of_head?_bareOperands record⟩
  rcases hhead : condition.bareOperands.head? with _ | first
  · rw [meaning_of_bareOperands_eq_nil record (List.head?_eq_none_iff.1 hhead)] at h
    cases h
  · rw [meaning_of_head?_bareOperands record hhead] at h
    cases h
    rfl

end Condition

/-! ### Messages -/

/-- A text whose front does not agree with another text differs from it, whatever comes behind. -/
theorem Text.append_ne {front text : String} (h : ¬ front.toList <+: text.toList) (back : String) :
    front ++ back ≠ text := by
  rintro rfl
  exact h (by simp)

/-- What is said about the form of a document is never said about a join. -/
theorem Malformation.message_ne (malformation : Malformation) :
    malformation.message ≠ "logical node without two operands" := by
  cases malformation with
  | notAnObject => decide
  | operandNotAnObject => decide
  | operatorNotText => decide
  | comparatorNotText => decide
  | missing member =>
    show "missing '" ++ member ++ "'" ≠ _
    rw [String.append_assoc]
    exact Text.append_ne (by decide) _
  | invalidField found => exact Text.append_ne (by decide) _
  | invalidName found => exact Text.append_ne (by decide) _
  | mixedQuotes found =>
    show "text literal " ++ found.compact ++ " uses both quote characters" ≠ _
    rw [String.append_assoc]
    exact Text.append_ne (by decide) _
  | invalidLiteral found => exact Text.append_ne (by decide) _

/-- No other complaint reads like that of a join without two results. -/
theorem EvaluationError.message_ne_missingResult {error : EvaluationError}
    (h : error ≠ .missingResult) : error.message ≠ EvaluationError.missingResult.message := by
  cases error with
  | missingResult => exact absurd rfl h
  | bareOperand operand =>
    rw [message, String.append_assoc]
    exact Text.append_ne (by decide) _
  | undecodable error =>
    cases error with
    | unknownType found => exact Text.append_ne (by decide) _
    | unsupportedComparator symbol => exact Text.append_ne (by decide) _
    | unsupportedConnective keyword => exact Text.append_ne (by decide) _
    | malformed malformation =>
      intro heq
      exact malformation.message_ne ((String.append_right_inj "Malformed node: ").1 heq)

namespace Evaluator

/-! ### Calls -/

/-- What an evaluator is called on: a condition, or a document that may hold one. -/
inductive Call where
  | condition (condition : Condition) (record : Record)
  | document (document : Json) (record : Record)

namespace Call

/-- The record of a call. -/
def record : Call → Record
  | .condition _ r => r
  | .document _ r => r

/-- The condition of a call, or the reason why its document holds none. -/
def condition? : Call → Except CanonicalError Condition
  | .condition c _ => .ok c
  | .document d _ => Condition.ofCanonical d

/-- The answer to a call. -/
def answer (call : Call) : Verdict :=
  match call.condition? with
  | .ok c => c.meaning call.record
  | .error e => .error (.undecodable e)

/-- The number of leaves visited during a call. -/
def leavesMet (call : Call) : Nat :=
  match call.condition? with
  | .ok c => c.leaves.length
  | .error _ => 0

end Call

/-- Makes a call. -/
def perform (evaluator : Evaluator) : Call → Verdict × Evaluator
  | .condition c record => evaluator.evaluate c record
  | .document d record => evaluator.evaluateCanonical d record

/-- Makes calls one after the other, and gathers the answers. -/
def performAll (evaluator : Evaluator) : List Call → List Verdict × Evaluator
  | [] => ([], evaluator)
  | call :: rest =>
    let (answer, after) := evaluator.perform call
    let (answers, last) := after.performAll rest
    (answer :: answers, last)

/-- One call. -/
theorem perform_eq (evaluator : Evaluator) (call : Call) :
    evaluator.perform call = (call.answer, ⟨evaluator.leavesVisited + call.leavesMet⟩) := by
  cases call with
  | condition condition record => exact evaluator.evaluate_eq condition record
  | document document record =>
    rw [perform, evaluateCanonical, Call.answer, Call.leavesMet, Call.condition?]
    cases Condition.ofCanonical document with
    | error e => rfl
    | ok condition => exact evaluator.evaluate_eq condition record

/-- A run of calls: each is answered as if it were the only one, and the counts add up. -/
theorem performAll_eq (evaluator : Evaluator) (calls : List Call) :
    evaluator.performAll calls =
      (calls.map Call.answer,
        ⟨evaluator.leavesVisited + (calls.map Call.leavesMet).sum⟩) := by
  induction calls generalizing evaluator with
  | nil => rfl
  | cons call rest ih =>
    rw [performAll, perform_eq]
    simp only [ih, List.map_cons, List.sum_cons, Nat.add_assoc]

/-- A call is never answered by the complaint about a join without two results. -/
theorem Call.answer_ne_missingResult (call : Call) : call.answer ≠ .error .missingResult := by
  rw [Call.answer]
  cases call.condition? with
  | error e => simp
  | ok condition =>
    rcases h : condition.bareOperands with _ | ⟨operand, others⟩
    · simp [condition.meaning_of_bareOperands_eq_nil call.record h]
    · have hhead : condition.bareOperands.head? = some operand := by rw [h, List.head?_cons]
      simp [condition.meaning_of_head?_bareOperands call.record hhead]

/-- **One call after any others.** An evaluator that has been called before, on whatever, answers a
call whose condition has no bare operand with the truth of that condition, and any other condition
with a complaint about its leftmost bare operand; both times all leaves are counted. A document that
holds no condition leaves the count as it is. No answer reads like the complaint about a join
without two results. -/
theorem perform_answer (earlier : List Call) (call : Call) :
    let evaluator := (({} : Evaluator).performAll earlier).2
    (∀ condition, call.condition? = .ok condition →
      (condition.bareOperands = [] →
        (evaluator.perform call).1 = .ok (condition.truth call.record)) ∧
      (∀ operand, condition.bareOperands.head? = some operand →
        (evaluator.perform call).1 = .error (.bareOperand operand) ∧
        (EvaluationError.bareOperand operand).message =
          "Operand '" ++ (Condition.leaf (.operand operand)).ruleText ++
            "' is not a comparison and cannot be evaluated") ∧
      (evaluator.perform call).2.leavesVisited =
        evaluator.leavesVisited + condition.leafCount ∧
      condition.leafCount = condition.leaves.length) ∧
    (∀ error, call.condition? = .error error →
      evaluator.perform call = (.error (.undecodable error), evaluator)) ∧
    (∀ error, (evaluator.perform call).1 = .error error →
      error.message ≠ EvaluationError.missingResult.message) := by
  intro evaluator
  rw [perform_eq]
  refine ⟨fun condition hcondition => ?_, fun error herror => ?_, fun error herror => ?_⟩
  · have hanswer : call.answer = condition.meaning call.record := by
      rw [Call.answer, hcondition]
    have hmet : call.leavesMet = condition.leafCount := by
      rw [Call.leavesMet, hcondition, condition.leafCount_eq]
    refine ⟨fun hbare => ?_, fun operand hhead => ⟨?_, rfl⟩, ?_, condition.leafCount_eq⟩
    · rw [hanswer, condition.meaning_of_bareOperands_eq_nil call.record hbare]
    · rw [hanswer, condition.meaning_of_head?_bareOperands call.record hhead]
    · rw [hmet]
  · rw [Call.answer, Call.leavesMet, herror]
    rfl
  · apply EvaluationError.message_ne_missingResult
    rintro rfl
    exact call.answer_ne_missingResult herror

/-- After a document that holds no condition, a bare operand is complained about although the other
side of the join is false, and both leaves are counted. -/
theorem perform_answer_bareOperand :
    let evaluator := (({} : Evaluator).performAll [.document .null []]).2
    let condition : Condition :=
      .join .and (.compare "age" .equal (.text "x")) (.leaf (.operand (.name "vip")))
    (evaluator.perform (.condition condition [])).1 = .error (.bareOperand (.name "vip")) ∧
      (evaluator.perform (.condition condition [])).2.leavesVisited = 2 := by
  intro evaluator condition
  obtain ⟨hcalls, -, -⟩ := perform_answer [.document .null []] (.condition condition [])
  obtain ⟨-, hbare, hvisited, hcount⟩ := hcalls condition rfl
  refine ⟨(hbare (.name "vip") rfl).1, ?_⟩
  rw [hvisited, hcount, performAll_eq]
  simp [Call.leavesMet, Call.condition?, Condition.ofCanonical, condition, Condition.leaves,
    Condition.compare]

end Evaluator

end Eligibility

import Eligibility.Condition.Canonical
import Eligibility.Condition.Text

/-!
# Evaluation

A condition is true or false of a record, or has no truth value because a leaf is a bare operand.
Both sides of a join are always evaluated, also when one of them decides the result or has no value,
so the number of leaves visited does not depend on the record. Of two sides without a value the left
one is reported.

`meaning` says by plain recursion what a condition is worth. An `Evaluator` works the same out with
a list of steps still to be done and a stack of results, and counts the leaves it visits.

Main statements: `run_visit` (doing the steps of a condition puts its meaning on the stack and
counts its leaves) and `evaluate_eq` (an evaluator answers with the meaning).
-/

namespace Eligibility

/-- Why there is no answer for a record. -/
inductive EvaluationError where
  /-- The document holds no condition. -/
  | undecodable (error : CanonicalError)
  /-- This operand is compared with nothing. -/
  | bareOperand (operand : Operand)
  /-- A join was reached with fewer than two results. -/
  | missingResult

/-- What is said when there is no answer. -/
def EvaluationError.message : EvaluationError → String
  | undecodable error => error.message
  | bareOperand operand =>
    "Operand '" ++ operand.ruleText ++ "' is not a comparison and cannot be evaluated"
  | missingResult => "Malformed node: logical node without two operands"

/-- A truth value, or the reason why there is none. -/
abbrev Verdict := Except EvaluationError Bool

/-- The verdict on a join; the left side's reason comes first. -/
def Connective.verdict (connective : Connective) : Verdict → Verdict → Verdict
  | .error e, _ => .error e
  | .ok _, .error e => .error e
  | .ok left, .ok right => .ok (connective.apply left right)

/-- The verdict on a leaf. -/
def Leaf.verdict (record : Record) : Leaf → Verdict
  | .comparison c => .ok (Value.compares (record.get? c.field) c.comparator c.literal)
  | .operand o => .error (.bareOperand o)

/-- The verdict on a condition. -/
def Condition.meaning (record : Record) : Condition → Verdict
  | .leaf l => l.verdict record
  | .join connective left right =>
    connective.verdict (left.meaning record) (right.meaning record)

/-- A step of an evaluation. -/
inductive Step where
  /-- Evaluate this condition. -/
  | visit (condition : Condition)
  /-- Join the last two results. -/
  | join (connective : Connective)

/-- The work that a step stands for. -/
def Step.weight : Step → Nat
  | .visit condition => 2 * condition.nodeCount
  | .join _ => 1

/-- Evaluates conditions and counts the leaves visited since the start. -/
structure Evaluator where
  /-- The number of leaves visited. -/
  leavesVisited : Nat := 0
deriving DecidableEq, Repr

namespace Evaluator

/-- Does the steps in order. `results` holds the results so far, the last one first, and `visited`
is the number of leaves visited. The answer is the last result. -/
def run (record : Record) (steps : List Step) (results : List Verdict) (visited : Nat) :
    Verdict × Nat :=
  match steps with
  | [] => (results.headD (.error .missingResult), visited)
  | .visit (.leaf l) :: rest => run record rest (l.verdict record :: results) (visited + 1)
  | .visit (.join connective left right) :: rest =>
    run record (.visit left :: .visit right :: .join connective :: rest) results visited
  | .join connective :: rest =>
    match results with
    | right :: left :: results =>
      run record rest (connective.verdict left right :: results) visited
    | _ => run record rest [.error .missingResult] visited
termination_by (steps.map Step.weight).sum
decreasing_by all_goals simp [Step.weight, Condition.nodeCount]; try omega

/-- Evaluates a condition. -/
def evaluate (evaluator : Evaluator) (condition : Condition) (record : Record) :
    Verdict × Evaluator :=
  let (verdict, visited) := run record [.visit condition] [] evaluator.leavesVisited
  (verdict, ⟨visited⟩)

/-- Reads a condition from its canonical form and evaluates it. -/
def evaluateCanonical (evaluator : Evaluator) (document : Json) (record : Record) :
    Verdict × Evaluator :=
  match Condition.ofCanonical document with
  | .error e => (.error (.undecodable e), evaluator)
  | .ok condition => evaluator.evaluate condition record

/-- The steps of a condition put its meaning on the stack of results and count its leaves. -/
theorem run_visit (record : Record) (condition : Condition) (rest : List Step)
    (results : List Verdict) (visited : Nat) :
    run record (.visit condition :: rest) results visited =
      run record rest (condition.meaning record :: results)
        (visited + condition.leaves.length) := by
  induction condition generalizing rest results visited with
  | leaf l => rw [run]; rfl
  | join connective left right ihl ihr =>
    rw [run, ihl, ihr, run]
    simp [Condition.meaning, Condition.leaves, Nat.add_assoc]

/-- An evaluator answers with the meaning of the condition and counts all its leaves. -/
theorem evaluate_eq (evaluator : Evaluator) (condition : Condition) (record : Record) :
    evaluator.evaluate condition record =
      (condition.meaning record, ⟨evaluator.leavesVisited + condition.leaves.length⟩) := by
  simp [evaluate, run_visit, run]

end Evaluator

/-- The verdict on a condition, worked out from the start. -/
def Condition.evaluate (condition : Condition) (record : Record) : Verdict :=
  (({} : Evaluator).evaluate condition record).1

/-- The verdict on a condition in canonical form. -/
def Condition.evaluateCanonical (document : Json) (record : Record) : Verdict :=
  (({} : Evaluator).evaluateCanonical document record).1

/-- A fresh evaluator answers with the meaning. -/
@[simp] theorem Condition.evaluate_eq_meaning (condition : Condition) (record : Record) :
    condition.evaluate record = condition.meaning record := by
  rw [Condition.evaluate, Evaluator.evaluate_eq]

end Eligibility

import Eligibility.Connective
import Eligibility.Text.Word
import Eligibility.Value

/-!
# Conditions

A rule is a tree: its leaves compare a field with a literal, and its inner nodes join two
conditions. A leaf can also be a bare operand, a name or a literal that is compared with nothing;
such a leaf has no truth value.

Trees that join many rules are as deep as the rules are many, so whatever walks along the leaves
does so with a list of pending conditions instead of by recursion. `leaves` is the plain recursion
that says what such a walk meets.

Main statements: `foldLeaves_eq` (a walk meets the leaves from left to right), `leafCount_eq` and
`isEvaluable_eq_true_iff`.
-/

namespace Eligibility

/-- A field compared with a literal. -/
structure Comparison where
  field : String
  comparator : Comparator
  literal : Literal
deriving DecidableEq, Repr

/-- A name or a literal on its own. -/
inductive Operand where
  | name (text : String)
  | literal (value : Literal)
deriving DecidableEq, Repr

/-- A leaf of a condition. -/
inductive Leaf where
  | comparison (comparison : Comparison)
  | operand (operand : Operand)
deriving DecidableEq, Repr

/-- A rule as a tree. -/
inductive Condition where
  | leaf (leaf : Leaf)
  | join (connective : Connective) (left right : Condition)
deriving DecidableEq, Repr

namespace Leaf

/-- Is this leaf a comparison? -/
def isComparison : Leaf → Bool
  | .comparison _ => true
  | .operand _ => false

/-- Do two leaves agree, numbers being compared as numbers? -/
def agrees : Leaf → Leaf → Bool
  | .comparison a, .comparison b =>
    a.field == b.field && a.comparator == b.comparator && a.literal.agrees b.literal
  | .operand (.name a), .operand (.name b) => a == b
  | .operand (.literal a), .operand (.literal b) => a.agrees b
  | _, _ => false

end Leaf

namespace Condition

/-- The condition that compares a field with a literal. -/
def compare (field : String) (comparator : Comparator) (literal : Literal) : Condition :=
  .leaf (.comparison ⟨field, comparator, literal⟩)

/-- A name on its own. -/
def name (text : String) : Condition := .leaf (.operand (.name text))

/-- A literal on its own. -/
def literal (value : Literal) : Condition := .leaf (.operand (.literal value))

/-- Joins a list of conditions, each one to the join of those before it; there must be at least
one. -/
def joinAll? (connective : Connective) : List Condition → Option Condition
  | [] => none
  | first :: rest => some (rest.foldl (.join connective) first)

/-- Do two conditions agree in everything, numbers being compared as numbers? -/
def agrees : Condition → Condition → Bool
  | .leaf a, .leaf b => a.agrees b
  | .join c l r, .join d m s => c == d && l.agrees m && r.agrees s
  | _, _ => false

/-! ### Leaves -/

/-- The leaves of a condition from left to right. -/
def leaves : Condition → List Leaf
  | .leaf l => [l]
  | .join _ left right => left.leaves ++ right.leaves

/-- The number of nodes of a condition. -/
def nodeCount : Condition → Nat
  | .leaf _ => 1
  | .join _ left right => left.nodeCount + right.nodeCount + 1

/-- The number of nodes of several conditions. -/
def nodeCounts (pending : List Condition) : Nat := (pending.map nodeCount).sum

/-- Goes along the leaves of the pending conditions from left to right and gathers a value. -/
def foldLeaves (step : α → Leaf → α) (gathered : α) (pending : List Condition) : α :=
  match pending with
  | [] => gathered
  | .leaf l :: rest => foldLeaves step (step gathered l) rest
  | .join _ left right :: rest => foldLeaves step gathered (left :: right :: rest)
termination_by nodeCounts pending
decreasing_by all_goals simp [nodeCounts, nodeCount]; try omega

/-- The number of leaves. -/
def leafCount (condition : Condition) : Nat := foldLeaves (fun n _ => n + 1) 0 [condition]

/-- Is every leaf a comparison, so that the condition has a truth value for every record? -/
def isEvaluable (condition : Condition) : Bool :=
  foldLeaves (fun all leaf => all && leaf.isComparison) true [condition]

/-- A walk meets the leaves of the pending conditions from left to right. -/
theorem foldLeaves_eq (step : α → Leaf → α) (gathered : α) (pending : List Condition) :
    foldLeaves step gathered pending = (pending.flatMap leaves).foldl step gathered := by
  fun_induction foldLeaves step gathered pending with
  | case1 => rfl
  | case2 gathered l rest ih => simp [ih, leaves]
  | case3 gathered _ left right rest ih => simp [ih, leaves]

/-- The leaves are counted one by one. -/
theorem leafCount_eq (condition : Condition) : condition.leafCount = condition.leaves.length := by
  have count : ∀ (leaves : List Leaf) (n : Nat),
      leaves.foldl (fun n _ => n + 1) n = n + leaves.length := by
    intro leaves
    induction leaves with
    | nil => simp
    | cons _ _ ih => intro n; simp [ih]; omega
  simp [leafCount, foldLeaves_eq, count]

/-- A condition is evaluable when all its leaves are comparisons. -/
theorem isEvaluable_eq_true_iff (condition : Condition) :
    condition.isEvaluable = true ↔ ∀ leaf ∈ condition.leaves, leaf.isComparison = true := by
  have gather : ∀ (leaves : List Leaf) (start : Bool),
      leaves.foldl (fun all leaf => all && leaf.isComparison) start =
        (start && leaves.all Leaf.isComparison) := by
    intro leaves
    induction leaves with
    | nil => simp
    | cons _ _ ih => intro start; simp [ih, Bool.and_assoc]
  simp [isEvaluable, foldLeaves_eq, gather, List.all_eq_true]

/-- A join has a truth value when both its sides have one. -/
@[simp] theorem isEvaluable_join (connective : Connective) (left right : Condition) :
    (join connective left right).isEvaluable = (left.isEvaluable && right.isEvaluable) := by
  rw [Bool.eq_iff_iff, Bool.and_eq_true]
  simp only [isEvaluable_eq_true_iff, leaves, List.mem_append]
  exact ⟨fun h => ⟨fun l hl => h l (.inl hl), fun l hl => h l (.inr hl)⟩,
    fun h l hl => hl.elim (h.1 l) (h.2 l)⟩

end Condition

end Eligibility

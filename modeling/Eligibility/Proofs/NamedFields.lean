import Eligibility.Proofs.Comparisons
import Eligibility.Proofs.Evaluation

/-!
# What is read of a record

A condition reads of a record the fields that its comparisons name, and of these no more than a
comparison can tell. Two records that look the same to it get the same answer, from any evaluator.

* **Comparisons** (`Condition.comparisons`, `Condition.meaning_congr`): a condition means the same
  of two records when each of its comparisons holds of both or of neither.
* **Held values** (`Record.held?`, `Value.compares_held?`): a null is as good as no field.
* **The same value** (`Value.IsSame`): no comparison tells it apart. The two zeros are the same
  number here although they are written differently.
* **Numeric views** (`Record.number?`): when all literals are numbers, any two values that count as
  the same number will do, and so will any two that count as none.

`Condition.evaluate_of_same_fields` puts all this together.
-/

namespace Eligibility

/-! ### The comparisons of a condition -/

/-- The comparison that a leaf is, unless it is a bare operand. -/
def Leaf.comparison? : Leaf → Option Comparison
  | .comparison c => some c
  | .operand _ => none

/-- Does a comparison hold of a record? -/
def Comparison.holdsOf (record : Record) (c : Comparison) : Bool :=
  Value.compares (record.get? c.field) c.comparator c.literal

namespace Condition

/-- The comparisons of a condition, from left to right. -/
def comparisons (condition : Condition) : List Comparison :=
  condition.leaves.filterMap Leaf.comparison?

/-- A comparison is the only one in its leaf. -/
@[simp] theorem comparisons_comparison (c : Comparison) :
    (leaf (.comparison c)).comparisons = [c] := rfl

/-- The comparisons of the left side come before those of the right one. -/
@[simp] theorem comparisons_join (connective : Connective) (left right : Condition) :
    (join connective left right).comparisons = left.comparisons ++ right.comparisons := by
  simp [comparisons, leaves]

/-- A condition means the same of two records when each of its comparisons holds of both or of
neither. -/
theorem meaning_congr {condition : Condition} {first second : Record}
    (h : ∀ c ∈ condition.comparisons, c.holdsOf first = c.holdsOf second) :
    condition.meaning first = condition.meaning second := by
  induction condition with
  | leaf leaf =>
    cases leaf with
    | comparison c => exact congrArg Except.ok (h c (by simp))
    | operand operand => rfl
  | join connective left right ihl ihr =>
    rw [comparisons_join, List.forall_mem_append] at h
    rw [meaning, meaning, ihl h.1, ihr h.2]

end Condition

/-! ### The same values -/

/-- The same number: that number itself, or one that compares as equal to it. -/
def Binary64.IsSame (x y : Binary64) : Prop := x = y ∨ x.numericallyEqual y = true

/-- The same number is ordered against others in the same way. -/
theorem Binary64.IsSame.order?_eq {x y : Binary64} (h : x.IsSame y) (z : Binary64) :
    x.order? z = y.order? z := by
  have hkeys : x.key? = y.key? := by
    rcases h with rfl | h
    · rfl
    · obtain ⟨a, b, ha, hb, hcompare⟩ := order?_eq_some_iff.1 (beq_iff_eq.1 h)
      rw [ha, hb, Int.compare_eq_eq.1 hcompare]
  rw [order?, order?, hkeys]

namespace Value

/-- The same value: that value itself, or the same number. -/
inductive IsSame : Value → Value → Prop
  | refl (value : Value) : IsSame value value
  | number {x y : Binary64} (h : x.IsSame y) : IsSame (.number x) (.number y)

/-- The same value stands in the same way to a literal. -/
theorem IsSame.order?_eq {a b : Value} (h : a.IsSame b) (literal : Literal) :
    a.order? literal = b.order? literal := by
  cases h with
  | refl => rfl
  | number h =>
    cases literal with
    | number z => exact h.order?_eq z
    | text text =>
      rw [order?_number_text, order?_number_text]
      exact Option.bind_congr fun z _ => h.order?_eq z

end Value

namespace Record

/-- The value of a field, unless the field is missing or null. -/
def held? (record : Record) (field : String) : Option Value :=
  (record.get? field).filter fun value => !value.isNull

/-- The number that the value of a field counts as, if there is a value and it counts as one. -/
def number? (record : Record) (field : String) : Option Binary64 :=
  (record.get? field).bind Value.number?

end Record

/-- For a comparison a null is as good as no field. -/
theorem Value.compares_held? (record : Record) (field : String) (comparator : Comparator)
    (literal : Literal) :
    compares (record.held? field) comparator literal =
      compares (record.get? field) comparator literal := by
  rw [Record.held?]
  rcases record.get? field with _ | (_ | _ | _ | _) <;> rfl

/-- What is read from values that are the same, or from no value twice, is the same. -/
theorem bind_eq_of_rel {α β : Type} {same : α → α → Prop} {read : α → Option β}
    (hread : ∀ a b, same a b → read a = read b) {a? b? : Option α} (h : Option.Rel same a? b?) :
    a?.bind read = b?.bind read := by
  cases h with
  | none => rfl
  | some h => exact hread _ _ h

namespace Comparison

variable {c : Comparison} {first second : Record}

/-- A comparison does not tell two records apart that have the same value for its field. -/
theorem holdsOf_eq_of_held?
    (h : Option.Rel Value.IsSame (first.held? c.field) (second.held? c.field)) :
    c.holdsOf first = c.holdsOf second := by
  rw [holdsOf, holdsOf, ← Value.compares_held?, ← Value.compares_held?, Value.compares_eq,
    Value.compares_eq, bind_eq_of_rel (fun _ _ hsame => hsame.order?_eq c.literal) h]

/-- A comparison with a number does not tell two records apart whose values for its field count as
the same number, or both as none. -/
theorem holdsOf_eq_of_number? {z : Binary64} (hliteral : c.literal = .number z)
    (h : Option.Rel Binary64.IsSame (first.number? c.field) (second.number? c.field)) :
    c.holdsOf first = c.holdsOf second := by
  have horder := bind_eq_of_rel (fun _ _ hsame => hsame.order?_eq z) h
  rw [Record.number?, Record.number?, ← Value.bind_order?_number, ← Value.bind_order?_number]
    at horder
  rw [holdsOf, holdsOf, hliteral, Value.compares_eq, Value.compares_eq, horder]

end Comparison

/-! ### Answers -/

namespace Condition

/-- **Only the named fields count, and only as far as comparisons see them.** Two records that have
the same values for the fields named in the comparisons of a condition, a null being no value, get
the same answer from any evaluator, which counts the same leaves. When all literals of the
comparisons are numbers, it suffices that these values count as the same numbers, or as none. -/
theorem evaluate_of_same_fields (condition : Condition) (first second : Record) :
    ((∀ c ∈ condition.comparisons,
        Option.Rel Value.IsSame (first.held? c.field) (second.held? c.field)) →
      ∀ evaluator : Evaluator,
        evaluator.evaluate condition first = evaluator.evaluate condition second) ∧
    ((∀ c ∈ condition.comparisons, ∃ z, c.literal = .number z) →
      (∀ c ∈ condition.comparisons,
        Option.Rel Binary64.IsSame (first.number? c.field) (second.number? c.field)) →
      ∀ evaluator : Evaluator,
        evaluator.evaluate condition first = evaluator.evaluate condition second) := by
  have hanswer : (∀ c ∈ condition.comparisons, c.holdsOf first = c.holdsOf second) →
      ∀ evaluator : Evaluator,
        evaluator.evaluate condition first = evaluator.evaluate condition second := by
    intro h evaluator
    rw [evaluator.evaluate_eq, evaluator.evaluate_eq, meaning_congr h]
  constructor
  · intro h
    exact hanswer fun c hc => Comparison.holdsOf_eq_of_held? (h c hc)
  · intro hliterals h
    refine hanswer fun c hc => ?_
    obtain ⟨z, hliteral⟩ := hliterals c hc
    exact Comparison.holdsOf_eq_of_number? hliteral (h c hc)

/-- A text with blanks around a number, and a text that is none beside a missing field: where all
literals are numbers these are as good as a number and as nothing. A null and a zero with a minus
sign are as good as a missing field and a zero also where a literal is a text. -/
theorem evaluate_of_same_fields_of_numbers :
    let numbers : Condition := .join .and (.compare "age" .greaterEqual (.number (.ofInt 5)))
      (.join .or (.compare "member" .equal (.number (.ofInt 1)))
        (.compare "score" .less (.number (.ofInt 2))))
    let mixed : Condition := .join .and (.compare "debt" .equal (.text "0"))
      (.compare "name" .notEqual (.text "x"))
    numbers.evaluate [("age", .text " 5.0 "), ("member", .boolean true), ("score", .text "high")] =
        numbers.evaluate [("age", .number (.ofInt 5)), ("member", .number (.ofInt 1))] ∧
      mixed.evaluate [("debt", .number .zero), ("name", .null)] =
        mixed.evaluate [("debt", .number (.ofRank true 0)), ("city", .text "y")] := by
  intro numbers mixed
  constructor
  · have hsame : ∀ a? b? : Option Binary64, a? = b? → Option.Rel Binary64.IsSame a? b? := by
      rintro (_ | x) _ rfl
      · exact .none
      · exact .some (.inl rfl)
    refine congrArg Prod.fst ((evaluate_of_same_fields numbers _ _).2 ?_ ?_ {})
    · rintro c (_ | ⟨_, _ | ⟨_, _ | ⟨_, ⟨⟩⟩⟩⟩) <;> exact ⟨_, rfl⟩
    · rintro c (_ | ⟨_, _ | ⟨_, _ | ⟨_, ⟨⟩⟩⟩⟩) <;> exact hsame _ _ (by decide +kernel)
  · have hzeros : Binary64.zero.IsSame (.ofRank true 0) := .inr (by decide)
    refine congrArg Prod.fst ((evaluate_of_same_fields mixed _ _).1 ?_ {})
    rintro c (_ | ⟨_, _ | ⟨_, ⟨⟩⟩⟩)
    · exact .some (.number hzeros)
    · exact .none

end Condition

end Eligibility

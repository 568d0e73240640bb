import Eligibility.Value

/-!
# Comparisons fit together

All six comparators are read off one thing: how a value stands to a literal, if the two can be
ordered at all. Whatever kinds of values meet, what the comparators say therefore fits together.

* **Numbers** (`Binary64.order?_swap`, `Binary64.order?_self_iff`): two numbers that change places
  are ordered the other way round, and a number is equal to itself unless it is NaN.
* **Values** (`Value.order?_swap`): the same goes for two literals of which one is taken as a value.
  A text is read as a number in both places, so it does not count which side it is on.
* **Comparators** (`Comparator.Coherent`): what it means for the answers of the six comparators to
  fit together. Those that are read off an order do, and those of two sides that cannot be ordered
  (`Comparator.coherent_of_order`).

`Value.compares_coherent` puts all this together.
-/

namespace Eligibility

namespace Binary64

/-- Two numbers are ordered as their keys are. -/
theorem order?_eq_some_iff {x y : Binary64} {order : Ordering} :
    x.order? y = some order ↔
      ∃ a b, x.key? = some a ∧ y.key? = some b ∧ compare a b = order := by
  unfold order?
  cases x.key? <;> cases y.key? <;> simp

/-- Two numbers that change places are ordered the other way round, if they are ordered. -/
theorem order?_swap (x y : Binary64) : (x.order? y).map Ordering.swap = y.order? x := by
  unfold order?
  cases x.key? with
  | none => cases y.key? <;> rfl
  | some a =>
    cases y.key? with
    | none => rfl
    | some b => rw [Option.map_some, Int.compare_swap]

/-- A number is equal to itself unless it is NaN. -/
theorem order?_self_iff {x : Binary64} : x.order? x = some .eq ↔ x ≠ .nan := by
  rw [ne_eq, ← key?_eq_none_iff]
  unfold order?
  cases x.key? with
  | none => simp
  | some a => simp [Std.ReflCmp.compare_self]

end Binary64

namespace Comparator

/-- These answers of the six comparators fit together. -/
structure Coherent (holds : Comparator → Bool) : Prop where
  notEqual : holds .notEqual = true ↔ holds .equal = false
  greaterEqual : holds .greaterEqual = true ↔ holds .greater = true ∨ holds .equal = true
  lessEqual : holds .lessEqual = true ↔ holds .less = true ∨ holds .equal = true
  /-- At most one of the three orders holds. -/
  exclusive : [less, equal, greater].Pairwise fun a b => holds a = true → holds b = false
  /-- Without an order the two sides are different, and that is all. -/
  unordered : (∀ c ∈ [less, equal, greater], holds c = false) →
    ∀ c, holds c = true ↔ c = .notEqual

/-- Answers that are read off an order fit together, and so do those without one. -/
theorem coherent_of_order (order? : Option Ordering) :
    Coherent fun c => order?.elim c.holdsUnordered c.holds := by
  rcases order? with _ | order
  · constructor <;> simp [holdsUnordered]
  · -- one of the three orders holds, so that the last statement has nothing to say
    cases order <;> constructor <;> simp [holds]

end Comparator

namespace Value

/-- What a comparator says is read off the order of the two sides, if there is one. -/
theorem compares_eq (actual : Option Value) (comparator : Comparator) (expected : Literal) :
    compares actual comparator expected =
      (actual.bind (order? · expected)).elim comparator.holdsUnordered comparator.holds := by
  unfold compares
  cases actual.bind (order? · expected) <;> rfl

/-- A comparator other than inequality holds only of two sides that can be ordered. -/
theorem compares_eq_true_iff {actual : Option Value} {comparator : Comparator} {expected : Literal}
    (hcomparator : comparator ≠ .notEqual) :
    compares actual comparator expected = true ↔
      ∃ order, actual.bind (order? · expected) = some order ∧ comparator.holds order = true := by
  rw [compares_eq]
  cases actual.bind (order? · expected) with
  | none => simp [Comparator.holdsUnordered, hcomparator]
  | some order => simp

/-- Against a number only the numeric view of what a record has counts. -/
theorem bind_order?_number (actual : Option Value) (y : Binary64) :
    actual.bind (order? · (.number y)) = (actual.bind number?).bind (·.order? y) := by
  rw [Option.bind_assoc]
  simp only [order?_of_number]

/-- Against a text a number counts as a number, and the text as the one that it is written as. -/
theorem order?_number_text (x : Binary64) (text : String) :
    (number x).order? (.text text) = (numericText? text).bind (x.order? ·) := by
  simp only [order?, number?, Literal.number?]
  cases numericText? text <;> rfl

/-- Two literals that change places are ordered the other way round, if they are ordered. -/
theorem order?_swap (b c : Literal) :
    (b.toValue.order? c).map Ordering.swap = c.toValue.order? b := by
  cases b with
  | number x =>
    cases c with
    | number y => exact x.order?_swap y
    | text text =>
      simp only [Literal.toValue, order?_number_text, order?_of_number, number?]
      cases numericText? text with
      | none => rfl
      | some y => exact x.order?_swap y
  | text text =>
    cases c with
    | number y =>
      simp only [Literal.toValue, order?_number_text, order?_of_number, number?]
      cases numericText? text with
      | none => rfl
      | some x => exact x.order?_swap y
    | text other => exact congrArg some Std.OrientedCmp.eq_swap.symm

/-- Two literals that change places compare under the mirrored comparator as they did. -/
theorem compares_swap (b c : Literal) (comparator : Comparator) :
    compares (some c.toValue) comparator.mirrored b = compares (some b.toValue) comparator c := by
  rw [compares_eq, compares_eq, Option.bind_some, Option.bind_some, ← order?_swap b c]
  cases b.toValue.order? c with
  | none => cases comparator <;> rfl
  | some order =>
    show comparator.mirrored.holds order.swap = comparator.holds order
    rw [Comparator.holds_mirrored, Ordering.swap_swap]

/-- A literal is equal to itself as a value unless it is NaN. -/
theorem compares_self_iff (b : Literal) :
    compares (some b.toValue) .equal b = true ↔ b ≠ .number .nan := by
  rw [compares_eq_true_iff (by decide)]
  simp only [Option.bind_some, Comparator.holds, beq_iff_eq, exists_eq_right]
  cases b with
  | number x =>
    rw [ne_eq, Literal.number.injEq]
    exact Binary64.order?_self_iff
  | text text => simp [Literal.toValue, order?, Std.ReflCmp.compare_self]

/-- **Comparisons fit together.** Of whatever a record has for a field and any literal, the answers
of the six comparators fit together. Two literals of which one is taken as a value can change
places under the mirrored comparator, and a literal equals itself unless it is NaN. -/
theorem compares_coherent :
    (∀ actual expected, Comparator.Coherent fun c => compares actual c expected) ∧
    (∀ (b c : Literal) comparator,
      compares (some b.toValue) comparator c =
        compares (some c.toValue) comparator.mirrored b) ∧
    ∀ b : Literal, compares (some b.toValue) .equal b = true ↔ b ≠ .number .nan := by
  refine ⟨fun actual expected => ?_, fun b c comparator => (compares_swap b c comparator).symm,
    compares_self_iff⟩
  simp only [compares_eq]
  exact Comparator.coherent_of_order _

end Value

end Eligibility

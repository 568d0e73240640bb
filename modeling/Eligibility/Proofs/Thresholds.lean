import Eligibility.Proofs.NamedFields

/-!
# Threshold rules

A condition whose comparisons all bound numbers from one side cannot be lost by moving away from the
bounds: neither by greater numbers in the record, where the bounds are lower ones, nor by lower
bounds in the condition.

* **The order of numbers** (`Binary64.le_iff_key?`): a number is at most another one when their keys
  are in that order. NaN has no key and stands in no order.
* **Bounds** (`Bound`): lower bounds are `>` and `>=`, upper bounds are `<` and `<=`. For each kind
  `Bound.Favors` is the direction in which bounds of this kind are easier to meet, and a bound that
  is met is met further on in that direction, also when it is moved in the other one
  (`Bound.compares_of_favors`).
* **Conditions** (`Condition.IsThreshold`, `Condition.Loosened`): a condition whose leaves are
  bounds of one kind, and the same condition with some bounds that are easier to meet. Both
  connectives keep what is true on both sides, so what holds at the leaves holds of the whole
  (`Condition.Loosened.truth_of_truth`).

`Condition.evaluate_of_threshold` puts all this together.
-/

namespace Eligibility

namespace Binary64

/-! ### The order of numbers -/

/-- One number is at most another one when the two can be ordered and it does not come behind. -/
instance : LE Binary64 := ⟨fun x y => x.order? y = some .lt ∨ x.order? y = some .eq⟩

/-- Numbers are in the order of their keys. -/
theorem le_iff_key? {x y : Binary64} :
    x ≤ y ↔ ∃ a b, x.key? = some a ∧ y.key? = some b ∧ a ≤ b := by
  show x.order? y = some .lt ∨ x.order? y = some .eq ↔ _
  simp only [order?_eq_some_iff, Int.compare_eq_lt, Int.compare_eq_eq]
  constructor
  · rintro (⟨a, b, ha, hb, hab⟩ | ⟨a, b, ha, hb, hab⟩)
    · exact ⟨a, b, ha, hb, Int.le_of_lt hab⟩
    · exact ⟨a, b, ha, hb, Int.le_of_eq hab⟩
  · rintro ⟨a, b, ha, hb, hab⟩
    rcases Int.lt_or_eq_of_le hab with hlt | heq
    · exact .inl ⟨a, b, ha, hb, hlt⟩
    · exact .inr ⟨a, b, ha, hb, heq⟩

/-- A number is at most itself unless it is NaN. -/
theorem le_refl_of_ne_nan {x : Binary64} (h : x ≠ .nan) : x ≤ x :=
  .inr (order?_self_iff.2 h)

end Binary64

/-! ### Bounds -/

/-- A side from which numbers can be bounded. -/
inductive Bound where
  | lower
  | upper
deriving DecidableEq, Repr

namespace Bound

/-- The comparators that bound a number from this side. -/
def comparators : Bound → List Comparator
  | lower => [.greater, .greaterEqual]
  | upper => [.less, .lessEqual]

/-- Bounds from this side are at least as easy to meet for the second one as for the first: for
lower bounds it is as great or greater, for upper bounds as small or smaller. -/
def Favors {α : Type} [LE α] : Bound → α → α → Prop
  | lower, x, y => x ≤ y
  | upper, x, y => y ≤ x

variable {bound : Bound} {comparator : Comparator}

/-- Numbers are favored as their keys are. -/
theorem favors_iff_key? {x y : Binary64} :
    bound.Favors x y ↔ ∃ a b, x.key? = some a ∧ y.key? = some b ∧ bound.Favors a b := by
  cases bound with
  | lower => exact Binary64.le_iff_key?
  | upper =>
    refine Binary64.le_iff_key?.trans ⟨?_, ?_⟩ <;> rintro ⟨a, b, ha, hb, hab⟩ <;>
      exact ⟨b, a, hb, ha, hab⟩

/-- Bounds are as easy to meet for a number as for itself, unless it is NaN. -/
theorem favors_refl (bound : Bound) {x : Binary64} (h : x ≠ .nan) : bound.Favors x x := by
  cases bound <;> exact Binary64.le_refl_of_ne_nan h

/-- A bound that is met is met by what it favors, also when it gives way itself. -/
theorem holds_of_favors (hcomparator : comparator ∈ bound.comparators) {a b c d : Int}
    (hab : bound.Favors a b) (hdc : bound.Favors d c)
    (h : comparator.holds (compare a c) = true) : comparator.holds (compare b d) = true := by
  -- each of the four comparators says of the keys what `omega` knows of integers
  cases bound <;> rcases hcomparator with _ | ⟨_, _ | ⟨_, ⟨⟩⟩⟩ <;>
    simp only [Favors, Comparator.holds, beq_iff_eq, bne_iff_ne, ne_eq, Int.compare_eq_gt,
      Int.compare_eq_lt] at hab hdc h ⊢ <;> omega

/-- No bound is an inequality. -/
theorem ne_notEqual (h : comparator ∈ bound.comparators) : comparator ≠ .notEqual := by
  rintro rfl
  cases bound <;> exact absurd h (by decide)

/-- **A bound that is met stays met.** It is met by a value that counts as a number, and then by one
that counts as a number which it favors, also when the bound itself is moved the other way. -/
theorem compares_of_favors (hcomparator : comparator ∈ bound.comparators) {v w : Option Value}
    {s t : Binary64} (hvalues : ∀ x, v.bind Value.number? = some x → x ≠ .nan →
      ∃ y, w.bind Value.number? = some y ∧ bound.Favors x y)
    (hbounds : t = s ∨ bound.Favors t s)
    (h : Value.compares v comparator (.number s) = true) :
    Value.compares w comparator (.number t) = true := by
  rw [Value.compares_eq_true_iff (ne_notEqual hcomparator), Value.bind_order?_number] at h ⊢
  obtain ⟨order, horder, hholds⟩ := h
  obtain ⟨x, hx, hxs⟩ := Option.bind_eq_some_iff.1 horder
  obtain ⟨a, c, ha, hc, rfl⟩ := Binary64.order?_eq_some_iff.1 hxs
  have hnumber : ∀ {z : Binary64} {key}, z.key? = some key → z ≠ .nan := by
    rintro _ _ hkey rfl
    cases hkey
  obtain ⟨y, hy, hxy⟩ := hvalues x hx (hnumber ha)
  have hts : bound.Favors t s := by
    rcases hbounds with rfl | hts
    · exact favors_refl bound (hnumber hc)
    · exact hts
  obtain ⟨a', b, ha', hb, hab⟩ := favors_iff_key?.1 hxy
  obtain ⟨d, c', hd, hc', hdc⟩ := favors_iff_key?.1 hts
  obtain rfl : a = a' := Option.some.inj (ha.symm.trans ha')
  obtain rfl : c = c' := Option.some.inj (hc.symm.trans hc')
  refine ⟨compare b d, ?_, holds_of_favors hcomparator hab hdc hholds⟩
  rw [hy, Option.bind_some]
  exact Binary64.order?_eq_some_iff.2 ⟨b, d, hb, hd, rfl⟩

end Bound

/-! ### Conditions -/

/-- A join stays true when each side that is true stays true. -/
theorem Connective.apply_of_imp {connective : Connective} {left right left' right' : Bool}
    (hleft : left = true → left' = true) (hright : right = true → right' = true)
    (h : connective.apply left right = true) : connective.apply left' right' = true := by
  cases connective with
  | and =>
    rw [apply, Bool.and_eq_true] at h ⊢
    exact ⟨hleft h.1, hright h.2⟩
  | or =>
    rw [apply, Bool.or_eq_true] at h ⊢
    exact h.imp hleft hright

namespace Condition

/-- All leaves bound numbers from this side. -/
def IsThreshold (bound : Bound) (condition : Condition) : Prop :=
  ∀ leaf ∈ condition.leaves, ∃ field, ∃ comparator ∈ bound.comparators, ∃ s,
    leaf = .comparison ⟨field, comparator, .number s⟩

/-- The second condition is the first one with some numbers of its comparisons replaced, each by one
that is at least as easy to meet as a bound from this side. -/
inductive Loosened (bound : Bound) : Condition → Condition → Prop
  | same (l : Leaf) : Loosened bound (leaf l) (leaf l)
  | replaced {field : String} {comparator : Comparator} {s t : Binary64}
      (h : bound.Favors t s) :
      Loosened bound (compare field comparator (.number s)) (compare field comparator (.number t))
  | join {connective : Connective} {left left' right right' : Condition}
      (hleft : Loosened bound left left') (hright : Loosened bound right right') :
      Loosened bound (join connective left right) (join connective left' right')

variable {bound : Bound} {condition loosened : Condition}

/-- A join is made of thresholds when both its sides are. -/
theorem isThreshold_join {connective : Connective} {left right : Condition} :
    (join connective left right).IsThreshold bound ↔
      left.IsThreshold bound ∧ right.IsThreshold bound := by
  simp only [IsThreshold, leaves, List.forall_mem_append]

/-- No number has to be replaced. -/
theorem Loosened.refl (bound : Bound) (condition : Condition) :
    condition.Loosened bound condition := by
  induction condition with
  | leaf l => exact .same l
  | join _ _ _ ihl ihr => exact .join ihl ihr

/-- With some bounds that are easier to meet a condition is one of bounds as before. -/
theorem Loosened.isThreshold (h : condition.Loosened bound loosened)
    (hthreshold : condition.IsThreshold bound) : loosened.IsThreshold bound := by
  induction h with
  | same l => exact hthreshold
  | @replaced field comparator s t _ =>
    obtain ⟨_, _, hcomparator, _, ⟨⟩⟩ := hthreshold _ List.mem_cons_self
    exact List.forall_mem_singleton.2 ⟨field, comparator, hcomparator, t, rfl⟩
  | join _ _ ihl ihr =>
    rw [isThreshold_join] at hthreshold ⊢
    exact ⟨ihl hthreshold.1, ihr hthreshold.2⟩

/-- A condition of bounds has its truth as its value. -/
theorem IsThreshold.evaluate_eq_ok_true_iff (h : condition.IsThreshold bound) (record : Record) :
    condition.evaluate record = .ok true ↔ condition.truth record = true := by
  have hbare : condition.bareOperands = [] := by
    rw [bareOperands, List.filterMap_eq_nil_iff]
    intro leaf hleaf
    obtain ⟨_, _, -, _, rfl⟩ := h leaf hleaf
    rfl
  rw [evaluate_eq_meaning, meaning_of_bareOperands_eq_nil record hbare, Except.ok.injEq]

/-- **What bounds grant is kept.** A condition of bounds that is true of a record is true of any
other whose numbers it favors, also when some bounds give way. -/
theorem Loosened.truth_of_truth (h : condition.Loosened bound loosened)
    (hthreshold : condition.IsThreshold bound) {first second : Record}
    (hnumbers : ∀ c ∈ condition.comparisons, ∀ x, first.number? c.field = some x → x ≠ .nan →
      ∃ y, second.number? c.field = some y ∧ bound.Favors x y)
    (htrue : condition.truth first = true) : loosened.truth second = true := by
  induction h with
  | same l =>
    obtain ⟨field, comparator, hcomparator, s, rfl⟩ := hthreshold _ List.mem_cons_self
    exact Bound.compares_of_favors hcomparator (hnumbers _ List.mem_cons_self) (.inl rfl) htrue
  | replaced hts =>
    obtain ⟨_, _, hcomparator, _, ⟨⟩⟩ := hthreshold _ List.mem_cons_self
    have hfield := hnumbers _ List.mem_cons_self
    exact Bound.compares_of_favors hcomparator hfield (.inr hts) htrue
  | join _ _ ihl ihr =>
    rw [comparisons_join, List.forall_mem_append] at hnumbers
    rw [isThreshold_join] at hthreshold
    exact Connective.apply_of_imp (ihl hthreshold.1 hnumbers.1) (ihr hthreshold.2 hnumbers.2) htrue

/-- **Threshold rules are monotone.** Let all leaves of a condition be lower bounds `>` or `>=`. If
it is true of a record, it is true of any other in which each named field that counted as a number
other than NaN counts as one as great or greater; and it stays true of the record when some of its
numbers are replaced by smaller or equal ones. For upper bounds `<` and `<=` both orders are
reversed. -/
theorem evaluate_of_threshold (bound : Bound) {condition : Condition}
    (h : condition.IsThreshold bound) :
    (∀ first second : Record,
      (∀ c ∈ condition.comparisons, ∀ x, first.number? c.field = some x → x ≠ .nan →
        ∃ y, second.number? c.field = some y ∧ bound.Favors x y) →
      condition.evaluate first = .ok true → condition.evaluate second = .ok true) ∧
    ∀ loosened, condition.Loosened bound loosened → ∀ record : Record,
      condition.evaluate record = .ok true → loosened.evaluate record = .ok true := by
  constructor
  · intro first second hnumbers htrue
    rw [h.evaluate_eq_ok_true_iff] at htrue ⊢
    exact (Loosened.refl bound condition).truth_of_truth h hnumbers htrue
  · intro loosened hloosened record htrue
    rw [(hloosened.isThreshold h).evaluate_eq_ok_true_iff]
    rw [h.evaluate_eq_ok_true_iff] at htrue
    exact hloosened.truth_of_truth h (fun _ _ x hx hnumber => ⟨x, hx, bound.favors_refl hnumber⟩)
      htrue

/-- A text that counts as a number gives way to an infinite number, and a missing field may be
filled with anything; from above, a bound may be moved from zero to one. -/
theorem evaluate_of_threshold_of_text :
    let adult : Condition := .join .or (.compare "age" .greaterEqual (.number (.ofInt 18)))
      (.compare "rank" .greater (.number .zero))
    let small (limit : Binary64) : Condition :=
      .join .and (.compare "size" .lessEqual (.number limit))
        (.compare "debt" .less (.number limit))
    adult.evaluate [("age", .number (.infinite false)), ("rank", .text "none")] = .ok true ∧
      (small (.ofInt 1)).evaluate [("size", .boolean false), ("debt", .number (.ofInt (-1)))] =
        .ok true := by
  intro adult small
  constructor
  · have hthreshold : adult.IsThreshold .lower := by
      rintro leaf (_ | ⟨_, _ | ⟨_, ⟨⟩⟩⟩)
      · exact ⟨_, .greaterEqual, by decide, _, rfl⟩
      · exact ⟨_, .greater, by decide, _, rfl⟩
    refine (evaluate_of_threshold .lower hthreshold).1 [("age", .text " 18 ")] _ ?_ ?_
    · rintro c (_ | ⟨_, _ | ⟨_, ⟨⟩⟩⟩) x hx -
      · have hage : Record.number? [("age", .text " 18 ")] "age" = some (.ofInt 18) := by
          decide +kernel
        obtain rfl : Binary64.ofInt 18 = x := Option.some.inj (hage.symm.trans hx)
        exact ⟨.infinite false, rfl, .inl (by decide +kernel)⟩
      · cases hx
    · rw [hthreshold.evaluate_eq_ok_true_iff]
      decide +kernel
  · have hthreshold : (small .zero).IsThreshold .upper := by
      rintro leaf (_ | ⟨_, _ | ⟨_, ⟨⟩⟩⟩)
      · exact ⟨_, .lessEqual, by decide, _, rfl⟩
      · exact ⟨_, .less, by decide, _, rfl⟩
    have hlimits : Binary64.zero ≤ .ofInt 1 := .inl (by decide +kernel)
    have hloosened : (small .zero).Loosened .upper (small (.ofInt 1)) :=
      .join (.replaced hlimits) (.replaced hlimits)
    refine (evaluate_of_threshold .upper hthreshold).2 _ hloosened _ ?_
    rw [hthreshold.evaluate_eq_ok_true_iff]
    decide +kernel

end Condition

end Eligibility

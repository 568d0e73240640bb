import Eligibility.Proofs.Evaluation

/-!
# What a join of many conditions means

Conditions are joined one after the other, so that the tree of many of them leans to the left and is
as high as they are many. What it means does not depend on that shape.

* **Many verdicts** (`Connective.verdictAll`): the verdict on a list of parts. Joining two verdicts
  is associative (`verdict_assoc`) also where a side has no value, and has a neutral verdict, so the
  verdict on parts in a row is that on their sublists, joined (`verdictAll_append`). Of parts that
  all have values it is the conjunction or disjunction of these (`verdictAll_map_ok`), and otherwise
  the complaint about the first part without one (`verdictAll_of_error`).
* **Bracketings** (`Condition.Bracketing`): the conditions that can be put together from a list by
  one connective, the join from the left among them (`bracketing_of_joinAll?`). All of them mean the
  verdict on the list (`Bracketing.meaning_eq`) and have the same leaves (`Bracketing.leaves_eq`).
* **Order and repetition** (`Bracketing.meaning_congr`): when the parts have values, it only counts
  which parts there are. `evaluate_joined` puts all this together.
-/

namespace Eligibility

namespace Connective

/-! ### Many verdicts -/

/-- The value of a join of many values: whether all of them are true, or any of them. -/
def applyAll : Connective → List Bool → Bool
  | and, values => values.all id
  | or, values => values.any id

/-- Values are joined from the front. -/
@[simp] theorem applyAll_cons (connective : Connective) (value : Bool) (values : List Bool) :
    connective.applyAll (value :: values) =
      connective.apply value (connective.applyAll values) := by
  cases connective <;> rfl

/-- For the value of a join it only counts which values there are. -/
theorem applyAll_congr (connective : Connective) {values others : List Bool}
    (h : ∀ value, value ∈ values ↔ value ∈ others) :
    connective.applyAll values = connective.applyAll others := by
  rw [Bool.eq_iff_iff]
  cases connective with
  | and => simp only [applyAll, List.all_eq_true, h]
  | or => simp only [applyAll, List.any_eq_true, h]

/-- The verdict on a join of many parts, given the verdicts on the parts. -/
def verdictAll (connective : Connective) : List Verdict → Verdict
  | [] => .ok (connective.applyAll [])
  | verdict :: rest => connective.verdict verdict (connective.verdictAll rest)

/-- Joining verdicts is associative: of three sides the first one without a value is reported. -/
theorem verdict_assoc (connective : Connective) (first second third : Verdict) :
    connective.verdict (connective.verdict first second) third =
      connective.verdict first (connective.verdict second third) := by
  rcases first with e | a
  · rfl
  rcases second with e | b
  · rfl
  rcases third with e | c
  · rfl
  cases connective with
  | and => simp only [verdict, apply, Bool.and_assoc]
  | or => simp only [verdict, apply, Bool.or_assoc]

/-- The verdict on no parts is neutral on the left. -/
@[simp] theorem verdict_verdictAll_nil (connective : Connective) (verdict : Verdict) :
    connective.verdict (connective.verdictAll []) verdict = verdict := by
  rcases verdict with e | value
  · rfl
  · cases connective <;> rfl

/-- The verdict on no parts is neutral on the right. -/
@[simp] theorem verdictAll_singleton (connective : Connective) (verdict : Verdict) :
    connective.verdictAll [verdict] = verdict := by
  rcases verdict with e | value
  · rfl
  · cases connective <;> simp [verdictAll, Connective.verdict, apply, applyAll]

/-- **Parts in a row.** The verdict on all of them is that on the front and on the back, joined. -/
theorem verdictAll_append (connective : Connective) (front back : List Verdict) :
    connective.verdictAll (front ++ back) =
      connective.verdict (connective.verdictAll front) (connective.verdictAll back) := by
  induction front with
  | nil => rw [List.nil_append, verdict_verdictAll_nil]
  | cons verdict front ih => rw [List.cons_append, verdictAll, ih, verdictAll, verdict_assoc]

/-- When all parts have values, so does their join. -/
theorem verdictAll_map_ok (connective : Connective) (values : List Bool) :
    connective.verdictAll (values.map Except.ok) = .ok (connective.applyAll values) := by
  induction values with
  | nil => rfl
  | cons value values ih =>
    rw [List.map_cons, verdictAll, ih, applyAll_cons]
    rfl

/-- The first part without a value decides. -/
theorem verdictAll_of_error (connective : Connective) (values : List Bool)
    (e : EvaluationError) (back : List Verdict) :
    connective.verdictAll (values.map Except.ok ++ .error e :: back) = .error e := by
  rw [verdictAll_append, verdictAll_map_ok]
  rfl

end Connective

namespace Condition

/-! ### Conditions with and without a value -/

/-- A condition is evaluable when it has a value for a record, whichever it is. -/
theorem isEvaluable_iff_meaning (condition : Condition) (record : Record) :
    condition.isEvaluable = true ↔ ∃ value, condition.meaning record = .ok value := by
  rw [isEvaluable_eq_true_iff_bareOperands]
  constructor
  · intro hbare
    exact ⟨_, meaning_of_bareOperands_eq_nil record hbare⟩
  · rintro ⟨value, hvalue⟩
    rw [← List.head?_eq_none_iff, Option.eq_none_iff_forall_ne_some]
    intro operand hhead
    rw [meaning_of_head?_bareOperands record hhead] at hvalue
    cases hvalue

/-- Conditions that are all evaluable have their truths as values. -/
theorem map_meaning_eq {conditions : List Condition} (record : Record)
    (h : ∀ c ∈ conditions, c.isEvaluable = true) :
    conditions.map (meaning record) = (conditions.map (truth record)).map Except.ok := by
  rw [List.map_map]
  apply List.map_congr_left
  intro c hc
  exact meaning_of_bareOperands_eq_nil record (c.isEvaluable_eq_true_iff_bareOperands.1 (h c hc))

/-! ### Bracketings -/

/-- A condition that is put together from these parts, in their order, by one connective. -/
inductive Bracketing (connective : Connective) : List Condition → Condition → Prop
  | part (condition : Condition) : Bracketing connective [condition] condition
  | join {front back : List Condition} {left right : Condition}
      (hleft : Bracketing connective front left) (hright : Bracketing connective back right) :
      Bracketing connective (front ++ back) (.join connective left right)

variable {connective : Connective} {parts others : List Condition}
  {condition other joined : Condition}

/-- However the parts are bracketed, the condition means the verdict on all of them. -/
theorem Bracketing.meaning_eq (h : Bracketing connective parts condition) (record : Record) :
    condition.meaning record = connective.verdictAll (parts.map (meaning record)) := by
  induction h with
  | part condition => rw [List.map_singleton, Connective.verdictAll_singleton]
  | join _ _ ihl ihr => rw [meaning, ihl, ihr, List.map_append, Connective.verdictAll_append]

/-- However the parts are bracketed, the condition has their leaves. -/
theorem Bracketing.leaves_eq (h : Bracketing connective parts condition) :
    condition.leaves = parts.flatMap leaves := by
  induction h with
  | part condition => rw [List.flatMap_singleton]
  | join _ _ ihl ihr => rw [leaves, ihl, ihr, List.flatMap_append]

/-- However the parts are bracketed, the condition has their bare operands. -/
theorem Bracketing.bareOperands_eq (h : Bracketing connective parts condition) :
    condition.bareOperands = parts.flatMap bareOperands := by
  unfold bareOperands
  rw [h.leaves_eq, List.filterMap_flatMap]

/-- The leaves of a bracketing are counted part by part. -/
theorem Bracketing.leafCount_eq (h : Bracketing connective parts condition) :
    condition.leafCount = (parts.map leafCount).sum := by
  rw [Condition.leafCount_eq, h.leaves_eq, List.length_flatMap]
  congr 1
  apply List.map_congr_left
  intro c _
  exact c.leafCount_eq.symm

/-- A bracketing is evaluable when all its parts are. -/
theorem Bracketing.isEvaluable_iff (h : Bracketing connective parts condition) :
    condition.isEvaluable = true ↔ ∀ c ∈ parts, c.isEvaluable = true := by
  induction h with
  | part condition => rw [List.forall_mem_singleton]
  | join _ _ ihl ihr =>
    rw [isEvaluable_join, Bool.and_eq_true, ihl, ihr, List.forall_mem_append]

/-- Joining further parts from the left is a bracketing of them all. -/
theorem Bracketing.foldl (h : Bracketing connective parts condition) (rest : List Condition) :
    Bracketing connective (parts ++ rest) (rest.foldl (.join connective) condition) := by
  induction rest generalizing parts condition with
  | nil => rwa [List.append_nil]
  | cons next rest ih =>
    have hnext := ih (h.join (.part next))
    rwa [List.append_assoc, List.singleton_append] at hnext

/-- **The join from the left is a bracketing.** -/
theorem bracketing_of_joinAll? (h : joinAll? connective parts = some joined) :
    Bracketing connective parts joined := by
  rcases parts with _ | ⟨first, rest⟩
  · cases h
  · obtain rfl : rest.foldl (.join connective) first = joined := Option.some.inj h
    exact (Bracketing.part first).foldl rest

/-- Parts, of which there is one, are joined, and that is a bracketing. -/
theorem exists_joinAll? (connective : Connective) (hne : parts ≠ []) :
    ∃ joined, joinAll? connective parts = some joined ∧ Bracketing connective parts joined := by
  obtain ⟨first, rest, rfl⟩ := List.exists_cons_of_ne_nil hne
  exact ⟨_, rfl, bracketing_of_joinAll? rfl⟩

/-- **Order and repetition.** Of parts that have values it only counts which there are: bracketings
of two lists with the same members mean the same. -/
theorem Bracketing.meaning_congr {record : Record} (h : Bracketing connective parts condition)
    (hother : Bracketing connective others other) (hsame : ∀ c, c ∈ others ↔ c ∈ parts)
    (hvalues : ∀ c ∈ parts, c.isEvaluable = true) :
    other.meaning record = condition.meaning record := by
  have hothers : ∀ c ∈ others, c.isEvaluable = true := by
    intro c hc
    exact hvalues c ((hsame c).1 hc)
  rw [h.meaning_eq, hother.meaning_eq, map_meaning_eq record hvalues, map_meaning_eq record hothers,
    Connective.verdictAll_map_ok, Connective.verdictAll_map_ok]
  congr 1
  apply Connective.applyAll_congr
  intro value
  simp only [List.mem_map, hsame]

/-- **Joining many conditions means joining their values.** From any conditions, of which there is
one, a join is made, and its leaves are those of all of them. If all are evaluable the join has the
conjunction or disjunction of their values; so has every condition that is made of the same ones in
any order, with any repetitions and in any bracketing. Otherwise the join has no value for the
reason for which the first condition that is not evaluable has none. -/
theorem evaluate_joined (connective : Connective) (parts : List Condition) (record : Record)
    (hne : parts ≠ []) :
    ∃ joined, joinAll? connective parts = some joined ∧
      joined.leafCount = (parts.map leafCount).sum ∧
      ((∀ c ∈ parts, c.isEvaluable = true) →
        (∃ values, parts.map (·.evaluate record) = values.map Except.ok ∧
          joined.evaluate record = .ok (connective.applyAll values)) ∧
        ∀ others other, (∀ c, c ∈ others ↔ c ∈ parts) →
          joinAll? connective others = some other ∨ Bracketing connective others other →
            other.evaluate record = joined.evaluate record) ∧
      ∀ front part back, parts = front ++ part :: back → (∀ c ∈ front, c.isEvaluable = true) →
        part.isEvaluable = false →
          ∃ e, part.evaluate record = .error e ∧ joined.evaluate record = .error e := by
  simp only [evaluate_eq_meaning]
  obtain ⟨joined, hjoin, hjoined⟩ := exists_joinAll? connective hne
  refine ⟨joined, hjoin, hjoined.leafCount_eq, fun hvalues => ⟨?_, ?_⟩, ?_⟩
  · refine ⟨parts.map (truth record), map_meaning_eq record hvalues, ?_⟩
    rw [hjoined.meaning_eq, map_meaning_eq record hvalues, Connective.verdictAll_map_ok]
  · intro others other hsame hother
    have hbracketing : Bracketing connective others other := hother.elim bracketing_of_joinAll? id
    exact hjoined.meaning_congr hbracketing hsame hvalues
  · intro front part back hparts hfront hpart
    have hnone : ¬ ∃ value, part.meaning record = .ok value := by
      rw [← isEvaluable_iff_meaning, hpart]
      exact Bool.false_ne_true
    rcases hverdict : part.meaning record with e | value
    · refine ⟨e, rfl, ?_⟩
      rw [hjoined.meaning_eq, hparts, List.map_append, List.map_cons, hverdict,
        map_meaning_eq record hfront, Connective.verdictAll_of_error]
    · exact absurd ⟨value, hverdict⟩ hnone

/-- Without any fields `age != 'x'` is true and `city = 'y'` is not. Together they have a value,
also when they are joined the other way round and one of them twice; with a bare name between them
there is none because of that name. -/
theorem evaluate_joined_of_swapped :
    let grown : Condition := .compare "age" .notEqual (.text "x")
    let near : Condition := .compare "city" .equal (.text "y")
    (join .or grown near).evaluate [] = .ok true ∧
      (join .or near (join .or grown near)).evaluate [] = .ok true ∧
      (join .or (join .or grown (name "vip")) near).evaluate [] =
        .error (.bareOperand (.name "vip")) := by
  intro grown near
  have hgrown : grown.isEvaluable = true := grown.isEvaluable_eq_true_iff_bareOperands.2 rfl
  have hnear : near.isEvaluable = true := near.isEvaluable_eq_true_iff_bareOperands.2 rfl
  have hname : (name "vip").isEvaluable = false := by
    rw [← Bool.not_eq_true, isEvaluable_eq_true_iff_bareOperands]
    exact List.cons_ne_nil _ _
  obtain ⟨_, ⟨⟩, -, hvalues, -⟩ := evaluate_joined .or [grown, near] [] (List.cons_ne_nil _ _)
  obtain ⟨⟨values, hparts, hvalue⟩, hother⟩ := hvalues (by simp [hgrown, hnear])
  have hboth : (join .or grown near).evaluate [] = .ok true := by
    have hmap : [grown, near].map (·.evaluate []) = [true, false].map Except.ok := by
      simp only [evaluate_eq_meaning]
      rfl
    have hsame : values = [true, false] :=
      (List.map_inj_right fun _ _ => Except.ok.inj).1 (hparts.symm.trans hmap)
    rw [hsame] at hvalue
    exact hvalue
  have htwice : Bracketing .or ([near] ++ ([grown] ++ [near]))
      (join .or near (join .or grown near)) := .join (.part _) (.join (.part _) (.part _))
  obtain ⟨_, ⟨⟩, -, -, herror⟩ :=
    evaluate_joined .or [grown, name "vip", near] [] (List.cons_ne_nil _ _)
  obtain ⟨e, he, hreason⟩ := herror [grown] (name "vip") [near] rfl (by simp [hgrown]) hname
  refine ⟨hboth, ?_, ?_⟩
  · have hsame := hother _ _ (by simp [or_comm]) (.inr htwice)
    exact hsame.trans hboth
  · rw [evaluate_eq_meaning] at he
    obtain rfl : EvaluationError.bareOperand (.name "vip") = e := Except.error.inj he
    exact hreason

end Condition

end Eligibility

import Eligibility.Proofs.RepeatedReading
import Eligibility.Proofs.RequestsAndCatalogs

/-!
# Rules under edits

The text of a rule may be replaced any number of times, and every time be read in another mode.
Between a rule and its text stands the lenient reading: whatever modes were used, it reads from the
text the condition of the rule.

* **Empty texts** (`Condition.ofText_eq_empty_iff`): a text has no tokens exactly when trimming
  leaves nothing of it. With tokens no reading says that there are none, in any mode.
* **One edit** (`Rule.Edit.perform_run`): an edit assigns the condition before the text, and fails
  before it assigns anything; so it does what `Rule.setExpression` does.
* **Many edits** (`Rule.IsSound.afterEdits`): by induction on the edits, of which any may fail.
-/

namespace Eligibility

/-! ### Empty texts -/

/-- All of a text is blank exactly when trimming leaves nothing of it. -/
theorem Text.isAllBlank_iff_trimmed {text : String} :
    isAllBlank text = true ↔ trimmed text.toList = [] := by
  rw [trimmed_eq_nil_iff]
  exact List.all_eq_true

/-- **Which texts are empty**: those of which trimming leaves nothing. -/
theorem Condition.ofText_eq_empty_iff {mode : ParseMode} {text : String} :
    ofText mode text = .error (.ungrammatical .empty) ↔ Text.trimmed text.toList = [] := by
  rw [← Text.isAllBlank_iff_trimmed]
  constructor
  · intro h
    unfold ofText at h
    rcases htokens : tokenize text with e | tokens
    · rw [htokens] at h
      cases h
    · rw [htokens] at h
      obtain ⟨e, hread, he⟩ := Except.mapError_eq_error_iff.1 h
      cases he
      by_cases hsome : tokens = []
      · rw [hsome] at htokens
        obtain ⟨last, hreads, hblank⟩ := Lexer.tokens_eq_ok_iff.1 htokens
        cases hreads
        exact List.all_eq_true.2 hblank
      · rw [ofTokens_eq hsome] at hread
        have hended := Grammar.orderly_wholeRule mode maxNesting ⟨tokens, 0⟩ (List.Subset.refl _)
        exact absurd hread hended.ne_empty
  · intro h
    exact ofText_of_isAllBlank h mode

namespace Rule

/-- A text is refused as blank exactly when it is read as empty, in whatever mode. -/
theorem conditionOf_eq_emptyExpression_iff (mode other : ParseMode) {expression : String} :
    conditionOf mode expression = .error .emptyExpression ↔
      Condition.ofText other expression = .error (.ungrammatical .empty) := by
  rw [Catalog.conditionOf_refuses_iff, Condition.ofText_eq_empty_iff, ← Text.isAllBlank_iff_trimmed]
  constructor
  · rintro ⟨hblank⟩
    exact hblank
  · intro hblank
    exact .blank hblank

/-- No text is refused for being read as empty. -/
theorem conditionOf_ne_empty {mode : ParseMode} {expression : String} :
    conditionOf mode expression ≠ .error (.rule (.ungrammatical .empty)) := by
  rw [Ne, Catalog.conditionOf_refuses_iff]
  rintro (_ | ⟨hblank, hread⟩)
  rw [Condition.ofText_eq_empty_iff, ← Text.isAllBlank_iff_trimmed, hblank] at hread
  cases hread

/-! ### One edit -/

/-- A new text for a rule, and the mode in which it is read. -/
structure Edit where
  expression : String
  mode : ParseMode
deriving DecidableEq, Repr

/-- Replaces the text of a rule, assignment by assignment. -/
def Edit.perform (edit : Edit) : EStateM CatalogError Rule Unit := do
  if Text.trimmed edit.expression.toList = [] then
    throw .emptyExpression
  match Condition.ofText edit.mode edit.expression with
  | .error e => throw (.rule e)
  | .ok condition =>
    modify fun rule => { rule with condition }
    modify fun rule => { rule with expression := edit.expression }

/-- **An edit fails before it assigns anything**, and otherwise assigns both parts. -/
theorem Edit.perform_run (edit : Edit) (rule : Rule) :
    edit.perform.run rule =
      match rule.setExpression edit.expression edit.mode with
      | .ok changed => .ok () changed
      | .error e => .error e rule := by
  unfold perform setExpression conditionOf
  simp only [Text.isAllBlank_iff_trimmed]
  split
  · rfl
  · rcases Condition.ofText edit.mode edit.expression with e | condition
    · rfl
    · rfl

/-- When an edit succeeds. -/
theorem Edit.perform_eq_ok_iff {edit : Edit} {rule after : Rule} :
    edit.perform.run rule = .ok () after ↔
      rule.setExpression edit.expression edit.mode = .ok after := by
  rw [Edit.perform_run]
  cases rule.setExpression edit.expression edit.mode <;> simp

/-- When an edit fails, and what it leaves then. -/
theorem Edit.perform_eq_error_iff {edit : Edit} {rule after : Rule} {e : CatalogError} :
    edit.perform.run rule = .error e after ↔
      conditionOf edit.mode edit.expression = .error e ∧ after = rule := by
  rw [Edit.perform_run, ← Except.map_eq_error_iff]
  show _ ↔ rule.setExpression edit.expression edit.mode = .error e ∧ after = rule
  cases rule.setExpression edit.expression edit.mode <;> simp [eq_comm]

/-- What an edit leaves of a rule, whether it succeeds or fails. -/
def after (rule : Rule) (edit : Edit) : Rule :=
  match edit.perform.run rule with
  | .ok _ changed => changed
  | .error _ changed => changed

/-- The rule is what its text says when it is read leniently. -/
theorem IsSound.lenient {mode : ParseMode} {rule : Rule} (h : rule.IsSound mode) :
    rule.IsSound .lenient :=
  ⟨h.name_not_blank, Condition.ofText_lenient h.ofText_expression⟩

/-- An edit in any mode keeps the lenient reading, and the name. -/
theorem IsSound.after {rule : Rule} (h : rule.IsSound .lenient) (edit : Edit) :
    (rule.after edit).name = rule.name ∧ (rule.after edit).IsSound .lenient := by
  unfold Rule.after
  rcases hrun : edit.perform.run rule with ⟨_, changed⟩ | ⟨e, changed⟩
  · obtain ⟨hcondition, hname, hexpression⟩ :=
      setExpression_eq_ok_iff.1 (Edit.perform_eq_ok_iff.1 hrun)
    have hread : Condition.ofText edit.mode changed.expression = .ok changed.condition := by
      rw [hexpression]
      exact (conditionOf_eq_ok_iff.1 hcondition).2
    have hblank : Text.isAllBlank changed.name = false := by
      rw [hname]
      exact h.name_not_blank
    exact ⟨hname, hblank, Condition.ofText_lenient hread⟩
  · obtain ⟨-, rfl⟩ := Edit.perform_eq_error_iff.1 hrun
    exact ⟨rfl, h⟩

/-! ### Many edits -/

/-- What a sequence of edits leaves of a rule. -/
def afterEdits (rule : Rule) (edits : List Edit) : Rule := edits.foldl after rule

/-- Any sequence of edits keeps the lenient reading, and the name. -/
theorem IsSound.afterEdits {rule : Rule} (h : rule.IsSound .lenient) (edits : List Edit) :
    (rule.afterEdits edits).name = rule.name ∧ (rule.afterEdits edits).IsSound .lenient := by
  induction edits generalizing rule with
  | nil => exact ⟨rfl, h⟩
  | cons edit edits ih =>
    obtain ⟨hname, hsound⟩ := h.after edit
    obtain ⟨hnames, hsounds⟩ := ih hsound
    exact ⟨hnames.trans hname, hsounds⟩

/-- A text is refused as blank, when a rule is made, exactly when the name is not and the text is
read as empty. -/
theorem create_eq_emptyExpression_iff {name expression : String} {mode other : ParseMode} :
    create name expression mode = .error .emptyExpression ↔
      Text.isAllBlank name = false ∧
        Condition.ofText other expression = .error (.ungrammatical .empty) := by
  unfold create
  split
  · rename_i hblank
    simp [hblank]
  · rename_i hblank
    rw [Except.map_eq_error_iff, conditionOf_eq_emptyExpression_iff mode other]
    simp [hblank]

/-- No rule is refused for a text that is read as empty. -/
theorem create_ne_empty {name expression : String} {mode : ParseMode} :
    create name expression mode ≠ .error (.rule (.ungrammatical .empty)) := by
  unfold create
  split
  · simp
  · rw [Ne, Except.map_eq_error_iff]
    exact conditionOf_ne_empty

/-- **A rule keeps its text and its condition together** through any edits in any modes. A rule that
is made has its name and, after every further edit, the condition that is read leniently from its
text. An edit does what `setExpression` says when that gives a rule; and otherwise it leaves
everything as it was. A text is refused as blank exactly when it is read as empty, so no rule and no
edit is refused for a text that is read as empty. -/
theorem edits_keep_condition (name expression : String) (mode : ParseMode) :
    (create name expression mode = .error .emptyExpression ↔ Text.isAllBlank name = false ∧
      Condition.ofText .lenient expression = .error (.ungrammatical .empty)) ∧
    create name expression mode ≠ .error (.rule (.ungrammatical .empty)) ∧
    ∀ rule, create name expression mode = .ok rule → ∀ edits : List Edit,
      let edited := rule.afterEdits edits
      edited.name = name ∧ Condition.ofText .lenient edited.expression = .ok edited.condition ∧
      ∀ edit : Edit,
        (∀ after, edit.perform.run edited = .ok () after ↔
          edited.setExpression edit.expression edit.mode = .ok after) ∧
        (∀ e after, edit.perform.run edited = .error e after →
          edited.setExpression edit.expression edit.mode = .error e ∧ after = edited) ∧
        ((∃ after, edit.perform.run edited = .error .emptyExpression after) ↔
          Condition.ofText .lenient edit.expression = .error (.ungrammatical .empty)) ∧
        ∀ after, edit.perform.run edited ≠ .error (.rule (.ungrammatical .empty)) after := by
  refine ⟨create_eq_emptyExpression_iff, create_ne_empty, ?_⟩
  intro rule hrule edits edited
  obtain ⟨-, -, hname, -⟩ := create_eq_ok_iff.1 hrule
  obtain ⟨hedited, hsound⟩ := (isSound_of_create hrule).lenient.afterEdits edits
  refine ⟨hedited.trans hname, hsound.ofText_expression, fun edit => ?_⟩
  refine ⟨fun after => Edit.perform_eq_ok_iff, ?_, ?_, ?_⟩
  · intro e after hrun
    obtain ⟨hcondition, hafter⟩ := Edit.perform_eq_error_iff.1 hrun
    exact ⟨Except.map_eq_error_iff.2 hcondition, hafter⟩
  · rw [← conditionOf_eq_emptyExpression_iff edit.mode .lenient]
    constructor
    · rintro ⟨after, hrun⟩
      exact (Edit.perform_eq_error_iff.1 hrun).1
    · intro hcondition
      exact ⟨edited, Edit.perform_eq_error_iff.2 ⟨hcondition, rfl⟩⟩
  · intro after hrun
    exact conditionOf_ne_empty (Edit.perform_eq_error_iff.1 hrun).1

/-- A rule that is a bare name, which only the lenient mode reads. A blank text is refused in the
strict mode and leaves it as it is, and it can be edited on. -/
theorem edits_keep_condition_of_blank_text :
    let rule : Rule := ⟨"members", "vip", .name "vip"⟩
    let blank : Edit := ⟨"\u3000", .strict⟩
    let other : Edit := ⟨"a = b", .strict⟩
    create "members" "vip" .lenient = .ok rule ∧
      blank.perform.run rule = .error .emptyExpression rule ∧
      Condition.ofText .lenient (rule.afterEdits [blank, other]).expression =
        .ok (rule.afterEdits [blank, other]).condition := by
  intro rule blank other
  have hplain : (Condition.name "vip").IsWritable ∧ (Condition.name "vip").height ≤ maxNesting := by
    decide
  have hvip : Condition.ofText .lenient "vip" = .ok (.name "vip") :=
    Condition.ofText_ruleText_of_height_le hplain.1 hplain.2
  have hrule : create "members" "vip" .lenient = .ok rule :=
    create_eq_ok_iff.2 ⟨rfl, conditionOf_eq_ok_iff.2 ⟨rfl, hvip⟩, rfl, rfl⟩
  obtain ⟨-, -, hedits⟩ := edits_keep_condition "members" "vip" .lenient
  obtain ⟨-, -, hnext⟩ := hedits rule hrule []
  obtain ⟨-, herror, hempty, -⟩ := hnext blank
  obtain ⟨after, hrun⟩ :=
    hempty.2 (Condition.ofText_of_isAllBlank (by decide) .lenient)
  obtain ⟨-, rfl⟩ := herror _ after hrun
  obtain ⟨-, hread, -⟩ := hedits rule hrule [blank, other]
  exact ⟨hrule, hrun, hread⟩

end Rule

end Eligibility

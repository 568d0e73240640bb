import Eligibility.Proofs.CatalogChanges
import Eligibility.Proofs.RuleText
import Eligibility.Proofs.StrictReading

/-!
# What holds of every catalog

A catalog starts empty and is changed by insertions, updates and removals, of which any may fail.
`IsSound` is what all of them keep: no two rules have the same name, and every rule on its own is
sound, which means that its name is not blank and that its condition is what its text says under the
parse mode of the catalog.

* **One rule** (`Rule.isSound_of_create`, `isSound_of_reworded`): rules are sound when they are
  made, and stay so under a new text.
* **One change** (`IsSound.insert`, `IsSound.update`, `IsSound.remove`): names stay different, since
  a new name is only taken when no rule has it.
* **A run of changes** (`IsSound.performAll`): by induction on the changes. `performAll_sound`
  spells out what that says about the rules of a catalog that has been changed in any way.
-/

namespace Eligibility

/-! ### One rule -/

/-- The name of a rule is not blank, and its condition is what its text says. -/
structure Rule.IsSound (mode : ParseMode) (rule : Rule) : Prop where
  name_not_blank : Text.isAllBlank rule.name = false
  ofText_expression : Condition.ofText mode rule.expression = .ok rule.condition

/-- A rule that is made is sound. -/
theorem Rule.isSound_of_create {name expression : String} {mode : ParseMode} {rule : Rule}
    (h : create name expression mode = .ok rule) : rule.IsSound mode := by
  obtain ⟨hname, hcondition, rfl, rfl⟩ := create_eq_ok_iff.1 h
  exact ⟨hname, (conditionOf_eq_ok_iff.1 hcondition).2⟩

namespace Catalog

variable {catalog : Catalog}

/-- A sound rule is sound under a new text. -/
theorem isSound_of_reworded {rule changed : Rule} {expression : Option String}
    (hrule : rule.IsSound catalog.settings.parseMode)
    (h : catalog.reworded rule expression = .ok changed) :
    changed.name = rule.name ∧ changed.IsSound catalog.settings.parseMode := by
  obtain ⟨hname, hkept, hnew⟩ := reworded_eq_ok_iff.1 h
  refine ⟨hname, by rw [hname]; exact hrule.name_not_blank, ?_⟩
  rcases expression with _ | text
  · obtain ⟨hexpression, hcondition⟩ := hkept rfl
    rw [hexpression, hcondition]
    exact hrule.ofText_expression
  · obtain ⟨-, rfl, htext⟩ := hnew text rfl
    exact htext

/-- A sound rule that is renamed stays sound; its name is the old one or one that no rule has. -/
theorem isSound_of_renamed {rule changed : Rule} {newName : Option String}
    (hrule : rule.IsSound catalog.settings.parseMode)
    (h : catalog.renamed rule newName = .ok changed) :
    (changed.name = rule.name ∨ changed.name ∉ catalog.names) ∧
      changed.IsSound catalog.settings.parseMode := by
  have htext : Condition.ofText catalog.settings.parseMode changed.expression =
      .ok changed.condition := by
    rw [(renamed_eq_ok_iff.1 h).2]
    exact hrule.ofText_expression
  rcases name_of_renamed h with hname | ⟨hblank, hfree⟩
  · exact ⟨.inl hname, by rw [hname]; exact hrule.name_not_blank, htext⟩
  · exact ⟨.inr hfree, hblank, htext⟩

/-! ### One change -/

/-- No two rules have the same name, and every rule is sound. -/
structure IsSound (catalog : Catalog) : Prop where
  nodup_names : catalog.names.Nodup
  isSound_rule : ∀ rule ∈ catalog.rules, rule.IsSound catalog.settings.parseMode

/-- A catalog without rules is sound. -/
theorem isSound_empty (settings : Settings) : IsSound { settings } :=
  ⟨List.nodup_nil, by simp⟩

/-- An insertion keeps a catalog sound, as the name is new and not blank. -/
theorem IsSound.insert (h : catalog.IsSound) {name expression : String} {rule : Rule}
    {changed : Catalog} (hchanged : catalog.insert name expression = .ok (rule, changed)) :
    changed.IsSound := by
  obtain ⟨hname, hrule, rfl⟩ := insert_eq_ok_iff.1 hchanged
  obtain ⟨-, -, hruleName, -⟩ := Rule.create_eq_ok_iff.1 hrule
  constructor
  · rw [names, List.map_append, List.map_singleton, hruleName, List.nodup_append]
    refine ⟨h.nodup_names, List.nodup_singleton name, ?_⟩
    rintro _ hother _ (_ | ⟨_, ⟨⟩⟩) rfl
    exact hname hother
  · intro other hother
    rcases List.mem_append.1 hother with hother | hother
    · exact h.isSound_rule other hother
    · rw [List.mem_singleton.1 hother]
      exact Rule.isSound_of_create hrule

/-- An update keeps a catalog sound: the name is its own or new, and text and condition change
together. -/
theorem IsSound.update (h : catalog.IsSound) {name : String} {newName expression : Option String}
    {rule : Rule} {changed : Catalog}
    (hchanged : catalog.update name newName expression = .ok (rule, changed)) :
    changed.IsSound := by
  obtain ⟨front, old, back, between, hfinds, hbetween, hrule, rfl⟩ := update_eq_ok_iff.1 hchanged
  obtain ⟨hold, hothers⟩ : old.IsSound catalog.settings.parseMode ∧
      ∀ other ∈ front ++ back, other.IsSound catalog.settings.parseMode := by
    have hall := h.isSound_rule
    rw [hfinds.rules_eq, List.forall_mem_append, List.forall_mem_cons] at hall
    exact ⟨hall.2.1, List.forall_mem_append.2 ⟨hall.1, hall.2.2⟩⟩
  obtain ⟨hrenamed, hbetweenSound⟩ := isSound_of_renamed hold hbetween
  obtain ⟨hruleName, hruleSound⟩ := isSound_of_reworded hbetweenSound hrule
  constructor
  · have hnames := h.nodup_names
    rw [names, hfinds.rules_eq, nodup_names_middle] at hnames
    rw [names, nodup_names_middle, hruleName]
    refine ⟨?_, hnames.2⟩
    obtain hkept | hnew := hrenamed
    · rw [hkept]
      exact hnames.1
    · intro hmem
      apply hnew
      rw [names, hfinds.rules_eq, List.map_append, List.map_cons]
      rw [List.map_append] at hmem
      exact List.mem_append.2 ((List.mem_append.1 hmem).imp_right (List.mem_cons_of_mem _))
  · show ∀ other ∈ front ++ rule :: back, other.IsSound catalog.settings.parseMode
    rw [List.forall_mem_append] at hothers
    rw [List.forall_mem_append, List.forall_mem_cons]
    exact ⟨hothers.1, hruleSound, hothers.2⟩

/-- A removal keeps a catalog sound, as fewer rules are left. -/
theorem IsSound.remove (h : catalog.IsSound) {name : String} {rule : Rule} {changed : Catalog}
    (hchanged : catalog.remove name = .ok (rule, changed)) : changed.IsSound := by
  obtain ⟨front, back, hfinds, rfl⟩ := remove_eq_ok_iff.1 hchanged
  have hfewer : (front ++ back).Sublist catalog.rules := by
    rw [hfinds.rules_eq]
    exact (List.Sublist.refl front).append (List.sublist_cons_self rule back)
  exact ⟨h.nodup_names.sublist (hfewer.map Rule.name),
    fun other hother => h.isSound_rule other (hfewer.mem hother)⟩

/-- **One change** keeps a catalog sound, whether it succeeds or fails. -/
theorem IsSound.perform (h : catalog.IsSound) (change : Change) :
    (catalog.perform change).2.IsSound := by
  unfold Catalog.perform
  split
  · exact h
  · rename_i rule changed hattempt
    cases change with
    | insert name expression => exact h.insert hattempt
    | update name newName expression => exact h.update hattempt
    | remove name => exact h.remove hattempt

/-! ### Runs of changes -/

/-- No run of changes touches the settings. -/
theorem settings_performAll (catalog : Catalog) (changes : List Change) :
    (catalog.performAll changes).settings = catalog.settings := by
  induction changes generalizing catalog with
  | nil => rfl
  | cons change rest ih =>
    show ((catalog.perform change).2.performAll rest).settings = catalog.settings
    rw [ih, settings_perform]

/-- A run of changes keeps a catalog sound. -/
theorem IsSound.performAll (h : catalog.IsSound) (changes : List Change) :
    (catalog.performAll changes).IsSound := by
  induction changes generalizing catalog with
  | nil => exact h
  | cons change rest ih => exact ih (h.perform change)

/-- **What holds of every catalog.** However a catalog was changed since it was empty, its settings
are those it started with and its names are pairwise different. Of every rule something is left of
the name when blanks are cut off at its ends, the condition is what the text says under the parse
mode of the settings, and in strict mode the condition has a truth value. -/
theorem performAll_sound (settings : Settings) (changes : List Change) :
    let catalog := ({ settings } : Catalog).performAll changes
    catalog.settings = settings ∧ catalog.names.Nodup ∧
      ∀ rule ∈ catalog.rules, Text.trimmed rule.name.toList ≠ [] ∧
        Condition.ofText settings.parseMode rule.expression = .ok rule.condition ∧
        (settings.parseMode = .strict → rule.condition.isEvaluable = true) := by
  intro catalog
  have hsettings : catalog.settings = settings := settings_performAll _ changes
  have hsound : catalog.IsSound := (isSound_empty settings).performAll changes
  refine ⟨hsettings, hsound.nodup_names, fun rule hrule => ?_⟩
  obtain ⟨hname, htext⟩ := hsound.isSound_rule rule hrule
  rw [hsettings] at htext
  refine ⟨?_, htext, fun hstrict => ?_⟩
  · rw [Ne, Text.trimmed_eq_nil_iff]
    intro hblank
    rw [Text.isAllBlank, List.all_eq_true.2 hblank] at hname
    cases hname
  · rw [hstrict] at htext
    exact Condition.isEvaluable_of_ofText_strict htext

/-- A condition that can be written and evaluated is inserted under a new name by its text, in
either mode. -/
theorem insert_ruleText {name expression : String} {condition : Condition}
    (htext : condition.ruleText = expression) (hwritable : condition.IsWritable)
    (hlow : condition.height ≤ maxNesting) (hvalue : condition.isEvaluable = true)
    (hname : Text.isAllBlank name = false) (hblank : Text.isAllBlank expression = false)
    (hfree : name ∉ catalog.names) :
    catalog.insert name expression = .ok (⟨name, expression, condition⟩,
      { catalog with rules := catalog.rules ++ [⟨name, expression, condition⟩] }) := by
  have hlenient : Condition.ofText .lenient expression = .ok condition := by
    rw [← htext]
    exact Condition.ofText_ruleText_of_height_le hwritable hlow
  have hread : Condition.ofText catalog.settings.parseMode expression = .ok condition := by
    cases catalog.settings.parseMode with
    | lenient => exact hlenient
    | strict => exact Condition.ofText_strict_of_isEvaluable hlenient hvalue
  refine insert_eq_ok_iff.2 ⟨hfree, ?_, rfl⟩
  exact Rule.create_eq_ok_iff.2
    ⟨hname, Rule.conditionOf_eq_ok_iff.2 ⟨hblank, hread⟩, rfl, rfl⟩

/-- A rule that is inserted in strict mode and then renamed, with an insertion in between that fails
because the first name is taken. -/
theorem performAll_sound_of_renamed :
    let catalog := ({ settings := { parseMode := .strict } } : Catalog).performAll
      [.insert "adult" "age = 'x'", .insert "adult" "vip", .update "adult" (some "senior") none]
    let rule : Rule := ⟨"senior", "age = 'x'", .compare "age" .equal (.text "x")⟩
    rule ∈ catalog.rules ∧ Text.trimmed rule.name.toList ≠ [] ∧
      Condition.ofText .strict rule.expression = .ok rule.condition ∧
      rule.condition.isEvaluable = true := by
  intro catalog rule
  have hvalue : rule.condition.isEvaluable = true :=
    rule.condition.isEvaluable_eq_true_iff_bareOperands.2 rfl
  have hinsert : ({ settings := { parseMode := .strict } } : Catalog).insert "adult" "age = 'x'" =
      .ok ({ rule with name := "adult" },
        { rules := [{ rule with name := "adult" }], settings := { parseMode := .strict } }) :=
    insert_ruleText rfl (by decide) (by decide) hvalue (by decide) (by decide) List.not_mem_nil
  have hrules : catalog.rules = [rule] := by
    show (Catalog.performAll _ _).rules = _
    simp only [performAll, List.foldl_cons, perform, attempt, hinsert]
    rfl
  have hmem : rule ∈ catalog.rules := by
    rw [hrules]
    exact List.mem_singleton_self rule
  obtain ⟨-, -, hall⟩ := performAll_sound { parseMode := .strict }
    [.insert "adult" "age = 'x'", .insert "adult" "vip", .update "adult" (some "senior") none]
  obtain ⟨hname, hread, hstrict⟩ := hall rule hmem
  exact ⟨hmem, hname, hread, hstrict rfl⟩

end Catalog

end Eligibility

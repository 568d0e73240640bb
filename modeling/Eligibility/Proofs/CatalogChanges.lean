import Mathlib.Data.List.Nodup
import Eligibility.Catalog
import Eligibility.Proofs.Result

/-!
# What a change makes of a catalog

A change that succeeds is described here by the list of rules before and behind the rule it is
about, without places and without look-ups.

* **Finding** (`find?_eq_some_iff`): a look-up finds the first rule of a name. `Finds` splits the
  rules there, and replacing or erasing at the place that was found acts on that split
  (`Finds.set_indexOf`, `Finds.eraseIdx_indexOf`).
* **Changing** (`insert_eq_ok_iff`, `update_eq_ok_iff`, `remove_eq_ok_iff`): when each change
  succeeds and what it then leaves. Whatever holds of all catalogs rests on these three. The two
  steps of an update have their own lemmas (`renamed_eq_ok_iff`, `reworded_eq_ok_iff`).
-/

namespace Eligibility

namespace Catalog

/-! ### Finding -/

/-- The first rule of a name, with the rules before it and behind it. -/
structure Finds (catalog : Catalog) (name : String) (front : List Rule) (rule : Rule)
    (back : List Rule) : Prop where
  rules_eq : catalog.rules = front ++ rule :: back
  name_eq : rule.name = name
  name_ne : ∀ other ∈ front, other.name ≠ name

/-- A look-up finds the first rule of the name. -/
theorem find?_eq_some_iff {catalog : Catalog} {name : String} {rule : Rule} :
    (catalog.rules.find? fun rule => rule.name == name) = some rule ↔
      ∃ front back, catalog.Finds name front rule back := by
  rw [List.find?_eq_some_iff_append]
  constructor
  · rintro ⟨hname, front, back, hrules, hfront⟩
    refine ⟨front, back, hrules, beq_iff_eq.1 hname, fun other hother => ?_⟩
    simpa using hfront other hother
  · rintro ⟨front, back, hrules, hname, hfront⟩
    refine ⟨beq_iff_eq.2 hname, front, back, hrules, fun other hother => ?_⟩
    simpa using hfront other hother

/-- A look-up fails when no rule has the name. -/
theorem get?_eq_none_iff {catalog : Catalog} {name : String} :
    catalog.get? name = none ↔ name ∉ catalog.names := by
  rw [get?, List.find?_eq_none, names, List.mem_map, not_exists]
  exact forall_congr' fun rule => by simp

variable {catalog : Catalog} {name : String} {front back : List Rule} {rule : Rule}

/-- A name is one of the catalog when a rule is found under it. -/
theorem mem_names_iff : name ∈ catalog.names ↔ ∃ rule, catalog.get? name = some rule := by
  rw [← Option.ne_none_iff_exists', Ne, get?_eq_none_iff, not_not]

/-- The place of the first rule of a name. -/
theorem Finds.indexOf (h : catalog.Finds name front rule back) :
    catalog.indexOf name = .ok front.length := by
  have hfront : (front.findIdx? fun rule => rule.name == name) = none := by
    rw [List.findIdx?_eq_none_iff]
    exact fun other hother => beq_eq_false_iff_ne.2 (h.name_ne other hother)
  rw [Catalog.indexOf, h.rules_eq, List.findIdx?_append, hfront]
  simp [List.findIdx?_cons, h.name_eq]

/-- Another rule at its place. -/
theorem Finds.set_indexOf (h : catalog.Finds name front rule back) (other : Rule) :
    catalog.rules.set front.length other = front ++ other :: back := by
  rw [h.rules_eq, List.set_append_right _ _ (Nat.le_refl _), Nat.sub_self, List.set_cons_zero]

/-- The rules without it. -/
theorem Finds.eraseIdx_indexOf (h : catalog.Finds name front rule back) :
    catalog.rules.eraseIdx front.length = front ++ back := by
  rw [h.rules_eq, List.eraseIdx_append_of_length_le (Nat.le_refl _), Nat.sub_self,
    List.eraseIdx_cons_zero]

/-- Names are pairwise different when that of one rule is none of the others and these differ. -/
theorem nodup_names_middle {front back : List Rule} {rule : Rule} :
    ((front ++ rule :: back).map Rule.name).Nodup ↔
      rule.name ∉ (front ++ back).map Rule.name ∧ ((front ++ back).map Rule.name).Nodup := by
  rw [List.map_append, List.map_cons, List.nodup_middle, List.nodup_cons, List.map_append]

/-- When names differ, no other rule has the name. -/
theorem Finds.name_ne_of_nodup (h : catalog.Finds name front rule back)
    (hnames : catalog.names.Nodup) : ∀ other ∈ front ++ back, other.name ≠ name := by
  intro other hother heq
  rw [names, h.rules_eq, nodup_names_middle, h.name_eq] at hnames
  apply hnames.1
  rw [← heq]
  exact List.mem_map_of_mem hother

/-! ### Changing -/

/-- A change that is made. -/
theorem perform_eq_ok_iff {change : Change} {after : Catalog} :
    catalog.perform change = (.ok rule, after) ↔ catalog.attempt change = .ok (rule, after) := by
  unfold perform
  split <;> simp [*]

/-- A change that is refused. -/
theorem perform_eq_error_iff {change : Change} {e : CatalogError} {after : Catalog} :
    catalog.perform change = (.error e, after) ↔
      catalog.attempt change = .error e ∧ after = catalog := by
  unfold perform
  split <;> simp [*, eq_comm]

/-- A name is taken when a rule is found under it. -/
theorem isSome_get?_iff : (catalog.get? name).isSome = true ↔ name ∈ catalog.names := by
  rw [Option.isSome_iff_ne_none, Ne, get?_eq_none_iff, not_not]

/-- A rule gets a new name that is not blank and that no rule has; it may also keep its name. -/
theorem renamed_eq_ok_iff {old : Rule} {newName : Option String} :
    catalog.renamed old newName = .ok rule ↔
      (∀ new ∈ newName, new ≠ old.name → Text.isAllBlank new = false ∧ new ∉ catalog.names) ∧
        rule = { old with name := newName.getD old.name } := by
  rcases newName with _ | new
  · simp only [renamed, Except.ok.injEq, Option.getD_none]
    exact ⟨fun h => ⟨fun _ hnone => absurd hnone (Option.not_mem_none _), h.symm⟩,
      fun h => h.2.symm⟩
  · simp only [renamed, isSome_get?_iff, Option.mem_some_iff, forall_eq', Option.getD_some]
    split
    · rename_i hsame
      rw [hsame, Except.ok.injEq]
      exact ⟨fun h => ⟨fun hne => absurd rfl hne, h.symm⟩, fun h => h.2.symm⟩
    · rename_i hnew
      split
      · rename_i hblank
        simp [hnew, hblank]
      · rename_i hblank
        split
        · rename_i htaken
          simp [hnew, htaken]
        · rename_i hfree
          rw [Except.ok.injEq]
          exact ⟨fun h => ⟨fun _ => ⟨Bool.eq_false_iff.2 hblank, hfree⟩, h.symm⟩, fun h => h.2.symm⟩

/-- A rule that is renamed keeps its name, or gets one that is not blank and that no rule has. -/
theorem name_of_renamed {old : Rule} {newName : Option String}
    (h : catalog.renamed old newName = .ok rule) :
    rule.name = old.name ∨ Text.isAllBlank rule.name = false ∧ rule.name ∉ catalog.names := by
  obtain ⟨hnew, rfl⟩ := renamed_eq_ok_iff.1 h
  rcases newName with _ | new
  · exact .inl rfl
  · by_cases hkept : new = old.name
    · exact .inl hkept
    · exact .inr (hnew new rfl hkept)

/-- A new name is refused when it is blank or when a rule has it. -/
theorem renamed_eq_error_iff {old : Rule} {newName : Option String} {e : CatalogError} :
    catalog.renamed old newName = .error e ↔
      ∃ new, newName = some new ∧ new ≠ old.name ∧
        (Text.isAllBlank new = true ∧ .emptyName = e ∨
          Text.isAllBlank new = false ∧ new ∈ catalog.names ∧ .duplicate new = e) := by
  rcases newName with _ | new
  · simp [renamed]
  · simp only [renamed, isSome_get?_iff, Option.some.injEq, exists_eq_left']
    split
    · rename_i hsame
      simp [hsame]
    · rename_i hnew
      split
      · rename_i hblank
        simp [hnew, hblank]
      · rename_i hblank
        split
        · rename_i htaken
          simp [hnew, hblank, htaken]
        · rename_i hfree
          simp [hblank, hfree]

/-- A rule gets a new text that is not blank and can be read; without one it stays as it is. -/
theorem reworded_eq_ok_iff {old : Rule} {expression : Option String} :
    catalog.reworded old expression = .ok rule ↔
      rule.name = old.name ∧
        (expression = none → rule.expression = old.expression ∧ rule.condition = old.condition) ∧
        ∀ text ∈ expression, Text.isAllBlank text = false ∧ rule.expression = text ∧
          Condition.ofText catalog.settings.parseMode text = .ok rule.condition := by
  rcases expression with _ | text
  · rw [reworded, Except.ok.injEq]
    constructor
    · rintro rfl
      exact ⟨rfl, fun _ => ⟨rfl, rfl⟩, fun _ hnone => absurd hnone (Option.not_mem_none _)⟩
    · rintro ⟨hname, hsame, -⟩
      obtain ⟨hexpression, hcondition⟩ := hsame rfl
      cases rule
      cases old
      simp_all
  · simp only [reworded, Rule.setExpression_eq_ok_iff, Rule.conditionOf_eq_ok_iff,
      Option.mem_some_iff, forall_eq']
    constructor
    · rintro ⟨⟨hblank, htext⟩, hname, hexpression⟩
      exact ⟨hname, fun hnone => absurd hnone (Option.some_ne_none text),
        hblank, hexpression, htext⟩
    · rintro ⟨hname, -, hblank, hexpression, htext⟩
      exact ⟨⟨hblank, htext⟩, hname, hexpression⟩

/-- A rule is inserted under a new name, at the end. -/
theorem insert_eq_ok_iff {expression : String} {changed : Catalog} :
    catalog.insert name expression = .ok (rule, changed) ↔
      name ∉ catalog.names ∧ Rule.create name expression catalog.settings.parseMode = .ok rule ∧
        changed = { catalog with rules := catalog.rules ++ [rule] } := by
  rw [← get?_eq_none_iff]
  unfold insert
  split
  · rename_i hfound
    simp [Option.isSome_iff_ne_none.1 hfound]
  · rename_i hfound
    simp only [Option.not_isSome_iff_eq_none.1 hfound, true_and, Except.map_eq_ok_iff,
      Prod.mk.injEq]
    constructor
    · rintro ⟨_, hrule, rfl, rfl⟩
      exact ⟨hrule, rfl⟩
    · rintro ⟨hrule, rfl⟩
      exact ⟨rule, hrule, rfl, rfl⟩

/-- A rule that is found is renamed and then reworded, at its place. -/
theorem update_eq_ok_iff {newName expression : Option String} {changed : Catalog} :
    catalog.update name newName expression = .ok (rule, changed) ↔
      ∃ front old back between, catalog.Finds name front old back ∧
        catalog.renamed old newName = .ok between ∧
        catalog.reworded between expression = .ok rule ∧
        changed = { catalog with rules := front ++ rule :: back } := by
  unfold update
  constructor
  · intro h
    split at h
    · cases h
    · rename_i old hold
      obtain ⟨front, back, hfinds⟩ := find?_eq_some_iff.1 hold
      split at h
      · cases h
      · rename_i between hbetween
        split at h
        · cases h
        · rename_i final hfinal
          rw [hfinds.indexOf] at h
          cases h
          exact ⟨front, old, back, between, hfinds, hbetween, hfinal,
            by rw [hfinds.set_indexOf]⟩
  · rintro ⟨front, old, back, between, hfinds, hbetween, hfinal, rfl⟩
    rw [find?_eq_some_iff.2 ⟨front, back, hfinds⟩]
    simp only [hbetween, hfinal, hfinds.indexOf, Except.map, hfinds.set_indexOf]

/-- An update fails when no rule is found, when it cannot be renamed or when it cannot be
reworded. -/
theorem update_eq_error_iff {newName expression : Option String} {e : CatalogError} :
    catalog.update name newName expression = .error e ↔
      name ∉ catalog.names ∧ .notFound name = e ∨
        ∃ old, catalog.get? name = some old ∧ (catalog.renamed old newName = .error e ∨
          ∃ between, catalog.renamed old newName = .ok between ∧
            catalog.reworded between expression = .error e) := by
  rw [← get?_eq_none_iff]
  unfold update
  rcases hfound : catalog.get? name with _ | old
  · rw [get?] at hfound
    simp [hfound]
  · obtain ⟨front, back, hfinds⟩ := find?_eq_some_iff.1 hfound
    rw [get?] at hfound
    simp only [hfound, hfinds.indexOf]
    rcases hrenamed : catalog.renamed old newName with reason | between
    · simp [hrenamed]
    · rcases hreworded : catalog.reworded between expression with reason | rule
      · simp [hrenamed, hreworded]
      · simp [hrenamed, hreworded, Except.map]

/-- A rule that is found is taken out. -/
theorem remove_eq_ok_iff {changed : Catalog} :
    catalog.remove name = .ok (rule, changed) ↔
      ∃ front back, catalog.Finds name front rule back ∧
        changed = { catalog with rules := front ++ back } := by
  unfold remove get?
  constructor
  · intro h
    split at h
    · cases h
    · rename_i found hfound
      obtain ⟨front, back, hfinds⟩ := find?_eq_some_iff.1 hfound
      rw [hfinds.indexOf] at h
      cases h
      exact ⟨front, back, hfinds, by rw [hfinds.eraseIdx_indexOf]⟩
  · rintro ⟨front, back, hfinds, rfl⟩
    rw [find?_eq_some_iff.2 ⟨front, back, hfinds⟩]
    simp only [hfinds.indexOf, Except.map, hfinds.eraseIdx_indexOf]

end Catalog

end Eligibility

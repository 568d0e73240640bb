import Eligibility.Proofs.CatalogInvariant

/-!
# A catalog is a map from names to rules, in the order of insertion

What each change does to a catalog is said here by the rules as a list and by look-ups, without
places and without the steps in which a change is made.

* **What is made** (`Inserts`, `Updates`, `Removes`): an insertion adds one rule at the end, an
  update puts another rule in the place of one and a removal takes one out; every other rule stays
  as it is and where it is, and is found under its name as before.
* **What is refused** (`Refuses`): the reasons, in the order in which they are looked for.
* **Changes** (`perform_insert_iff`, `perform_update_iff`, `perform_remove_iff`,
  `perform_error_iff`): a change is made exactly as the first three say, and refused exactly for the
  reasons of the fourth, and then it leaves the catalog as it was.

`perform_refines_map` says all this of every catalog that was changed in any way since it was empty.
-/

namespace Eligibility

namespace Catalog

/-! ### What is made -/

/-- The catalog `after` has one rule more, which is new and well formed. -/
structure Inserts (before : Catalog) (name expression : String) (rule : Rule) (after : Catalog) :
    Prop where
  name_free : name ∉ before.names
  name_not_blank : Text.isAllBlank name = false
  expression_not_blank : Text.isAllBlank expression = false
  ofText_expression : Condition.ofText before.settings.parseMode expression = .ok rule.condition
  name_eq : rule.name = name
  expression_eq : rule.expression = expression
  /-- It stands behind the others. -/
  rules_eq : after.rules = before.rules ++ [rule]
  settings_eq : after.settings = before.settings
  get?_eq : ∀ other, after.get? other = if other = name then some rule else before.get? other

/-- The catalog `after` has another rule in the place of the one that was found under a name. -/
structure Updates (before : Catalog) (name : String) (newName expression : Option String)
    (old rule : Rule) (after : Catalog) : Prop where
  get?_name : before.get? name = some old
  /-- A new name is taken when it is not blank and no rule has it. -/
  newName_free : ∀ new ∈ newName, new ≠ name →
    Text.isAllBlank new = false ∧ new ∉ before.names
  name_eq : rule.name = newName.getD name
  of_none : expression = none →
    rule.expression = old.expression ∧ rule.condition = old.condition
  of_some : ∀ text ∈ expression, Text.isAllBlank text = false ∧ rule.expression = text ∧
    Condition.ofText before.settings.parseMode text = .ok rule.condition
  /-- All other rules stay, and stay where they are. -/
  rules_eq : after.rules = before.rules.map fun other => if other.name = name then rule else other
  settings_eq : after.settings = before.settings
  get?_eq : ∀ other, after.get? other =
    if other = rule.name then some rule else if other = name then none else before.get? other

/-- The catalog `after` is without the rule that was found under a name. -/
structure Removes (before : Catalog) (name : String) (rule : Rule) (after : Catalog) : Prop where
  get?_name : before.get? name = some rule
  rules_eq : after.rules = before.rules.filter fun other => other.name ≠ name
  settings_eq : after.settings = before.settings
  get?_eq : ∀ other, after.get? other = if other = name then none else before.get? other

/-! ### What is refused -/

/-- A text is refused when it is blank, and otherwise when it cannot be read. -/
inductive RefusesText (mode : ParseMode) : String → CatalogError → Prop
  | blank {expression : String} (h : Text.isAllBlank expression = true) :
      RefusesText mode expression .emptyExpression
  | unread {expression : String} {e : RuleError} (h : Text.isAllBlank expression = false)
      (hread : Condition.ofText mode expression = .error e) :
      RefusesText mode expression (.rule e)

/-- The reasons for which a change is refused. -/
inductive Refuses (catalog : Catalog) : Change → CatalogError → Prop
  | insertTaken {name expression : String} (h : name ∈ catalog.names) :
      Refuses catalog (.insert name expression) (.duplicate name)
  | insertBlank {name expression : String} (hfree : name ∉ catalog.names)
      (h : Text.isAllBlank name = true) : Refuses catalog (.insert name expression) .emptyName
  | insertText {name expression : String} {e : CatalogError} (hfree : name ∉ catalog.names)
      (hname : Text.isAllBlank name = false)
      (h : RefusesText catalog.settings.parseMode expression e) :
      Refuses catalog (.insert name expression) e
  | updateMissing {name : String} {newName expression : Option String}
      (h : name ∉ catalog.names) :
      Refuses catalog (.update name newName expression) (.notFound name)
  | updateBlank {name new : String} {expression : Option String} (hname : name ∈ catalog.names)
      (hnew : new ≠ name) (h : Text.isAllBlank new = true) :
      Refuses catalog (.update name (some new) expression) .emptyName
  | updateTaken {name new : String} {expression : Option String} (hname : name ∈ catalog.names)
      (hnew : new ≠ name) (hblank : Text.isAllBlank new = false) (h : new ∈ catalog.names) :
      Refuses catalog (.update name (some new) expression) (.duplicate new)
  /-- The new name would do, and still nothing is changed. -/
  | updateText {name expression : String} {newName : Option String} {e : CatalogError}
      (hname : name ∈ catalog.names)
      (hnew : ∀ new ∈ newName, new ≠ name →
        Text.isAllBlank new = false ∧ new ∉ catalog.names)
      (h : RefusesText catalog.settings.parseMode expression e) :
      Refuses catalog (.update name newName (some expression)) e
  | removeMissing {name : String} (h : name ∉ catalog.names) :
      Refuses catalog (.remove name) (.notFound name)

variable {catalog after : Catalog} {name : String} {rule : Rule}

/-! ### Looking up -/

/-- When names differ, a look-up finds every rule under its name, and nothing else. -/
theorem get?_eq_some_iff (hnames : catalog.names.Nodup) :
    catalog.get? name = some rule ↔ rule ∈ catalog.rules ∧ rule.name = name := by
  constructor
  · intro hfound
    obtain ⟨hname, hmem⟩ := name_of_get? hfound
    exact ⟨hmem, hname⟩
  · rintro ⟨hmem, rfl⟩
    obtain ⟨found, hfound⟩ := mem_names_iff.1 (List.mem_map_of_mem hmem)
    obtain ⟨hname, hfoundMem⟩ := name_of_get? hfound
    rw [hfound, List.inj_on_of_nodup_map hnames hfoundMem hmem hname]

/-- The place of a name is the place of the rule that is found under it. -/
theorem exists_indexOf (h : name ∈ catalog.names) :
    ∃ index rule, catalog.indexOf name = .ok index ∧ catalog.rules[index]? = some rule ∧
      catalog.get? name = some rule := by
  obtain ⟨rule, hfound⟩ := mem_names_iff.1 h
  obtain ⟨front, back, hfinds⟩ := find?_eq_some_iff.1 hfound
  refine ⟨front.length, rule, hfinds.indexOf, ?_, hfound⟩
  rw [hfinds.rules_eq, List.getElem?_append_right (Nat.le_refl _), Nat.sub_self]
  rfl

/-! ### Insertions -/

/-- A rule behind the others is found under its name, when no other has the name. -/
theorem get?_of_append (hrules : after.rules = catalog.rules ++ [rule])
    (hfree : rule.name ∉ catalog.names) (other : String) :
    after.get? other = if other = rule.name then some rule else catalog.get? other := by
  have hnone : catalog.get? rule.name = none := get?_eq_none_iff.2 hfree
  unfold get? at hnone ⊢
  rw [hrules, List.find?_append]
  split
  · rename_i hname
    rw [hname, hnone]
    simp
  · rename_i hname
    simp [Ne.symm hname]

/-- **An insertion** is made exactly when the name is new and neither name nor text is refused. -/
theorem perform_insert_iff {expression : String} :
    catalog.perform (.insert name expression) = (.ok rule, after) ↔
      catalog.Inserts name expression rule after := by
  rw [perform_eq_ok_iff]
  show catalog.insert name expression = .ok (rule, after) ↔ _
  rw [insert_eq_ok_iff, Rule.create_eq_ok_iff, Rule.conditionOf_eq_ok_iff]
  constructor
  · rintro ⟨hfree, ⟨hname, ⟨hexpression, htext⟩, rfl, rfl⟩, rfl⟩
    exact ⟨hfree, hname, hexpression, htext, rfl, rfl, rfl, rfl, get?_of_append rfl hfree⟩
  · intro h
    refine ⟨h.name_free, ⟨h.name_not_blank, ⟨h.expression_not_blank, h.ofText_expression⟩,
      h.name_eq, h.expression_eq⟩, ?_⟩
    rw [← h.rules_eq, ← h.settings_eq]

/-! ### Updates -/

section Others

variable {front back : List Rule} {old : Rule}

/-- Nothing is found under a name that no rule has. -/
theorem find?_eq_none {rules : List Rule} (h : ∀ rule ∈ rules, rule.name ≠ name) :
    (rules.find? fun rule => rule.name == name) = none := by
  rw [List.find?_eq_none]
  intro rule hrule
  rw [beq_iff_eq]
  exact h rule hrule

/-- A rule does not matter for what is found under another name. -/
theorem find?_middle_of_ne (h : rule.name ≠ name) :
    ((front ++ rule :: back).find? fun rule => rule.name == name) =
      (front ++ back).find? fun rule => rule.name == name := by
  rw [List.find?_append, List.find?_append, List.find?_cons_of_neg]
  rw [beq_iff_eq]
  exact h

/-- Among the rules other than the one that is found, nothing is found under its name, and all else
as before. -/
theorem Finds.find?_others (h : catalog.Finds name front old back)
    (hnames : catalog.names.Nodup) (other : String) :
    ((front ++ back).find? fun rule => rule.name == other) =
      if other = name then none else catalog.get? other := by
  split
  · rename_i hother
    rw [hother]
    exact find?_eq_none (h.name_ne_of_nodup hnames)
  · rename_i hother
    rw [get?, h.rules_eq, find?_middle_of_ne]
    rw [h.name_eq]
    exact Ne.symm hother

/-- With another rule in the place of the one that is found, that rule is found under its name,
nothing under the old name if it has another, and all else as before. -/
theorem Finds.get?_of_replaced (h : catalog.Finds name front old back)
    (hnames : catalog.names.Nodup) (hrules : after.rules = front ++ rule :: back)
    (hfree : rule.name = name ∨ rule.name ∉ catalog.names) (other : String) :
    after.get? other =
      if other = rule.name then some rule else if other = name then none
        else catalog.get? other := by
  split
  · rename_i hother
    -- a look-up takes the first rule of a name, so none in front may have the name of the new one
    have hfront : ∀ found ∈ front, found.name ≠ rule.name := by
      intro found hfound
      rcases hfree with hkept | hfree
      · rw [hkept]
        exact h.name_ne found hfound
      · intro hsame
        apply hfree
        rw [← hsame, names, h.rules_eq]
        exact List.mem_map_of_mem (List.mem_append_left _ hfound)
    rw [hother, get?, hrules, List.find?_append, find?_eq_none hfront]
    simp
  · rename_i hother
    rw [get?, hrules, find?_middle_of_ne (Ne.symm hother), h.find?_others hnames]

/-- Another rule in the place of the one that is found, told by names instead of places. -/
theorem Finds.map_rules (h : catalog.Finds name front old back) (hnames : catalog.names.Nodup)
    (rule : Rule) :
    (catalog.rules.map fun other => if other.name = name then rule else other) =
      front ++ rule :: back := by
  have hothers := h.name_ne_of_nodup hnames
  rw [List.forall_mem_append] at hothers
  have hkept : ∀ list : List Rule, (∀ other ∈ list, other.name ≠ name) →
      (list.map fun other => if other.name = name then rule else other) = list := by
    intro list hlist
    have hid : (list.map fun other => if other.name = name then rule else other) = list.map id :=
      List.map_congr_left fun other hother => if_neg (hlist other hother)
    rw [hid, List.map_id]
  rw [h.rules_eq, List.map_append, List.map_cons, hkept front hothers.1, hkept back hothers.2,
    if_pos h.name_eq]

/-- All rules but the one that is found, told by names instead of places. -/
theorem Finds.filter_rules (h : catalog.Finds name front old back)
    (hnames : catalog.names.Nodup) :
    catalog.rules.filter (fun other => other.name ≠ name) = front ++ back := by
  have hkept : (front ++ back).filter (fun other => other.name ≠ name) = front ++ back :=
    List.filter_eq_self.2 fun other hother =>
      decide_eq_true (h.name_ne_of_nodup hnames other hother)
  rw [List.filter_append] at hkept
  rw [h.rules_eq, List.filter_append, List.filter_cons_of_neg, hkept]
  simpa using h.name_eq

end Others

/-- **An update** is made exactly when the rule is found and neither the new name nor the new text
is refused. -/
theorem perform_update_iff (hnames : catalog.names.Nodup) {newName expression : Option String} :
    catalog.perform (.update name newName expression) = (.ok rule, after) ↔
      ∃ old, catalog.Updates name newName expression old rule after := by
  rw [perform_eq_ok_iff]
  show catalog.update name newName expression = .ok (rule, after) ↔ _
  rw [update_eq_ok_iff]
  constructor
  · rintro ⟨front, old, back, between, hfinds, hrenamed, hreworded, rfl⟩
    have hbetween := name_of_renamed hrenamed
    obtain ⟨hfree, rfl⟩ := renamed_eq_ok_iff.1 hrenamed
    obtain ⟨hname, hsame, htext⟩ := reworded_eq_ok_iff.1 hreworded
    rw [← hname] at hbetween
    rw [hfinds.name_eq] at hfree hname hbetween
    have hnew : rule.name = name ∨ rule.name ∉ catalog.names := hbetween.imp_right And.right
    refine ⟨old, find?_eq_some_iff.2 ⟨front, back, hfinds⟩, hfree, hname, hsame, htext, ?_, rfl,
      hfinds.get?_of_replaced hnames rfl hnew⟩
    exact (hfinds.map_rules hnames rule).symm
  · rintro ⟨old, h⟩
    obtain ⟨front, back, hfinds⟩ := find?_eq_some_iff.1 h.get?_name
    refine ⟨front, old, back, _, hfinds, renamed_eq_ok_iff.2 ⟨?_, rfl⟩,
      reworded_eq_ok_iff.2 ⟨?_, h.of_none, h.of_some⟩, ?_⟩
    · rw [hfinds.name_eq]
      exact h.newName_free
    · rw [hfinds.name_eq]
      exact h.name_eq
    · rw [← hfinds.map_rules hnames rule, ← h.rules_eq, ← h.settings_eq]

/-! ### Removals -/

/-- **A removal** is made exactly when the rule is found. -/
theorem perform_remove_iff (hnames : catalog.names.Nodup) :
    catalog.perform (.remove name) = (.ok rule, after) ↔ catalog.Removes name rule after := by
  rw [perform_eq_ok_iff]
  show catalog.remove name = .ok (rule, after) ↔ _
  rw [remove_eq_ok_iff]
  constructor
  · rintro ⟨front, back, hfinds, rfl⟩
    exact ⟨find?_eq_some_iff.2 ⟨front, back, hfinds⟩, (hfinds.filter_rules hnames).symm, rfl,
      hfinds.find?_others hnames⟩
  · intro h
    obtain ⟨front, back, hfinds⟩ := find?_eq_some_iff.1 h.get?_name
    refine ⟨front, back, hfinds, ?_⟩
    rw [← hfinds.filter_rules hnames, ← h.rules_eq, ← h.settings_eq]

/-! ### Refusals -/

/-- A text is refused when no condition is read from it. -/
theorem conditionOf_refuses_iff {mode : ParseMode} {expression : String} {e : CatalogError} :
    Rule.conditionOf mode expression = .error e ↔ RefusesText mode expression e := by
  unfold Rule.conditionOf
  constructor
  · intro h
    split at h
    · rename_i hblank
      cases h
      exact .blank hblank
    · rename_i hblank
      rcases hread : Condition.ofText mode expression with cause | condition
      · rw [hread] at h
        cases h
        exact .unread (Bool.eq_false_iff.2 hblank) hread
      · rw [hread] at h
        cases h
  · rintro (hblank | ⟨hblank, hread⟩)
    · rw [if_pos hblank]
    · rw [hblank, hread]
      rfl

/-- An insertion fails for its name or for its text. -/
theorem insert_refuses_iff {expression : String} {e : CatalogError} :
    catalog.insert name expression = .error e ↔
      catalog.Refuses (.insert name expression) e := by
  unfold insert Rule.create
  simp only [isSome_get?_iff]
  constructor
  · intro h
    split at h
    · rename_i htaken
      cases h
      exact .insertTaken htaken
    · rename_i hfree
      split at h
      · rename_i hblank
        cases h
        exact .insertBlank hfree hblank
      · rename_i hblank
        rw [Except.map_eq_error_iff, Except.map_eq_error_iff, conditionOf_refuses_iff] at h
        exact .insertText hfree (Bool.eq_false_iff.2 hblank) h
  · rintro (htaken | ⟨hfree, hblank⟩ | ⟨hfree, hblank, htext⟩)
    · rw [if_pos htaken]
    · rw [if_neg hfree, if_pos hblank]
      rfl
    · rw [if_neg hfree, if_neg (Bool.eq_false_iff.1 hblank), Except.map_eq_error_iff,
        Except.map_eq_error_iff, conditionOf_refuses_iff]
      exact htext

/-- A new text is refused when no condition is read from it. -/
theorem reworded_refuses_iff {old : Rule} {expression : Option String} {e : CatalogError} :
    catalog.reworded old expression = .error e ↔
      ∃ text, expression = some text ∧ RefusesText catalog.settings.parseMode text e := by
  rcases expression with _ | text
  · simp [reworded]
  · simp only [reworded, Rule.setExpression, Except.map_eq_error_iff, conditionOf_refuses_iff,
      Option.some.injEq, exists_eq_left']

/-- An update fails for a name without a rule, for its new name or for its new text. -/
theorem update_refuses_iff {newName expression : Option String} {e : CatalogError} :
    catalog.update name newName expression = .error e ↔
      catalog.Refuses (.update name newName expression) e := by
  rw [update_eq_error_iff]
  constructor
  · rintro (⟨hmissing, rfl⟩ | ⟨old, hold, hrenamed | ⟨between, hrenamed, hreworded⟩⟩)
    · exact .updateMissing hmissing
    · have hname : name ∈ catalog.names := mem_names_iff.2 ⟨old, hold⟩
      obtain ⟨new, rfl, hnew, ⟨hblank, rfl⟩ | ⟨hblank, htaken, rfl⟩⟩ :=
        renamed_eq_error_iff.1 hrenamed
      all_goals rw [(name_of_get? hold).1] at hnew
      · exact .updateBlank hname hnew hblank
      · exact .updateTaken hname hnew hblank htaken
    · obtain ⟨text, rfl, htext⟩ := reworded_refuses_iff.1 hreworded
      obtain ⟨hfree, -⟩ := renamed_eq_ok_iff.1 hrenamed
      rw [(name_of_get? hold).1] at hfree
      exact .updateText (mem_names_iff.2 ⟨old, hold⟩) hfree htext
  · intro h
    by_cases hname : name ∈ catalog.names
    · obtain ⟨old, hold⟩ := mem_names_iff.1 hname
      refine .inr ⟨old, hold, ?_⟩
      cases h with
      | updateMissing hmissing => exact absurd hname hmissing
      | updateBlank _ hnew hblank =>
        left
        rw [renamed_eq_error_iff, (name_of_get? hold).1]
        exact ⟨_, rfl, hnew, .inl ⟨hblank, rfl⟩⟩
      | updateTaken _ hnew hblank htaken =>
        left
        rw [renamed_eq_error_iff, (name_of_get? hold).1]
        exact ⟨_, rfl, hnew, .inr ⟨hblank, htaken, rfl⟩⟩
      | updateText _ hfree htext =>
        right
        refine ⟨_, renamed_eq_ok_iff.2 ⟨?_, rfl⟩, reworded_refuses_iff.2 ⟨_, rfl, htext⟩⟩
        rw [(name_of_get? hold).1]
        exact hfree
    · left
      cases h with
      | updateMissing => exact ⟨hname, rfl⟩
      | updateBlank hin | updateTaken hin | updateText hin => exact absurd hin hname

/-- A removal fails for a name without a rule. -/
theorem remove_refuses_iff {e : CatalogError} :
    catalog.remove name = .error e ↔ catalog.Refuses (.remove name) e := by
  unfold remove
  constructor
  · intro h
    split at h
    · rename_i hnone
      cases h
      exact .removeMissing (get?_eq_none_iff.1 hnone)
    · rename_i found hfound
      obtain ⟨front, back, hfinds⟩ := find?_eq_some_iff.1 hfound
      rw [hfinds.indexOf] at h
      cases h
  · intro h
    cases h with
    | removeMissing hmissing => rw [get?_eq_none_iff.2 hmissing]

/-- **A change is refused** exactly for one of the reasons, and then nothing is changed. -/
theorem perform_error_iff {change : Change} {e : CatalogError} :
    catalog.perform change = (.error e, after) ↔ catalog.Refuses change e ∧ after = catalog := by
  rw [perform_eq_error_iff]
  cases change with
  | insert name expression => rw [attempt, insert_refuses_iff]
  | update name newName expression => rw [attempt, update_refuses_iff]
  | remove name => rw [attempt, remove_refuses_iff]

/-! ### Runs of changes -/

/-- **A catalog is a map from names to rules, in the order of insertion.** However a catalog was
changed since it was empty, each further change is made exactly as `Inserts`, `Updates` and
`Removes` say. It fails exactly for the reasons of `Refuses`, and then rules and settings are what
they were. After it names differ, a look-up finds each rule under its name and nothing else, and
every name has the place of its rule. -/
theorem perform_refines_map (settings : Settings) (earlier : List Change) :
    let catalog := ({ settings } : Catalog).performAll earlier
    (∀ name expression rule after,
      catalog.perform (.insert name expression) = (.ok rule, after) ↔
        catalog.Inserts name expression rule after) ∧
    (∀ name newName expression rule after,
      catalog.perform (.update name newName expression) = (.ok rule, after) ↔
        ∃ old, catalog.Updates name newName expression old rule after) ∧
    (∀ name rule after,
      catalog.perform (.remove name) = (.ok rule, after) ↔ catalog.Removes name rule after) ∧
    (∀ change e after,
      catalog.perform change = (.error e, after) ↔ catalog.Refuses change e ∧ after = catalog) ∧
    ∀ change,
      let after := (catalog.perform change).2
      after.names.Nodup ∧
      (∀ name rule, after.get? name = some rule ↔ rule ∈ after.rules ∧ rule.name = name) ∧
      ∀ name ∈ after.names, ∃ index rule, after.indexOf name = .ok index ∧
        after.rules[index]? = some rule ∧ after.get? name = some rule := by
  intro catalog
  have hsound : catalog.IsSound := (isSound_empty settings).performAll earlier
  refine ⟨fun name expression rule after => perform_insert_iff,
    fun name newName expression rule after => perform_update_iff hsound.nodup_names,
    fun name rule after => perform_remove_iff hsound.nodup_names,
    fun change e after => perform_error_iff, fun change => ?_⟩
  have hafter := (hsound.perform change).nodup_names
  exact ⟨hafter, fun name rule => get?_eq_some_iff hafter, fun name hname => exists_indexOf hname⟩

/-- A rule that would get a new name and a blank text is left as it is. With the new name alone it
is found under that name, and no longer under the old one. -/
theorem perform_refines_map_of_half_refused :
    let catalog := ({} : Catalog).performAll [.insert "adult" "age = 'x'"]
    let rule : Rule := ⟨"senior", "age = 'x'", .compare "age" .equal (.text "x")⟩
    let renamed := catalog.perform (.update "adult" (some "senior") none)
    catalog.perform (.update "adult" (some "senior") (some " ")) =
        (.error .emptyExpression, catalog) ∧
      renamed.1 = .ok rule ∧ renamed.2.get? "senior" = some rule ∧
      renamed.2.get? "adult" = none := by
  intro catalog rule renamed
  have hinsert : ({} : Catalog).insert "adult" "age = 'x'" =
      .ok ({ rule with name := "adult" }, { rules := [{ rule with name := "adult" }] }) :=
    insert_ruleText rfl (by decide) (by decide)
      (rule.condition.isEvaluable_eq_true_iff_bareOperands.2 rfl) (by decide) (by decide)
      List.not_mem_nil
  have hcatalog : catalog = { rules := [{ rule with name := "adult" }] } := by
    show Catalog.performAll _ _ = _
    rw [performAll, List.foldl_cons, perform, attempt, hinsert]
    rfl
  have hnames : catalog.names = ["adult"] := by
    rw [hcatalog]
    rfl
  have hrenamed : renamed = (.ok rule, { rules := [rule] }) := by
    show catalog.perform _ = _
    rw [hcatalog]
    rfl
  obtain ⟨-, hupdate, -, hrefused, -⟩ := perform_refines_map {} [.insert "adult" "age = 'x'"]
  obtain ⟨old, hupdated⟩ := (hupdate _ _ _ _ _).1 hrenamed
  have hfree : ∀ new ∈ some "senior", new ≠ "adult" →
      Text.isAllBlank new = false ∧ new ∉ catalog.names := by
    rw [hnames]
    rintro _ ⟨⟩ -
    decide
  refine ⟨(hrefused _ _ _).2 ⟨.updateText ?_ hfree (.blank (by decide)), rfl⟩, ?_, ?_, ?_⟩
  · show "adult" ∈ catalog.names
    rw [hnames]
    exact List.mem_singleton_self "adult"
  · rw [hrenamed]
  · rw [hrenamed, hupdated.get?_eq, if_pos rfl]
  · rw [hrenamed, hupdated.get?_eq, if_neg (by decide), if_pos rfl]

end Catalog

end Eligibility

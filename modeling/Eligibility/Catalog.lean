import Eligibility.Rule
import Eligibility.Settings

/-!
# Catalogs

A catalog keeps rules in the order in which they were inserted; no two have the same name. Its
settings say how rules are read and how several of them are joined to answer a question.

Each change either succeeds and gives a new catalog, or fails with a reason and leaves the catalog
as it was. `perform` applies a change and `performAll` a run of changes.

Main statements: `settings_perform` (no change touches the settings) and `name_of_get?` (what a
look-up finds).
-/

namespace Eligibility

/-- A catalog of named rules. -/
structure Catalog where
  /-- The rules in the order of their insertion. -/
  rules : List Rule := []
  settings : Settings := {}
deriving DecidableEq, Repr

namespace Catalog

/-- The rule of a given name. -/
def get? (catalog : Catalog) (name : String) : Option Rule :=
  catalog.rules.find? fun rule => rule.name == name

/-- The names of the rules. -/
def names (catalog : Catalog) : List String := catalog.rules.map Rule.name

/-- The place of the rule of a given name. -/
def indexOf (catalog : Catalog) (name : String) : Except CatalogError Nat :=
  match catalog.rules.findIdx? fun rule => rule.name == name with
  | some index => .ok index
  | none => .error (.notFound name)

/-- Reads a rule and adds it at the end. -/
def insert (catalog : Catalog) (name expression : String) :
    Except CatalogError (Rule × Catalog) :=
  if (catalog.get? name).isSome then .error (.duplicate name)
  else
    (Rule.create name expression catalog.settings.parseMode).map fun rule =>
      (rule, { catalog with rules := catalog.rules ++ [rule] })

/-- The rule under a new name, which no other rule must have. A rule may keep its name. -/
def renamed (catalog : Catalog) (rule : Rule) : Option String → Except CatalogError Rule
  | none => .ok rule
  | some newName =>
    if newName = rule.name then .ok rule
    else if Text.isAllBlank newName then .error .emptyName
    else if (catalog.get? newName).isSome then .error (.duplicate newName)
    else .ok { rule with name := newName }

/-- The rule with a new text. -/
def reworded (catalog : Catalog) (rule : Rule) : Option String → Except CatalogError Rule
  | none => .ok rule
  | some expression => rule.setExpression expression catalog.settings.parseMode

/-- Gives a rule a new name, a new text or both, at its place. -/
def update (catalog : Catalog) (name : String) (newName expression : Option String) :
    Except CatalogError (Rule × Catalog) :=
  match catalog.rules.find? fun rule => rule.name == name with
  | none => .error (.notFound name)
  | some rule =>
    match catalog.renamed rule newName with
    | .error e => .error e
    | .ok rule =>
      match catalog.reworded rule expression with
      | .error e => .error e
      | .ok rule =>
        (catalog.indexOf name).map fun index =>
          (rule, { catalog with rules := catalog.rules.set index rule })

/-- Takes a rule out. -/
def remove (catalog : Catalog) (name : String) : Except CatalogError (Rule × Catalog) :=
  match catalog.get? name with
  | none => .error (.notFound name)
  | some rule =>
    (catalog.indexOf name).map fun index =>
      (rule, { catalog with rules := catalog.rules.eraseIdx index })

/-! ### Questions -/

/-- The conditions of the named rules, or the first name without a rule. -/
def conditions (catalog : Catalog) : List String → Except CatalogError (List Condition)
  | [] => .ok []
  | name :: rest =>
    match catalog.get? name with
    | none => .error (.notFound name)
    | some rule => (catalog.conditions rest).map (rule.condition :: ·)

/-- The named rules joined in the order given; every name must have a rule. -/
def joined (catalog : Catalog) (connective : Connective) (names : List String) :
    Except CatalogError Condition :=
  match catalog.conditions names with
  | .error e => .error e
  | .ok conditions =>
    match Condition.joinAll? connective conditions with
    | none => .error .noRules
    | some condition => .ok condition

/-- Are the named rules, joined as the settings say, true of a record? -/
def evaluate (catalog : Catalog) (names : List String) (record : Record) :
    Except CatalogError Bool :=
  match catalog.joined catalog.settings.connective names with
  | .error e => .error e
  | .ok condition => (condition.evaluate record).mapError fun e => .rule (.unanswered e)

end Catalog

/-! ### Changes -/

/-- A change of a catalog. -/
inductive Change where
  | insert (name expression : String)
  | update (name : String) (newName expression : Option String)
  | remove (name : String)
deriving DecidableEq, Repr

namespace Catalog

/-- What a change would make of the catalog. -/
def attempt (catalog : Catalog) : Change → Except CatalogError (Rule × Catalog)
  | .insert name expression => catalog.insert name expression
  | .update name newName expression => catalog.update name newName expression
  | .remove name => catalog.remove name

/-- Makes a change: the rule it is about or the reason why it failed, and the catalog afterwards. -/
def perform (catalog : Catalog) (change : Change) : Except CatalogError Rule × Catalog :=
  match catalog.attempt change with
  | .error e => (.error e, catalog)
  | .ok (rule, changed) => (.ok rule, changed)

/-- Makes changes one after the other, whether they succeed or fail. -/
def performAll (catalog : Catalog) (changes : List Change) : Catalog :=
  changes.foldl (fun catalog change => (catalog.perform change).2) catalog

/-- A look-up finds the first rule of the name. -/
theorem name_of_get? {catalog : Catalog} {name : String} {rule : Rule}
    (h : catalog.get? name = some rule) : rule.name = name ∧ rule ∈ catalog.rules :=
  ⟨by simpa using List.find?_some h, List.mem_of_find?_eq_some h⟩

/-- No change touches the settings. -/
theorem settings_perform (catalog : Catalog) (change : Change) :
    (catalog.perform change).2.settings = catalog.settings := by
  have hattempt : ∀ rule changed, catalog.attempt change = .ok (rule, changed) →
      changed.settings = catalog.settings := by
    intro rule changed h
    cases change with
    | insert name expression =>
      simp only [attempt, insert] at h
      split at h
      · simp at h
      · cases hrule : Rule.create name expression catalog.settings.parseMode <;>
          simp [hrule, Except.map] at h
        rw [← h.2]
    | update name newName expression =>
      simp only [attempt, update] at h
      split at h
      · simp at h
      · split at h
        · simp at h
        · split at h
          · simp at h
          · cases hindex : catalog.indexOf name <;> simp [hindex, Except.map] at h
            rw [← h.2]
    | remove name =>
      simp only [attempt, remove] at h
      split at h
      · simp at h
      · cases hindex : catalog.indexOf name <;> simp [hindex, Except.map] at h
        rw [← h.2]
  unfold perform
  split
  · rfl
  · exact hattempt _ _ (by assumption)

end Catalog

end Eligibility

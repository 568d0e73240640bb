import Eligibility.Proofs.CatalogInvariant
import Eligibility.Proofs.JoinedConditions

/-!
# Questions to a catalog

A question names rules and a record. It is answered from the texts that these rules have when it is
asked, whatever they were called and said before.

* **The named rules** (`conditions_of_absent`, `conditions_of_present`): the first name without a
  rule is reported before anything is evaluated; otherwise every name has its rule.
* **One rule** (`Rule.answerFromText`): the answer of a rule alone, with its text read anew. That of
  a sound rule is the meaning of its condition (`Rule.IsSound.answerFromText_eq`).
* **Many rules** (`evaluate_of_present`): the condition that is evaluated is a bracketing of the
  conditions of the named rules. `evaluate_from_texts` draws the conclusions.
-/

namespace Eligibility

/-! ### One rule -/

/-- The answer of a rule alone, with its text read anew. -/
def Rule.answerFromText (rule : Rule) (record : Record) : Except RuleError Bool :=
  match Condition.ofText .lenient rule.expression with
  | .error e => .error e
  | .ok condition => (condition.evaluate record).mapError .unanswered

/-- The answer of a sound rule is the meaning of its condition. -/
theorem Rule.IsSound.answerFromText_eq {mode : ParseMode} {rule : Rule} (h : rule.IsSound mode)
    (record : Record) :
    rule.answerFromText record = (rule.condition.meaning record).mapError .unanswered := by
  unfold answerFromText
  rw [Condition.ofText_lenient h.ofText_expression]
  simp only [Condition.evaluate_eq_meaning]

namespace Catalog

variable {catalog : Catalog} {names : List String}

/-! ### The named rules -/

/-- All names have rules, or there is a first one without. -/
theorem present_or_absent (catalog : Catalog) (names : List String) :
    (∀ name ∈ names, name ∈ catalog.names) ∨
      ∃ front absent back, names = front ++ absent :: back ∧
        (∀ name ∈ front, name ∈ catalog.names) ∧ absent ∉ catalog.names := by
  induction names with
  | nil => exact .inl (List.forall_mem_nil _)
  | cons name rest ih =>
    by_cases hname : name ∈ catalog.names
    · rcases ih with hall | ⟨front, absent, back, rfl, hfront, habsent⟩
      · exact .inl (List.forall_mem_cons.2 ⟨hname, hall⟩)
      · exact .inr ⟨name :: front, absent, back, rfl,
          List.forall_mem_cons.2 ⟨hname, hfront⟩, habsent⟩
    · exact .inr ⟨[], name, rest, rfl, List.forall_mem_nil _, hname⟩

/-- The first name without a rule is reported. -/
theorem conditions_of_absent {front back : List String} {absent : String}
    (hfront : ∀ name ∈ front, name ∈ catalog.names) (habsent : absent ∉ catalog.names) :
    catalog.conditions (front ++ absent :: back) = .error (.notFound absent) := by
  induction front with
  | nil => rw [List.nil_append, conditions, get?_eq_none_iff.2 habsent]
  | cons name front ih =>
    obtain ⟨hname, hfront⟩ := List.forall_mem_cons.1 hfront
    obtain ⟨rule, hrule⟩ := mem_names_iff.1 hname
    rw [List.cons_append, conditions, hrule, ih hfront]
    rfl

/-- When all names have rules, these give the conditions. -/
theorem conditions_of_present (hpresent : ∀ name ∈ names, name ∈ catalog.names) :
    ∃ rules : List Rule, names.map catalog.get? = rules.map some ∧
      catalog.conditions names = .ok (rules.map Rule.condition) := by
  induction names with
  | nil => exact ⟨[], rfl, rfl⟩
  | cons name rest ih =>
    obtain ⟨hname, hrest⟩ := List.forall_mem_cons.1 hpresent
    obtain ⟨rule, hrule⟩ := mem_names_iff.1 hname
    obtain ⟨rules, hrules, hconditions⟩ := ih hrest
    refine ⟨rule :: rules, ?_, ?_⟩
    · rw [List.map_cons, List.map_cons, hrule, hrules]
    · rw [conditions, hrule, hconditions]
      rfl

/-- The rules that names have are those that are found under one of them. -/
theorem mem_iff_of_map_get? {rules : List Rule} (h : names.map catalog.get? = rules.map some)
    (rule : Rule) : rule ∈ rules ↔ ∃ name ∈ names, catalog.get? name = some rule := by
  rw [← List.mem_map_of_injective (fun _ _ => Option.some.inj), ← h, List.mem_map]

/-- The conditions that named rules give are those of rules in the catalog. -/
theorem exists_rule_of_conditions {conditions : List Condition}
    (h : catalog.conditions names = .ok conditions) :
    ∀ c ∈ conditions, ∃ rule ∈ catalog.rules, rule.condition = c := by
  rcases present_or_absent catalog names with hpresent | ⟨front, absent, back, rfl, hfront, habsent⟩
  · obtain ⟨rules, hrules, hconditions⟩ := conditions_of_present hpresent
    obtain rfl : rules.map Rule.condition = conditions := Except.ok.inj (hconditions.symm.trans h)
    rw [List.forall_mem_map]
    intro rule hrule
    obtain ⟨name, -, hfound⟩ := (mem_iff_of_map_get? hrules rule).1 hrule
    exact ⟨rule, (name_of_get? hfound).2, rfl⟩
  · rw [conditions_of_absent hfront habsent] at h
    cases h

/-- Named rules are joined when they are all there and there is one. -/
theorem joined_eq_ok_iff {connective : Connective} {joined : Condition} :
    catalog.joined connective names = .ok joined ↔
      ∃ conditions, catalog.conditions names = .ok conditions ∧
        Condition.joinAll? connective conditions = some joined := by
  unfold Catalog.joined
  rcases catalog.conditions names with e | conditions
  · simp
  · rcases hjoin : Condition.joinAll? connective conditions with _ | c <;> simp [hjoin]

/-- The answer is the value of the join of the named rules. -/
theorem evaluate_eq_ok_iff {record : Record} {value : Bool} :
    catalog.evaluate names record = .ok value ↔
      ∃ joined, catalog.joined catalog.settings.connective names = .ok joined ∧
        joined.evaluate record = .ok value := by
  unfold evaluate
  rcases catalog.joined catalog.settings.connective names with e | joined
  · simp
  · simp [Except.mapError_eq_ok_iff]

/-! ### Many rules -/

/-- **A question to rules that are all there** is one to a bracketing of their conditions. -/
theorem evaluate_of_present (hne : names ≠ []) (hpresent : ∀ name ∈ names, name ∈ catalog.names)
    (record : Record) :
    ∃ (rules : List Rule) (joined : Condition), names.map catalog.get? = rules.map some ∧
      Condition.Bracketing catalog.settings.connective (rules.map Rule.condition) joined ∧
      catalog.evaluate names record =
        (joined.meaning record).mapError fun e => .rule (.unanswered e) := by
  obtain ⟨rules, hrules, hconditions⟩ := conditions_of_present hpresent
  have hsome : rules.map Rule.condition ≠ [] := by
    intro hnil
    rw [List.map_eq_nil_iff.1 hnil] at hrules
    exact hne (List.map_eq_nil_iff.1 hrules)
  obtain ⟨joined, hjoin, hbracketing⟩ :=
    Condition.exists_joinAll? catalog.settings.connective hsome
  refine ⟨rules, joined, hrules, hbracketing, ?_⟩
  unfold evaluate Catalog.joined
  simp only [hconditions, hjoin, Condition.evaluate_eq_meaning]

/-- A name without a rule is reported, whatever is asked about the other names. -/
theorem evaluate_of_absent {front back : List String} {absent : String}
    (hfront : ∀ name ∈ front, name ∈ catalog.names) (habsent : absent ∉ catalog.names)
    (record : Record) :
    catalog.evaluate (front ++ absent :: back) record = .error (.notFound absent) := by
  rw [evaluate, joined, conditions_of_absent hfront habsent]

/-- Where all rules have truth values, no question fails for lack of one. -/
theorem evaluate_ne_rule_of_isEvaluable
    (hrules : ∀ rule ∈ catalog.rules, rule.condition.isEvaluable = true) (names : List String)
    (record : Record) (e : RuleError) : catalog.evaluate names record ≠ .error (.rule e) := by
  intro h
  rcases present_or_absent catalog names with hpresent | ⟨front, absent, back, rfl, hfront, habsent⟩
  · by_cases hne : names = []
    · rw [hne] at h
      cases h
    · obtain ⟨named, joined, hnamed, hjoined, hvalue⟩ := evaluate_of_present hne hpresent record
      have hevaluable : joined.isEvaluable = true := by
        rw [hjoined.isEvaluable_iff, List.forall_mem_map]
        intro rule hrule
        obtain ⟨name, -, hfound⟩ := (mem_iff_of_map_get? hnamed rule).1 hrule
        exact hrules rule (name_of_get? hfound).2
      obtain ⟨value, hmeaning⟩ := (joined.isEvaluable_iff_meaning record).1 hevaluable
      rw [hvalue, hmeaning] at h
      cases h
  · rw [evaluate_of_absent hfront habsent] at h
    cases h

/-- **Order and repetition.** An answer is given to all questions that name the same rules. -/
theorem evaluate_congr {others : List String} {record : Record} {value : Bool}
    (hsame : ∀ name, name ∈ others ↔ name ∈ names)
    (h : catalog.evaluate names record = .ok value) :
    catalog.evaluate others record = .ok value := by
  rcases present_or_absent catalog names with hpresent | ⟨front, absent, back, rfl, hfront, habsent⟩
  · have hne : names ≠ [] := by
      rintro rfl
      cases h
    obtain ⟨name, hname⟩ := List.exists_mem_of_ne_nil names hne
    have hothersNe : others ≠ [] := List.ne_nil_of_mem ((hsame name).2 hname)
    have hothersPresent : ∀ other ∈ others, other ∈ catalog.names := by
      intro other hother
      exact hpresent other ((hsame other).1 hother)
    obtain ⟨rules, joined, hrules, hjoined, hvalue⟩ := evaluate_of_present hne hpresent record
    obtain ⟨otherRules, otherJoined, hotherRules, hotherJoined, hotherValue⟩ :=
      evaluate_of_present hothersNe hothersPresent record
    rw [hvalue, Except.mapError_eq_ok_iff] at h
    have hevaluable : joined.isEvaluable = true :=
      (joined.isEvaluable_iff_meaning record).2 ⟨value, h⟩
    -- the two questions put the same conditions together, in their own orders
    have hconditions : ∀ c, c ∈ otherRules.map Rule.condition ↔ c ∈ rules.map Rule.condition := by
      intro c
      simp only [List.mem_map, mem_iff_of_map_get? hrules, mem_iff_of_map_get? hotherRules, hsame]
    rw [hotherValue, Except.mapError_eq_ok_iff,
      hjoined.meaning_congr hotherJoined hconditions (hjoined.isEvaluable_iff.1 hevaluable), h]
  · rw [evaluate_of_absent hfront habsent] at h
    cases h

section Sound

variable {rules : List Rule} {joined : Condition} {connective : Connective} {record : Record}

/-- The answers of sound rules are the meanings of their conditions. -/
theorem map_answerFromText_eq {mode : ParseMode} (hsound : ∀ rule ∈ rules, rule.IsSound mode)
    (record : Record) :
    rules.map (·.answerFromText record) =
      ((rules.map Rule.condition).map (Condition.meaning record)).map
        (Except.mapError .unanswered) := by
  rw [List.map_map, List.map_map]
  apply List.map_congr_left
  intro rule hrule
  exact (hsound rule hrule).answerFromText_eq record

/-- When all rules have answers, a bracketing of their conditions has the value of these. -/
theorem meaning_of_answers {mode : ParseMode} (hsound : ∀ rule ∈ rules, rule.IsSound mode)
    (hjoined : Condition.Bracketing connective (rules.map Rule.condition) joined)
    {values : List Bool} (hvalues : rules.map (·.answerFromText record) = values.map .ok) :
    joined.meaning record = .ok (connective.applyAll values) := by
  rw [map_answerFromText_eq hsound, Except.map_mapError_eq_map_ok_iff] at hvalues
  rw [hjoined.meaning_eq, hvalues, Connective.verdictAll_map_ok]

/-- The first rule without an answer decides for a bracketing of the conditions. -/
theorem meaning_of_unanswered {mode : ParseMode} (hsound : ∀ rule ∈ rules, rule.IsSound mode)
    (hjoined : Condition.Bracketing connective (rules.map Rule.condition) joined)
    {front back : List Rule} {rule : Rule} {e : RuleError} (hrules : rules = front ++ rule :: back)
    (hfront : ∀ other ∈ front, ∃ value, other.answerFromText record = .ok value)
    (hrule : rule.answerFromText record = .error e) :
    ∃ cause, e = .unanswered cause ∧ joined.meaning record = .error cause := by
  rw [hrules, List.forall_mem_append, List.forall_mem_cons] at hsound
  obtain ⟨hsoundFront, hsoundRule, -⟩ := hsound
  rw [hsoundRule.answerFromText_eq, Except.mapError_eq_error_iff] at hrule
  obtain ⟨cause, hcause, rfl⟩ := hrule
  have hevaluable : ∀ c ∈ front.map Rule.condition, c.isEvaluable = true := by
    rw [List.forall_mem_map]
    intro other hother
    obtain ⟨value, hvalue⟩ := hfront other hother
    rw [(hsoundFront other hother).answerFromText_eq, Except.mapError_eq_ok_iff] at hvalue
    exact (other.condition.isEvaluable_iff_meaning record).2 ⟨value, hvalue⟩
  refine ⟨cause, rfl, ?_⟩
  rw [hjoined.meaning_eq, hrules, List.map_append, List.map_append, List.map_cons, List.map_cons,
    hcause, Condition.map_meaning_eq record hevaluable, Connective.verdictAll_of_error]

end Sound

/-- **Questions are answered from the texts of the rules.** However a catalog was changed since it
was empty, and whatever is asked of it: the first name without a rule is reported, and a question
that names no rule is refused. Otherwise the answer joins the answers that the named rules give from
their texts; when one of these has none, the first such rule says why. In strict mode every rule has
an answer. An answer that is given is given to all questions that name the same rules, in any order
and with any repetitions. -/
theorem evaluate_from_texts (settings : Settings) (changes : List Change) :
    let catalog := ({ settings } : Catalog).performAll changes
    ∀ names record,
      (∀ front absent back, names = front ++ absent :: back →
        (∀ name ∈ front, name ∈ catalog.names) → absent ∉ catalog.names →
          catalog.evaluate names record = .error (.notFound absent)) ∧
      (names = [] → catalog.evaluate names record = .error .noRules) ∧
      (names ≠ [] → (∀ name ∈ names, name ∈ catalog.names) →
        ∃ rules : List Rule, names.map catalog.get? = rules.map some ∧
          (∀ values, rules.map (·.answerFromText record) = values.map .ok →
            catalog.evaluate names record = .ok (settings.connective.applyAll values)) ∧
          ∀ front rule back e, rules = front ++ rule :: back →
            (∀ other ∈ front, ∃ value, other.answerFromText record = .ok value) →
            rule.answerFromText record = .error e →
              ∃ cause, e = .unanswered cause ∧
                catalog.evaluate names record = .error (.rule e)) ∧
      (settings.parseMode = .strict → ∀ e, catalog.evaluate names record ≠ .error (.rule e)) ∧
      ∀ others value, (∀ name, name ∈ others ↔ name ∈ names) →
        catalog.evaluate names record = .ok value → catalog.evaluate others record = .ok value := by
  intro catalog names record
  obtain ⟨hsettings, -, hall⟩ := performAll_sound settings changes
  have hsound : catalog.IsSound := (isSound_empty settings).performAll changes
  refine ⟨?absent, ?none, ?answers, ?strict, fun others value hsame => evaluate_congr hsame⟩
  case absent =>
    rintro front absent back rfl hfront habsent
    exact evaluate_of_absent hfront habsent record
  case none =>
    rintro rfl
    rfl
  case answers =>
    intro hne hpresent
    obtain ⟨rules, joined, hrules, hjoined, hvalue⟩ := evaluate_of_present hne hpresent record
    have hsoundRules : ∀ rule ∈ rules, rule.IsSound catalog.settings.parseMode := by
      intro rule hrule
      obtain ⟨name, -, hfound⟩ := (mem_iff_of_map_get? hrules rule).1 hrule
      exact hsound.isSound_rule rule (name_of_get? hfound).2
    refine ⟨rules, hrules, ?_, ?_⟩
    · intro values hvalues
      rw [hvalue, meaning_of_answers hsoundRules hjoined hvalues, hsettings]
      rfl
    · intro front rule back e hsplit hfront hrule
      obtain ⟨cause, rfl, hcause⟩ :=
        meaning_of_unanswered hsoundRules hjoined hsplit hfront hrule
      rw [hvalue, hcause]
      exact ⟨cause, rfl, rfl⟩
  case strict =>
    intro hstrict
    apply evaluate_ne_rule_of_isEvaluable
    intro rule hrule
    exact (hall rule hrule).2.2 hstrict

/-- A rule that was renamed answers under its new name, also when it is named twice. Under its old
name there is none. -/
theorem evaluate_from_texts_of_renamed :
    let catalog := ({} : Catalog).performAll
      [.insert "grown" "age != 'x'", .update "grown" (some "adult") none]
    let rule : Rule := ⟨"adult", "age != 'x'", .compare "age" .notEqual (.text "x")⟩
    catalog.rules = [rule] ∧ catalog.evaluate ["adult"] [] = .ok true ∧
      catalog.evaluate ["adult", "adult"] [] = .ok true ∧
      catalog.evaluate ["adult", "grown"] [] = .error (.notFound "grown") := by
  intro catalog rule
  have hinsert : ({} : Catalog).insert "grown" "age != 'x'" =
      .ok ({ rule with name := "grown" }, { rules := [{ rule with name := "grown" }] }) :=
    insert_ruleText rfl (by decide) (by decide)
      (rule.condition.isEvaluable_eq_true_iff_bareOperands.2 rfl) (by decide) (by decide)
      List.not_mem_nil
  have hcatalog : catalog = { rules := [rule] } := by
    show Catalog.performAll _ _ = _
    simp only [performAll, List.foldl_cons, perform, attempt, hinsert]
    rfl
  have hsound : catalog.IsSound := (isSound_empty {}).performAll _
  rw [hcatalog] at hsound
  have hanswer : rule.answerFromText [] = .ok true := by
    rw [(hsound.isSound_rule rule (List.mem_singleton_self rule)).answerFromText_eq]
    rfl
  have hquestions := evaluate_from_texts {}
    [.insert "grown" "age != 'x'", .update "grown" (some "adult") none]
  simp only [show ({} : Catalog).performAll _ = { rules := [rule] } from hcatalog] at hquestions
  rw [hcatalog]
  obtain ⟨-, -, hanswers, -, hrepeated⟩ := hquestions ["adult"] []
  obtain ⟨habsent, -⟩ := hquestions ["adult", "grown"] []
  obtain ⟨rules, hrules, hvalues, -⟩ := hanswers (List.cons_ne_nil _ _) (by simp [names, rule])
  obtain rfl : [rule] = rules := (List.map_inj_right fun _ _ => Option.some.inj).1 hrules
  have honce : ({ rules := [rule] } : Catalog).evaluate ["adult"] [] = .ok true :=
    hvalues [true] (by rw [List.map_singleton, hanswer]; rfl)
  refine ⟨rfl, honce, hrepeated _ _ (by simp) honce, ?_⟩
  exact habsent ["adult"] "grown" [] rfl (by simp [names, rule]) (by simp [names, rule])

end Catalog

end Eligibility

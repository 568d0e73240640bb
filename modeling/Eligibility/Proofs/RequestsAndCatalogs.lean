import Eligibility.Proofs.CatalogMap
import Eligibility.Proofs.Requests

/-!
# Requests and catalogs agree

Rule texts can be put into a request, or under names into a catalog that is then asked about all of
these names. Both read the texts in order and join what they read, each in its own way.

* **Insertions in a row** (`Catalog.insertAll_eq_mapM`): under new and different names they are the
  makings of rules in a row. By induction on the entries; what is carried along is that the names
  to come are no names of the catalog.
* **The same rules** (`Catalog.insertAll_eq_ok_iff`, `Request.ofTexts_entries_eq_ok_iff`): both
  succeed for the sound rules with these names and texts, and for no others.
* **The same join** (`Request.joinsAs_insertAll`): hence both give the same condition, and what is
  made of it is the same (`Request.JoinsAs.evaluate_eq_ok_iff`,
  `Request.JoinsAs.combine_eq_ok_iff`).
* **The same answers** (`Request.agrees_with_catalog`): evaluations, joins and complaints about
  texts.
-/

namespace Eligibility

/-! ### Records -/

/-- Is a JSON value neither an array nor an object? -/
def Json.isScalar : Json → Bool
  | .array _ => false
  | .object _ => false
  | _ => true

/-- An object of scalars holds a record. -/
theorem Record.exists_ofMembers {members : Json.Members}
    (h : ∀ member ∈ members, member.2.isScalar = true) :
    ∃ record, Record.ofMembers members = .ok record := by
  induction members with
  | nil => exact ⟨[], rfl⟩
  | cons member members ih =>
    obtain ⟨field, value⟩ := member
    obtain ⟨hscalar, hmembers⟩ := List.forall_mem_cons.1 h
    obtain ⟨record, hrecord⟩ := ih hmembers
    cases value with
    | array => cases hscalar
    | object => cases hscalar
    | _ => exact ⟨_, by rw [ofMembers, Value.ofJson?, hrecord]; rfl⟩

/-! ### Rules with their names and texts -/

/-- The name and the text of a rule. -/
def Rule.entry (rule : Rule) : String × String := (rule.name, rule.expression)

/-- A blank text has no tokens. -/
theorem Condition.ofText_of_isAllBlank {text : String} (h : Text.isAllBlank text = true)
    (mode : ParseMode) : ofText mode text = .error (.ungrammatical .empty) := by
  have htokens : tokenize text = .ok [] :=
    Lexer.tokens_eq_ok_iff.2 ⟨_, .done _, List.all_eq_true.1 h⟩
  rw [ofText, htokens]
  rfl

namespace Rule

/-- A rule is made from a name and a text when it has these and is sound. -/
theorem create_eq_ok_iff_isSound {name expression : String} {mode : ParseMode} {rule : Rule} :
    create name expression mode = .ok rule ↔
      rule.entry = (name, expression) ∧ rule.IsSound mode := by
  rw [create_eq_ok_iff, conditionOf_eq_ok_iff, entry, Prod.mk.injEq]
  constructor
  · rintro ⟨hname, ⟨-, htext⟩, rfl, rfl⟩
    exact ⟨⟨rfl, rfl⟩, hname, htext⟩
  · rintro ⟨⟨rfl, rfl⟩, hname, htext⟩
    refine ⟨hname, ⟨?_, htext⟩, rfl, rfl⟩
    rw [← Bool.not_eq_true]
    intro hblank
    rw [Condition.ofText_of_isAllBlank hblank] at htext
    cases htext

/-- Rules are made from names and texts when they have these and are sound. -/
theorem map_create_eq_iff {entries : List (String × String)} {mode : ParseMode}
    {rules : List Rule} :
    entries.map (fun entry => create entry.1 entry.2 mode) = rules.map .ok ↔
      rules.map entry = entries ∧ ∀ rule ∈ rules, rule.IsSound mode := by
  induction entries generalizing rules with
  | nil => cases rules <;> simp
  | cons entry entries ih =>
    rcases rules with _ | ⟨rule, rules⟩
    · simp
    · simp only [List.map_cons, List.cons.injEq, ih, create_eq_ok_iff_isSound,
        List.forall_mem_cons]
      tauto

/-- A rule is not made when its text cannot be read, and a blank text is refused as such. -/
theorem create_of_unread {name expression : String} {mode : ParseMode} {e : RuleError}
    (hname : Text.isAllBlank name = false) (h : Condition.ofText mode expression = .error e) :
    create name expression mode =
      .error (if Text.isAllBlank expression then .emptyExpression else .rule e) := by
  rw [create, hname, conditionOf, h, if_neg Bool.false_ne_true]
  split <;> rfl

end Rule

/-! ### Insertions in a row -/

namespace Catalog

variable {catalog changed : Catalog} {entries : List (String × String)}

/-- Inserts rules one after the other, up to the first that is refused. -/
def insertAll (catalog : Catalog) : List (String × String) → Except CatalogError Catalog
  | [] => .ok catalog
  | (name, expression) :: rest =>
    match catalog.insert name expression with
    | .error e => .error e
    | .ok (_, changed) => changed.insertAll rest

/-- **Insertions in a row** under new and different names make the rules in a row. -/
theorem insertAll_eq_mapM (hnames : (entries.map Prod.fst).Nodup)
    (hfree : ∀ name ∈ entries.map Prod.fst, name ∉ catalog.names) :
    catalog.insertAll entries =
      (entries.mapM fun entry => Rule.create entry.1 entry.2 catalog.settings.parseMode).map
        fun rules => { catalog with rules := catalog.rules ++ rules } := by
  induction entries generalizing catalog with
  | nil =>
    show _ = Except.ok { catalog with rules := catalog.rules ++ [] }
    rw [List.append_nil, insertAll]
  | cons entry rest ih =>
    obtain ⟨name, expression⟩ := entry
    rw [List.map_cons, List.nodup_cons] at hnames
    obtain ⟨hname, hrest⟩ := List.forall_mem_cons.1 hfree
    have hinsert : catalog.insert name expression =
        (Rule.create name expression catalog.settings.parseMode).map fun rule =>
          (rule, { catalog with rules := catalog.rules ++ [rule] }) := by
      rw [insert, get?_eq_none_iff.2 hname]
      rfl
    rw [insertAll, hinsert, List.mapM_cons]
    rcases hrule : Rule.create name expression catalog.settings.parseMode with e | rule
    · rfl
    have hruleName : rule.name = name := (Rule.create_eq_ok_iff.1 hrule).2.2.1
    -- the names to come are still new, since none of them is the one just taken
    have hstillFree : ∀ other ∈ rest.map Prod.fst,
        other ∉ ({ catalog with rules := catalog.rules ++ [rule] } : Catalog).names := by
      intro other hother
      rw [names, List.map_append, List.map_singleton, hruleName, List.mem_append,
        List.mem_singleton, not_or]
      refine ⟨hrest other hother, ?_⟩
      rintro rfl
      exact hnames.1 hother
    show insertAll _ rest = _
    rw [ih hnames.2 hstillFree]
    simp only [List.append_assoc, List.singleton_append]
    generalize rest.mapM
      (fun entry => Rule.create entry.1 entry.2 catalog.settings.parseMode) = made
    cases made <;> rfl

/-- Entries are inserted when they are the names and texts of sound rules. -/
theorem insertAll_eq_ok_iff (hnames : (entries.map Prod.fst).Nodup)
    (hfree : ∀ name ∈ entries.map Prod.fst, name ∉ catalog.names) :
    catalog.insertAll entries = .ok changed ↔
      ∃ rules : List Rule, rules.map Rule.entry = entries ∧
        (∀ rule ∈ rules, rule.IsSound catalog.settings.parseMode) ∧
        changed = { catalog with rules := catalog.rules ++ rules } := by
  rw [insertAll_eq_mapM hnames hfree, Except.map_eq_ok_iff]
  refine exists_congr fun rules => ?_
  rw [Except.mapM_eq_ok_iff, Rule.map_create_eq_iff, and_assoc, @eq_comm _ changed]

/-- Entries are inserted into a catalog without rules when they are those of sound rules. -/
theorem insertAll_empty_eq_ok_iff (settings : Settings)
    (hnames : (entries.map Prod.fst).Nodup) :
    ({ settings } : Catalog).insertAll entries = .ok changed ↔
      ∃ rules : List Rule, rules.map Rule.entry = entries ∧
        (∀ rule ∈ rules, rule.IsSound settings.parseMode) ∧ changed = { rules, settings } := by
  rw [insertAll_eq_ok_iff hnames fun _ _ => List.not_mem_nil]
  rfl

/-- All rules of a catalog in their order. -/
theorem conditions_names (hnames : catalog.names.Nodup) :
    catalog.conditions catalog.names = .ok (catalog.rules.map Rule.condition) := by
  obtain ⟨rules, hrules, hconditions⟩ := conditions_of_present fun _ (h : _ ∈ catalog.names) => h
  have hfound : catalog.names.map catalog.get? = catalog.rules.map some := by
    rw [names, List.map_map]
    apply List.map_congr_left
    intro rule hrule
    exact (get?_eq_some_iff hnames).2 ⟨hrule, rfl⟩
  obtain rfl : catalog.rules = rules :=
    (List.map_inj_right fun _ _ => Option.some.inj).1 (hfound.symm.trans hrules)
  exact hconditions

/-- All rules of a catalog are joined in their order. -/
theorem joined_entries_eq_ok_iff {rules : List Rule} {settings : Settings}
    {connective : Connective} {condition : Condition} (hnames : (entries.map Prod.fst).Nodup)
    (hentries : rules.map Rule.entry = entries) :
    ({ rules, settings } : Catalog).joined connective (entries.map Prod.fst) = .ok condition ↔
      Condition.joinAll? connective (rules.map Rule.condition) = some condition := by
  subst hentries
  have hsame : (rules.map Rule.entry).map Prod.fst = ({ rules, settings } : Catalog).names :=
    List.map_map
  rw [hsame] at hnames ⊢
  rw [joined_eq_ok_iff, conditions_names hnames]
  simp

/-- Inserted rules, of which there is one, are joined. -/
theorem exists_joined_of_insertAll {settings : Settings} (hnames : (entries.map Prod.fst).Nodup)
    (h : ({ settings } : Catalog).insertAll entries = .ok catalog) (hne : entries ≠ [])
    (connective : Connective) :
    ∃ condition, catalog.joined connective (entries.map Prod.fst) = .ok condition := by
  obtain ⟨rules, hentries, -, rfl⟩ := (insertAll_empty_eq_ok_iff settings hnames).1 h
  have hsome : rules.map Rule.condition ≠ [] := by
    intro hnil
    rw [List.map_eq_nil_iff.1 hnil] at hentries
    exact hne hentries.symm
  obtain ⟨condition, hjoin, -⟩ := Condition.exists_joinAll? connective hsome
  exact ⟨condition, (joined_entries_eq_ok_iff hnames hentries).2 hjoin⟩

/-- The first entry whose text cannot be read is refused, a blank text as such. -/
theorem insertAll_of_unread {front back : List (String × String)} {name text : String}
    {e : RuleError} (hnames : (entries.map Prod.fst).Nodup)
    (hfree : ∀ name ∈ entries.map Prod.fst, name ∉ catalog.names)
    (hblank : ∀ name ∈ entries.map Prod.fst, Text.isAllBlank name = false)
    (hentries : entries = front ++ (name, text) :: back)
    (hfront : ∀ entry ∈ front,
      ∃ c, Condition.ofText catalog.settings.parseMode entry.2 = .ok c)
    (htext : Condition.ofText catalog.settings.parseMode text = .error e) :
    catalog.insertAll entries =
      .error (if Text.isAllBlank text then .emptyExpression else .rule e) := by
  rw [insertAll_eq_mapM hnames hfree, Except.map_eq_error_iff, Except.mapM_eq_error_iff]
  have hname : ∀ entry ∈ front ++ (name, text) :: back, Text.isAllBlank entry.1 = false := by
    intro entry hentry
    rw [← hentries] at hentry
    exact hblank _ (List.mem_map_of_mem hentry)
  refine ⟨front, (name, text), back, hentries, fun entry hentry => ?_, ?_⟩
  · obtain ⟨c, hc⟩ := hfront entry hentry
    refine ⟨⟨entry.1, entry.2, c⟩, Rule.create_eq_ok_iff_isSound.2 ⟨rfl, ?_, hc⟩⟩
    exact hname entry (List.mem_append_left _ hentry)
  · exact Rule.create_of_unread (hname _ (List.mem_append_right _ List.mem_cons_self)) htext

end Catalog

/-! ### The same join -/

namespace Request

variable {entries : List (String × String)} {conditions : List Condition} {mode : ParseMode}

/-- Texts are read when they are those of sound rules, under any names that are not blank. -/
theorem ofTexts_entries_eq_ok_iff
    (hblank : ∀ name ∈ entries.map Prod.fst, Text.isAllBlank name = false) :
    ofTexts mode (entries.map Prod.snd) = .ok conditions ↔
      ∃ rules : List Rule, rules.map Rule.entry = entries ∧
        (∀ rule ∈ rules, rule.IsSound mode) ∧ rules.map Rule.condition = conditions := by
  rw [ofTexts_eq_ok_iff]
  constructor
  · intro h
    induction entries generalizing conditions with
    | nil =>
      obtain rfl : [] = conditions := by simpa using h
      exact ⟨[], rfl, by simp, rfl⟩
    | cons entry entries ih =>
      rcases conditions with _ | ⟨condition, conditions⟩
      · cases h
      obtain ⟨hname, hothers⟩ := List.forall_mem_cons.1 hblank
      obtain ⟨hcondition, hconditions⟩ := List.cons.inj h
      obtain ⟨rules, rfl, hsound, rfl⟩ := ih hothers hconditions
      exact ⟨⟨entry.1, entry.2, condition⟩ :: rules, rfl,
        List.forall_mem_cons.2 ⟨⟨hname, hcondition⟩, hsound⟩, rfl⟩
  · rintro ⟨rules, rfl, hsound, rfl⟩
    rw [List.map_map, List.map_map, List.map_map]
    apply List.map_congr_left
    intro rule hrule
    exact (hsound rule hrule).ofText_expression

/-- An answer is printed as that answer. -/
theorem map_eligibility_eq_ok_iff {answer : Except RequestError Bool} {value : Bool} :
    answer.map eligibility = .ok (eligibility value) ↔ answer = .ok value := by
  rw [Except.map_eq_ok_iff]
  constructor
  · rintro ⟨found, rfl, hsame⟩
    cases hsame
    rfl
  · rintro rfl
    exact ⟨value, rfl, rfl⟩

section Joins

variable {sources : RuleSources} {inserted : Except CatalogError Catalog} {names : List String}

/-- The join of a request is the one that a catalog gives for these names, if there is a catalog. -/
def JoinsAs (sources : RuleSources) (inserted : Except CatalogError Catalog)
    (names : List String) : Prop :=
  ∀ condition, joined sources = .ok condition ↔
    ∃ catalog, inserted = .ok catalog ∧
      catalog.joined catalog.settings.connective names = .ok condition

/-- Evaluations have the same answers. -/
theorem JoinsAs.evaluate_eq_ok_iff (h : JoinsAs sources inserted names) {input : Option String}
    {record : Record} (hrecord : recordOf input = .ok record) {value : Bool} :
    evaluate sources input = .ok value ↔
      ∃ catalog, inserted = .ok catalog ∧ catalog.evaluate names record = .ok value := by
  rw [Request.evaluate_eq_ok_iff]
  constructor
  · rintro ⟨condition, other, hcondition, hother, hvalue⟩
    obtain rfl : record = other := Except.ok.inj (hrecord.symm.trans hother)
    obtain ⟨catalog, hinserted, hjoin⟩ := (h condition).1 hcondition
    exact ⟨catalog, hinserted, Catalog.evaluate_eq_ok_iff.2 ⟨condition, hjoin, hvalue⟩⟩
  · rintro ⟨catalog, hinserted, hanswer⟩
    obtain ⟨condition, hjoin, hvalue⟩ := Catalog.evaluate_eq_ok_iff.1 hanswer
    exact ⟨condition, record, (h condition).2 ⟨catalog, hinserted, hjoin⟩, hrecord, hvalue⟩

/-- Joins have the same canonical forms. -/
theorem JoinsAs.combine_eq_ok_iff (h : JoinsAs sources inserted names) {output : Json} :
    combine sources = .ok output ↔
      ∃ catalog, inserted = .ok catalog ∧
        (catalog.joined catalog.settings.connective names).map Condition.toCanonical =
          .ok output := by
  rw [Request.combine_eq_ok_iff]
  constructor
  · rintro ⟨condition, hcondition, rfl⟩
    obtain ⟨catalog, hinserted, hjoin⟩ := (h condition).1 hcondition
    exact ⟨catalog, hinserted, Except.map_eq_ok_iff.2 ⟨condition, hjoin, rfl⟩⟩
  · rintro ⟨catalog, hinserted, houtput⟩
    obtain ⟨condition, hjoin, rfl⟩ := Except.map_eq_ok_iff.1 houtput
    exact ⟨condition, (h condition).2 ⟨catalog, hinserted, hjoin⟩, rfl⟩

end Joins

section Agreement

variable {settings : Settings} {keyword : String} {strict : Bool}

/-- **The same join.** The texts of a request are joined exactly when they can be inserted under
names, and then to the join that the catalog gives for these names. -/
theorem joinsAs_insertAll (hnames : (entries.map Prod.fst).Nodup)
    (hblank : ∀ name ∈ entries.map Prod.fst, Text.isAllBlank name = false)
    (hkeyword : Connective.ofKeyword keyword = .ok settings.connective)
    (hmode : settings.parseMode = .ofStrict strict) :
    JoinsAs { texts := entries.map Prod.snd, connective := keyword, strict }
      (({ settings } : Catalog).insertAll entries) (entries.map Prod.fst) := by
  intro condition
  rw [joined_eq_ok_iff]
  constructor
  · rintro ⟨connective, fromTexts, fromDocuments, hloads, hjoin⟩
    obtain rfl : settings.connective = connective :=
      Except.ok.inj (hkeyword.symm.trans hloads.ofKeyword_connective)
    obtain rfl : [] = fromDocuments := Except.ok.inj hloads.ofDocuments_documents
    have htexts := hloads.ofTexts_texts
    rw [← hmode, ofTexts_entries_eq_ok_iff hblank] at htexts
    obtain ⟨rules, hentries, hsound, rfl⟩ := htexts
    rw [List.append_nil] at hjoin
    refine ⟨{ rules, settings }, ?_, ?_⟩
    · exact (Catalog.insertAll_empty_eq_ok_iff settings hnames).2 ⟨rules, hentries, hsound, rfl⟩
    · exact (Catalog.joined_entries_eq_ok_iff hnames hentries).2 hjoin
  · rintro ⟨catalog, hinsert, hjoined⟩
    obtain ⟨rules, hentries, hsound, rfl⟩ :=
      (Catalog.insertAll_empty_eq_ok_iff settings hnames).1 hinsert
    have hjoin := (Catalog.joined_entries_eq_ok_iff hnames hentries).1 hjoined
    have hne : rules.map Rule.condition ++ [] ≠ [] := by
      rw [List.append_nil]
      intro hnil
      rw [hnil] at hjoin
      cases hjoin
    refine ⟨settings.connective, rules.map Rule.condition, [], ⟨hkeyword, ?_, rfl, hne⟩, ?_⟩
    · rw [← hmode]
      exact (ofTexts_entries_eq_ok_iff hblank).2 ⟨rules, hentries, hsound, rfl⟩
    · rw [List.append_nil]
      exact hjoin

/-- **Requests and catalogs agree.** Take entries with different names that are not blank, and
settings with the connective and the parse mode of a request for their texts. For an input that
holds an object of scalars, the request is answered exactly as the catalog with these entries is
about all of its names. The request for the join is answered exactly when the entries can be
inserted and there is one, and then with the canonical form of the join of the catalog. The first
text that cannot be read is reported by both for the same reason, but that a blank text has no
tokens for the request and is a blank text for the catalog. -/
theorem agrees_with_catalog (hnames : (entries.map Prod.fst).Nodup)
    (hblank : ∀ name ∈ entries.map Prod.fst, Text.isAllBlank name = false)
    (hkeyword : Connective.ofKeyword keyword = .ok settings.connective)
    (hmode : settings.parseMode = .ofStrict strict) :
    let names := entries.map Prod.fst
    let sources : RuleSources :=
      { texts := entries.map Prod.snd, connective := keyword, strict }
    let inserted := ({ settings } : Catalog).insertAll entries
    (∀ input members, Json.ofText? input = some (.object members) →
      (∀ member ∈ members, member.2.isScalar = true) →
      ∃ record, Record.ofJson (.object members) = .ok record ∧
        ∀ value, (evaluate sources (some input)).map eligibility = .ok (eligibility value) ↔
          ∃ catalog, inserted = .ok catalog ∧ catalog.evaluate names record = .ok value) ∧
    ((∃ output, combine sources = .ok output) ↔
      entries ≠ [] ∧ ∃ catalog, inserted = .ok catalog) ∧
    (∀ output catalog, combine sources = .ok output → inserted = .ok catalog →
      (catalog.joined catalog.settings.connective names).map Condition.toCanonical =
        .ok output) ∧
    ∀ front name text back e, entries = front ++ (name, text) :: back →
      (∀ entry ∈ front, ∃ c, Condition.ofText settings.parseMode entry.2 = .ok c) →
      Condition.ofText settings.parseMode text = .error e →
        combine sources = .error (.rule e) ∧
        (∀ input, evaluate sources input = .error (.rule e)) ∧
        inserted = .error (if Text.isAllBlank text then .emptyExpression else .rule e) ∧
        (Text.isAllBlank text = true → e = .ungrammatical .empty) := by
  intro names sources inserted
  have hjoins : JoinsAs sources inserted names := joinsAs_insertAll hnames hblank hkeyword hmode
  refine ⟨?evaluation, ?join, ?output, ?fault⟩
  case evaluation =>
    intro input members hinput hscalars
    obtain ⟨record, hrecord⟩ := Record.exists_ofMembers hscalars
    have hread : recordOf (some input) = .ok record := by
      rw [recordOf, hinput]
      exact Except.mapError_eq_ok_iff.2 hrecord
    refine ⟨record, hrecord, fun value => ?_⟩
    rw [map_eligibility_eq_ok_iff, hjoins.evaluate_eq_ok_iff hread]
  case join =>
    simp only [hjoins.combine_eq_ok_iff]
    constructor
    · rintro ⟨output, catalog, hinserted, houtput⟩
      refine ⟨?_, catalog, hinserted⟩
      rintro rfl
      cases houtput
    · rintro ⟨hne, catalog, hinserted⟩
      obtain ⟨condition, hjoin⟩ := Catalog.exists_joined_of_insertAll hnames hinserted hne
        catalog.settings.connective
      exact ⟨_, catalog, hinserted, Except.map_eq_ok_iff.2 ⟨condition, hjoin, rfl⟩⟩
  case output =>
    intro output catalog houtput hinserted
    obtain ⟨found, hfound, hjoin⟩ := hjoins.combine_eq_ok_iff.1 houtput
    obtain rfl : found = catalog := Except.ok.inj (hfound.symm.trans hinserted)
    exact hjoin
  case fault =>
    intro front name text back e hentries hfront htext
    have hunread : joined sources = .error (.rule e) := by
      have htexts : sources.texts = front.map Prod.snd ++ text :: back.map Prod.snd := by
        show entries.map Prod.snd = _
        rw [hentries, List.map_append, List.map_cons]
      rw [hmode] at hfront htext
      exact joined_of_unread hkeyword htexts (List.forall_mem_map.2 hfront) htext
    refine ⟨by rw [combine, hunread]; rfl, fun input => by rw [evaluate, hunread], ?_, ?_⟩
    · exact Catalog.insertAll_of_unread hnames (fun _ _ => List.not_mem_nil) hblank hentries
        hfront htext
    · intro hblankText
      rw [Condition.ofText_of_isAllBlank hblankText] at htext
      exact (Except.error.inj htext).symm

end Agreement

/-- Two rules are asked without any fields, and both ways the answer is that the first is true. With
a blank text behind the first one, both ways complain about that text. -/
theorem agrees_with_catalog_of_blank_text :
    let entries := [("grown", "age != 'x'"), ("near", "city = 'y'")]
    let others := [("grown", "age != 'x'"), ("none", " ")]
    (∃ catalog, ({} : Catalog).insertAll entries = .ok catalog ∧
        catalog.evaluate ["grown", "near"] [] = .ok true) ∧
      evaluate { texts := ["age != 'x'", "city = 'y'"], connective := "or" }
        (some (Json.object []).compact) = .ok true ∧
      ({} : Catalog).insertAll others = .error .emptyExpression ∧
      combine { texts := ["age != 'x'", " "], connective := "or" } =
        .error (.rule (.ungrammatical .empty)) := by
  intro entries others
  let grown : Rule := ⟨"grown", "age != 'x'", .compare "age" .notEqual (.text "x")⟩
  let near : Rule := ⟨"near", "city = 'y'", .compare "city" .equal (.text "y")⟩
  have hsound : ∀ rule ∈ [grown, near], rule.IsSound .lenient := by
    have hread : ∀ rule ∈ [grown, near], rule.expression = rule.condition.ruleText ∧
        rule.condition.IsWritable ∧ rule.condition.height ≤ maxNesting := by decide
    intro rule hrule
    obtain ⟨htext, hwritable, hlow⟩ := hread rule hrule
    refine ⟨?_, by rw [htext]; exact Condition.ofText_ruleText_of_height_le hwritable hlow⟩
    revert rule
    decide
  have hkeyword : Connective.ofKeyword "or" = .ok ({} : Settings).connective :=
    Connective.ofKeyword_eq_ok_iff.2 (by decide)
  have hmode : ({} : Settings).parseMode = .ofStrict false := rfl
  have hnames : (entries.map Prod.fst).Nodup := by decide
  have hinserted : ({} : Catalog).insertAll entries = .ok { rules := [grown, near] } :=
    (Catalog.insertAll_empty_eq_ok_iff {} hnames).2 ⟨_, rfl, hsound, rfl⟩
  have hanswer : ({ rules := [grown, near] } : Catalog).evaluate ["grown", "near"] [] =
      .ok true := by
    refine Catalog.evaluate_eq_ok_iff.2 ⟨.join .or grown.condition near.condition, ?_, ?_⟩
    · exact (Catalog.joined_entries_eq_ok_iff hnames rfl).2 rfl
    · rw [Condition.evaluate_eq_meaning]
      rfl
  refine ⟨⟨_, hinserted, hanswer⟩, ?_, ?_⟩
  · obtain ⟨record, hrecord, hevaluation⟩ :=
      (agrees_with_catalog hnames (by decide) hkeyword hmode).1 _ _ Json.ofText?_compact_empty
        (List.forall_mem_nil _)
    obtain rfl : [] = record := Except.ok.inj hrecord
    exact map_eligibility_eq_ok_iff.1 ((hevaluation true).2 ⟨_, hinserted, hanswer⟩)
  · have hothers : (others.map Prod.fst).Nodup := by decide
    obtain ⟨-, -, -, hfault⟩ := agrees_with_catalog hothers (by decide) hkeyword hmode
    obtain ⟨hcombine, -, hrefused, -⟩ := hfault [("grown", "age != 'x'")] "none" " " [] _ rfl
      (List.forall_mem_singleton.2 ⟨_, (hsound grown List.mem_cons_self).ofText_expression⟩)
      (Condition.ofText_of_isAllBlank (by decide) _)
    exact ⟨hrefused, hcombine⟩

end Request

end Eligibility

import Eligibility.Proofs.MadeConditions

/-!
# What requests load and answer

A request reads its texts, then its documents, and joins all of them. `Request.Loads` says what has
been read when that succeeds, and every answer is one about the join of what was loaded.

* **Loading** (`Request.ofTexts_eq_mapM`, `Request.joined_eq_ok_iff`): texts and documents are read
  one by one, and the first that cannot be read is reported (`Request.joined_of_unread`).
* **Answers** (`Request.combine_eq_ok_iff`, `Request.evaluate_eq_ok_iff`): the canonical form of the
  join, or its value for the record in the input.
* **Strict requests** (`Request.strict_covers_texts`): only texts are read strictly. A document that
  holds a bare operand is loaded all the same, and then the join is not evaluable.
-/

namespace Eligibility

/-- What a text is refused for is no lack of an answer. -/
theorem Condition.ofText_ne_unanswered {mode : ParseMode} (text : String) (e : EvaluationError) :
    ofText mode text ≠ .error (.unanswered e) := by
  intro h
  rw [ofText] at h
  split at h
  · cases h
  · obtain ⟨cause, -, hsame⟩ := Except.mapError_eq_error_iff.1 h
    cases hsame

/-- An object without members is read back. -/
theorem Json.ofText?_compact_empty : ofText? (object []).compact = some (object []) := by
  have hordered : (object []).IsOrdered := ⟨List.Pairwise.nil, trivial⟩
  rw [ofText?_compact hordered]
  rfl

namespace Request

variable {sources : RuleSources} {mode : ParseMode} {connective : Connective}
  {fromTexts fromDocuments : List Condition} {condition : Condition}

/-! ### Loading -/

/-- Texts are read one by one. -/
theorem ofTexts_eq_mapM (mode : ParseMode) (texts : List String) :
    ofTexts mode texts =
      texts.mapM fun text => (Condition.ofText mode text).mapError RequestError.rule := by
  induction texts with
  | nil => rfl
  | cons text rest ih =>
    rw [ofTexts, List.mapM_cons, ← ih]
    rcases Condition.ofText mode text with e | c
    · rfl
    · cases ofTexts mode rest <;> rfl

/-- Documents are read one by one. -/
theorem ofDocuments_eq_mapM (documents : List String) :
    ofDocuments documents = documents.mapM ofDocument := by
  induction documents with
  | nil => rfl
  | cons document rest ih =>
    rw [ofDocuments, List.mapM_cons, ← ih]
    rcases ofDocument document with e | c
    · rfl
    · cases ofDocuments rest <;> rfl

/-- The texts of a request give conditions when each of them gives its own. -/
theorem ofTexts_eq_ok_iff {texts : List String} {conditions : List Condition} :
    ofTexts mode texts = .ok conditions ↔
      texts.map (Condition.ofText mode) = conditions.map .ok := by
  have hmap : texts.map (fun text => (Condition.ofText mode text).mapError RequestError.rule) =
      (texts.map (Condition.ofText mode)).map (Except.mapError RequestError.rule) := by
    rw [List.map_map]
    rfl
  rw [ofTexts_eq_mapM, Except.mapM_eq_ok_iff, hmap, Except.map_mapError_eq_map_ok_iff]

/-- The documents of a request give conditions when each of them gives its own. -/
theorem ofDocuments_eq_ok_iff {documents : List String} {conditions : List Condition} :
    ofDocuments documents = .ok conditions ↔ documents.map ofDocument = conditions.map .ok := by
  rw [ofDocuments_eq_mapM, Except.mapM_eq_ok_iff]

/-- A request names this connective, and these conditions are read from its texts and from its
documents; there is at least one. -/
structure Loads (sources : RuleSources) (connective : Connective)
    (fromTexts fromDocuments : List Condition) : Prop where
  ofKeyword_connective : Connective.ofKeyword sources.connective = .ok connective
  ofTexts_texts : ofTexts (.ofStrict sources.strict) sources.texts = .ok fromTexts
  ofDocuments_documents : ofDocuments sources.documents = .ok fromDocuments
  ne_nil : fromTexts ++ fromDocuments ≠ []

/-- The conditions of a request are those of its texts and those of its documents. -/
theorem conditions_eq_ok_iff {conditions : List Condition} :
    Request.conditions sources = .ok conditions ↔
      ∃ fromTexts fromDocuments, ofTexts (.ofStrict sources.strict) sources.texts = .ok fromTexts ∧
        ofDocuments sources.documents = .ok fromDocuments ∧ fromTexts ++ fromDocuments ≠ [] ∧
        conditions = fromTexts ++ fromDocuments := by
  constructor
  · intro h
    rw [Request.conditions] at h
    split at h
    · cases h
    rename_i fromTexts htexts
    split at h
    · cases h
    rename_i fromDocuments hdocuments
    split at h
    · cases h
    rename_i hne
    cases h
    exact ⟨fromTexts, fromDocuments, htexts, hdocuments, mt List.isEmpty_iff.2 hne, rfl⟩
  · rintro ⟨fromTexts, fromDocuments, htexts, hdocuments, hne, rfl⟩
    rw [Request.conditions, htexts, hdocuments]
    simp only [List.isEmpty_iff, hne, if_false]

/-- The rules of a request are joined when they are loaded. -/
theorem joined_eq_ok_iff :
    joined sources = .ok condition ↔
      ∃ connective fromTexts fromDocuments, Loads sources connective fromTexts fromDocuments ∧
        Condition.joinAll? connective (fromTexts ++ fromDocuments) = some condition := by
  constructor
  · intro h
    rw [joined] at h
    split at h
    · cases h
    rename_i connective hconnective
    split at h
    · cases h
    rename_i conditions hconditions
    split at h
    · cases h
    rename_i found hjoin
    cases h
    obtain ⟨fromTexts, fromDocuments, htexts, hdocuments, hne, rfl⟩ :=
      conditions_eq_ok_iff.1 hconditions
    exact ⟨connective, fromTexts, fromDocuments, ⟨hconnective, htexts, hdocuments, hne⟩, hjoin⟩
  · rintro ⟨connective, fromTexts, fromDocuments, hloads, hjoin⟩
    have hconditions : conditions sources = .ok (fromTexts ++ fromDocuments) :=
      conditions_eq_ok_iff.2 ⟨fromTexts, fromDocuments, hloads.ofTexts_texts,
        hloads.ofDocuments_documents, hloads.ne_nil, rfl⟩
    rw [joined, hloads.ofKeyword_connective, hconditions]
    simp only [hjoin]

/-- The first text that cannot be read is reported, whatever the documents are. -/
theorem joined_of_unread {front back : List String} {text : String} {e : RuleError}
    (hkeyword : Connective.ofKeyword sources.connective = .ok connective)
    (htexts : sources.texts = front ++ text :: back)
    (hfront : ∀ other ∈ front, ∃ c, Condition.ofText (.ofStrict sources.strict) other = .ok c)
    (htext : Condition.ofText (.ofStrict sources.strict) text = .error e) :
    joined sources = .error (.rule e) := by
  have hread : ofTexts (.ofStrict sources.strict) sources.texts = .error (.rule e) := by
    rw [ofTexts_eq_mapM, Except.mapM_eq_error_iff]
    refine ⟨front, text, back, htexts, fun other hother => ?_, by rw [htext]; rfl⟩
    obtain ⟨c, hc⟩ := hfront other hother
    exact ⟨c, Except.mapError_eq_ok_iff.2 hc⟩
  rw [joined, hkeyword, conditions, hread]

/-- Loaded conditions can be made. -/
theorem Loads.made (h : Loads sources connective fromTexts fromDocuments) :
    ∀ c ∈ fromTexts ++ fromDocuments, c.Made true := by
  rw [List.forall_mem_append]
  constructor
  · intro c hc
    obtain ⟨text, -, htext⟩ :=
      Except.exists_of_map_eq_map_ok (ofTexts_eq_ok_iff.1 h.ofTexts_texts) c hc
    exact .ofText htext
  · intro c hc
    obtain ⟨document, -, hdocument⟩ :=
      Except.exists_of_map_eq_map_ok (ofDocuments_eq_ok_iff.1 h.ofDocuments_documents) c hc
    obtain ⟨value, -, hvalue⟩ := ofDocument_eq_ok_iff.1 hdocument
    exact .ofCanonical rfl hvalue

/-! ### Answers -/

/-- The answer to a request for the join is its canonical form, and is read back as the join. -/
theorem combine_eq_ok_iff {output : Json} :
    combine sources = .ok output ↔
      ∃ condition, joined sources = .ok condition ∧ output = condition.toCanonical := by
  rw [combine, Except.map_eq_ok_iff]
  simp only [eq_comm]

/-- The answer to an evaluation is the value of the join for the record in the input. -/
theorem evaluate_eq_ok_iff {input : Option String} {value : Bool} :
    evaluate sources input = .ok value ↔
      ∃ condition record, joined sources = .ok condition ∧ recordOf input = .ok record ∧
        condition.evaluate record = .ok value := by
  unfold evaluate
  rcases joined sources with e | condition
  · simp
  rcases recordOf input with e | record
  · simp
  · simp [Except.mapError_eq_ok_iff]

/-- The join of what was loaded is read back from its canonical form. -/
theorem ofCanonical_of_joined (h : joined sources = .ok condition) :
    Condition.ofCanonical condition.toCanonical = .ok condition := by
  obtain ⟨connective, fromTexts, fromDocuments, hloads, hjoin⟩ := joined_eq_ok_iff.1 h
  exact Condition.ofCanonical_toCanonical
    (Condition.made_true_iff.1 (.joinAll hloads.made hjoin))

/-! ### Strict requests -/

/-- No reading of rules complains about a bare operand as an evaluation does. -/
theorem conditions_ne_bareOperand (sources : RuleSources) (operand : Operand) :
    conditions sources ≠ .error (.rule (.unanswered (.bareOperand operand))) := by
  intro h
  rw [conditions] at h
  split at h
  · rename_i e htexts
    cases h
    rw [ofTexts_eq_mapM] at htexts
    obtain ⟨-, text, -, -, -, htext⟩ := Except.mapM_eq_error_iff.1 htexts
    obtain ⟨cause, hcause, hsame⟩ := Except.mapError_eq_error_iff.1 htext
    obtain rfl : cause = .unanswered (.bareOperand operand) := RequestError.rule.inj hsame
    exact Condition.ofText_ne_unanswered text _ hcause
  split at h
  · rename_i e hdocuments
    cases h
    rw [ofDocuments_eq_mapM] at hdocuments
    obtain ⟨-, document, -, -, -, hdocument⟩ := Except.mapM_eq_error_iff.1 hdocuments
    rw [ofDocument] at hdocument
    split at hdocument
    · cases hdocument
    · obtain ⟨cause, -, hsame⟩ := Except.mapError_eq_error_iff.1 hdocument
      cases hsame
  · split at h <;> cases h

/-- Joining conditions answers no question, so it meets no bare operand. -/
theorem joined_ne_bareOperand (sources : RuleSources) (operand : Operand) :
    joined sources ≠ .error (.rule (.unanswered (.bareOperand operand))) := by
  intro h
  rw [joined] at h
  split at h
  · cases h
  split at h
  · rename_i e hconditions
    cases h
    exact conditions_ne_bareOperand sources operand hconditions
  · split at h <;> cases h

/-- An input that holds no record is no fault of a rule. -/
theorem recordOf_ne_rule (input : Option String) (e : RuleError) :
    recordOf input ≠ .error (.rule e) := by
  intro h
  unfold recordOf at h
  split at h
  · cases h
  split at h
  · cases h
  · obtain ⟨cause, -, hsame⟩ := Except.mapError_eq_error_iff.1 h
    cases hsame

/-- An evaluation complains about a bare operand when the record is read and the join has one; the
first one is reported. -/
theorem evaluate_eq_bareOperand_iff {input : Option String} {operand : Operand} :
    evaluate sources input = .error (.rule (.unanswered (.bareOperand operand))) ↔
      ∃ condition record, joined sources = .ok condition ∧ recordOf input = .ok record ∧
        condition.bareOperands.head? = some operand := by
  constructor
  · intro h
    rw [evaluate] at h
    split at h
    · rename_i e hjoined
      cases h
      exact absurd hjoined (joined_ne_bareOperand sources operand)
    rename_i condition hjoined
    split at h
    · rename_i e hrecord
      cases h
      exact absurd hrecord (recordOf_ne_rule input _)
    rename_i record hrecord
    obtain ⟨cause, hcause, hsame⟩ := Except.mapError_eq_error_iff.1 h
    cases hsame
    rw [Condition.evaluate_eq_meaning, Condition.meaning_eq_bareOperand_iff] at hcause
    exact ⟨condition, record, hjoined, hrecord, hcause⟩
  · rintro ⟨condition, record, hjoined, hrecord, hhead⟩
    rw [evaluate, hjoined, hrecord]
    simp only [Condition.evaluate_eq_meaning, Condition.meaning_of_head?_bareOperands record hhead]
    rfl

/-- The bare operands of a strict request are those of its documents. -/
theorem Loads.bareOperands_eq (h : Loads sources connective fromTexts fromDocuments)
    (hstrict : sources.strict = true)
    (hjoin : Condition.joinAll? connective (fromTexts ++ fromDocuments) = some condition) :
    condition.bareOperands = fromDocuments.flatMap Condition.bareOperands := by
  have htexts := ofTexts_eq_ok_iff.1 h.ofTexts_texts
  have hnone : fromTexts.flatMap Condition.bareOperands = [] := by
    rw [List.flatMap_eq_nil_iff]
    intro c hc
    obtain ⟨text, -, htext⟩ := Except.exists_of_map_eq_map_ok htexts c hc
    rw [hstrict] at htext
    exact c.isEvaluable_eq_true_iff_bareOperands.1 (Condition.isEvaluable_of_ofText_strict htext)
  rw [(Condition.bracketing_of_joinAll? hjoin).bareOperands_eq, List.flatMap_append, hnone,
    List.nil_append]

/-- **What a strict request promises.** Texts are read strictly and documents are not. The answer of
a strict request for the join is the canonical form of a condition that is evaluable exactly when
the conditions of all documents are. An evaluation complains about a bare operand exactly when the
rules are loaded, the record is read and some document holds a bare operand; the first one is
reported. -/
theorem strict_covers_texts (hstrict : sources.strict = true) :
    (∀ output, combine sources = .ok output →
      ∃ fromDocuments condition, ofDocuments sources.documents = .ok fromDocuments ∧
        Condition.ofCanonical output = .ok condition ∧
        (condition.isEvaluable = true ↔ ∀ c ∈ fromDocuments, c.isEvaluable = true)) ∧
    ∀ input operand,
      evaluate sources input = .error (.rule (.unanswered (.bareOperand operand))) ↔
        ∃ connective fromTexts fromDocuments record,
          Loads sources connective fromTexts fromDocuments ∧ recordOf input = .ok record ∧
          (fromDocuments.flatMap Condition.bareOperands).head? = some operand := by
  constructor
  · intro output houtput
    obtain ⟨condition, hjoined, rfl⟩ := combine_eq_ok_iff.1 houtput
    obtain ⟨connective, fromTexts, fromDocuments, hloads, hjoin⟩ := joined_eq_ok_iff.1 hjoined
    refine ⟨fromDocuments, condition, hloads.ofDocuments_documents,
      ofCanonical_of_joined hjoined, ?_⟩
    simp only [Condition.isEvaluable_eq_true_iff_bareOperands,
      hloads.bareOperands_eq hstrict hjoin, List.flatMap_eq_nil_iff]
  · intro input operand
    rw [evaluate_eq_bareOperand_iff]
    constructor
    · rintro ⟨condition, record, hjoined, hrecord, hhead⟩
      obtain ⟨connective, fromTexts, fromDocuments, hloads, hjoin⟩ := joined_eq_ok_iff.1 hjoined
      rw [hloads.bareOperands_eq hstrict hjoin] at hhead
      exact ⟨connective, fromTexts, fromDocuments, record, hloads, hrecord, hhead⟩
    · rintro ⟨connective, fromTexts, fromDocuments, record, hloads, hrecord, hhead⟩
      obtain ⟨condition, hjoin, -⟩ := Condition.exists_joinAll? connective hloads.ne_nil
      rw [← hloads.bareOperands_eq hstrict hjoin] at hhead
      exact ⟨condition, record, joined_eq_ok_iff.2 ⟨_, _, _, hloads, hjoin⟩, hrecord, hhead⟩

/-- The answer to a strict request for the join of a text and a document, both of them comparisons,
is read as a condition that is evaluable. -/
theorem strict_covers_texts_of_comparisons :
    let near : Condition := .compare "city" .equal (.text "y")
    let sources : RuleSources :=
      { texts := ["age = 'x'"], documents := [near.toCanonical.compact], connective := "and",
        strict := true }
    ∃ output condition, combine sources = .ok output ∧
      Condition.ofCanonical output = .ok condition ∧ condition.isEvaluable = true := by
  intro near sources
  let grown : Condition := .compare "age" .equal (.text "x")
  have hgrown : grown.isEvaluable = true := grown.isEvaluable_eq_true_iff_bareOperands.2 rfl
  have hnear : near.isEvaluable = true := near.isEvaluable_eq_true_iff_bareOperands.2 rfl
  have htext : Condition.ofText .strict "age = 'x'" = .ok grown := by
    have hlenient : Condition.ofText .lenient grown.ruleText = .ok grown :=
      Condition.ofText_ruleText_of_height_le (by decide) (by decide)
    exact Condition.ofText_strict_of_isEvaluable hlenient hgrown
  have hdocument : ofDocument near.toCanonical.compact = .ok near :=
    ofDocument_of_isStorable (by decide) (by decide)
  have hloads : Loads sources .and [grown] [near] :=
    ⟨Connective.ofKeyword_eq_ok_iff.2 (by decide),
      ofTexts_eq_ok_iff.2 (congrArg (fun result => [result]) htext),
      ofDocuments_eq_ok_iff.2 (congrArg (fun result => [result]) hdocument),
      List.cons_ne_nil _ _⟩
  have hcombine : combine sources = .ok (Condition.join .and grown near).toCanonical :=
    combine_eq_ok_iff.2 ⟨_, joined_eq_ok_iff.2 ⟨_, _, _, hloads, rfl⟩, rfl⟩
  obtain ⟨fromDocuments, condition, hdocuments, hread, hevaluable⟩ :=
    (strict_covers_texts (rfl : sources.strict = true)).1 _ hcombine
  obtain rfl : [near] = fromDocuments :=
    Except.ok.inj (hloads.ofDocuments_documents.symm.trans hdocuments)
  exact ⟨_, condition, hcombine, hread, hevaluable.2 (List.forall_mem_singleton.2 hnear)⟩

/-- A strict request whose only document is a bare name is answered with that name, which is not
evaluable, and an evaluation gets as far as complaining about it. -/
theorem strict_does_not_cover_documents :
    let bare : Condition := .name "vip"
    let sources : RuleSources :=
      { documents := [bare.toCanonical.compact], connective := "OR", strict := true }
    combine sources = .ok bare.toCanonical ∧ Condition.ofCanonical bare.toCanonical = .ok bare ∧
      bare.isEvaluable = false ∧
      evaluate sources (some (Json.object []).compact) =
        .error (.rule (.unanswered (.bareOperand (.name "vip")))) := by
  intro bare sources
  have hstorable : bare.IsStorable := by decide
  have hdocument : ofDocument bare.toCanonical.compact = .ok bare :=
    ofDocument_of_isStorable hstorable (by decide)
  have hloads : Loads sources .or [] [bare] :=
    ⟨Connective.ofKeyword_keyword .or, rfl,
      ofDocuments_eq_ok_iff.2 (congrArg (fun result => [result]) hdocument),
      List.cons_ne_nil _ _⟩
  have hjoined : joined sources = .ok bare := joined_eq_ok_iff.2 ⟨_, _, _, hloads, rfl⟩
  have hrecord : recordOf (some (Json.object []).compact) = .ok [] := by
    rw [recordOf, Json.ofText?_compact_empty]
    rfl
  refine ⟨combine_eq_ok_iff.2 ⟨_, hjoined, rfl⟩, Condition.ofCanonical_toCanonical hstorable,
    ?_, evaluate_eq_bareOperand_iff.2 ⟨_, _, hjoined, hrecord, rfl⟩⟩
  rw [← Bool.not_eq_true, Condition.isEvaluable_eq_true_iff_bareOperands]
  exact List.cons_ne_nil _ _

end Request

end Eligibility

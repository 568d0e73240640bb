import Eligibility.Command.Request
import Eligibility.Proofs.CanonicalForm
import Eligibility.Proofs.JsonText
import Eligibility.Proofs.RuleText

/-!
# Conditions stored as JSON text

The canonical form of a condition is an object of strings, numbers and objects, with the members in
the order of their names. The text of the form is hence read back unless it is too deep, and it is
as deep as the condition is high, with two objects more for the leaf at the bottom.

* **The canonical form as a document** (`isOrdered_toCanonical`, `depth_toCanonical`,
  `ofText?_toCanonical`): when the text of the form is read back.
* **Requests** (`Request.evaluate_eq_of_conditions`): a rule given as a text and a rule given as a
  document are treated alike.
* **Conditions that are plain** (`isWritable_iff`): what a condition that can be stored may lack to
  be written as rule text.
* **Writing and reading** (`stored_text_read_back`, `ruleText_of_document`): what is read from rule
  text and stored, and what is read from a document and written as rule text.
-/

namespace Eligibility

/-! ### The canonical form as a document -/

/-- A literal has no members that could be out of order. -/
theorem Literal.isOrdered_toJson (literal : Literal) : literal.toJson.IsOrdered := by
  cases literal with
  | number x =>
    rw [toJson, Json.ofBinary64]
    split <;> trivial
  | text s => trivial

/-- A literal opens no bracket. -/
theorem Literal.depth_toJson (literal : Literal) : literal.toJson.depth = 0 := by
  cases literal with
  | number x =>
    rw [toJson, Json.ofBinary64]
    split <;> rfl
  | text s => rfl

/-- The members of a leaf are written in the order of their names. -/
theorem Leaf.isOrdered_canonicalMembers (leaf : Leaf) :
    (Json.object leaf.canonicalMembers).IsOrdered := by
  rcases leaf with c | (text | value)
  · refine ⟨?_, trivial, trivial, c.literal.isOrdered_toJson, trivial⟩
    show ["field", "op", "value"].Pairwise Json.Follows
    decide
  · exact ⟨List.pairwise_singleton _ _, trivial, trivial⟩
  · exact ⟨List.pairwise_singleton _ _, value.isOrdered_toJson, trivial⟩

/-- The members of a leaf hold no arrays and no objects. -/
theorem Leaf.depth_canonicalMembers (leaf : Leaf) :
    (Json.object leaf.canonicalMembers).depth = 1 := by
  rcases leaf with c | (text | value)
  · simp [canonicalMembers, Json.depth, Json.membersDepth, c.literal.depth_toJson]
  · rfl
  · simp [canonicalMembers, Json.depth, Json.membersDepth, value.depth_toJson]

namespace Condition

/-- The members of a canonical form stand in the order of their names. -/
theorem isOrdered_toCanonical (condition : Condition) : condition.toCanonical.IsOrdered := by
  induction condition with
  | leaf leaf =>
    refine ⟨?_, leaf.isOrdered_canonicalMembers, trivial, trivial⟩
    show ["operand", "type"].Pairwise Json.Follows
    decide
  | join connective left right ihl ihr =>
    refine ⟨?_, ihl, trivial, ihr, trivial, trivial⟩
    show ["left", "operator", "right", "type"].Pairwise Json.Follows
    decide

/-- A canonical form is two objects deeper than the condition is high. -/
theorem depth_toCanonical (condition : Condition) :
    condition.toCanonical.depth = condition.height + 2 := by
  induction condition with
  | leaf leaf =>
    have hdepth := leaf.depth_canonicalMembers
    simp only [toCanonical, Json.depth, Json.membersDepth, height] at hdepth ⊢
    omega
  | join connective left right ihl ihr =>
    simp only [toCanonical, Json.depth, Json.membersDepth, height, ihl, ihr]
    omega

/-- **When a stored condition is read back.** The text of a canonical form is read as that form when
it is not too deep, and is no document at all when it is. -/
theorem ofText?_toCanonical (condition : Condition) :
    Json.ofText? condition.toCanonical.compact =
      if condition.height + 2 ≤ Json.maxDepth then some condition.toCanonical else none := by
  rw [Json.ofText?_compact condition.isOrdered_toCanonical, condition.depth_toCanonical]

/-- The text of the canonical form is a document of the condition, when the condition can be stored
and the document is not too deep. -/
theorem document_of_isStorable {condition : Condition} (h : condition.IsStorable)
    (hlow : condition.height + 2 ≤ Json.maxDepth) :
    Json.ofText? condition.toCanonical.compact = some condition.toCanonical ∧
      ofCanonical condition.toCanonical = .ok condition := by
  refine ⟨?_, ofCanonical_toCanonical h⟩
  rw [ofText?_toCanonical, if_pos hlow]

/-- A condition that is read from a JSON value is two objects less high than the value is deep, at
least. -/
theorem height_add_two_le_depth {value : Json} {condition : Condition}
    (h : ofCanonical value = .ok condition) : condition.height + 2 ≤ value.depth := by
  have hdepth : ∀ {members : Json.Members} {name : String} {part : Json},
      Json.member? members name = some part → part.depth + 1 ≤ (Json.object members).depth := by
    intro members name part hpart
    have hbound := Json.membersDepth_le_iff.1 (Nat.le_refl (Json.membersDepth members))
    exact Nat.succ_le_succ (hbound _ (Json.mem_of_member? hpart))
  induction condition generalizing value with
  | leaf leaf =>
    obtain ⟨members, operand, rfl, -, hoperand, -⟩ := ofCanonical_eq_leaf_iff.1 h
    calc (Condition.leaf leaf).height + 2 ≤ (Json.object operand).depth + 1 :=
          Nat.succ_le_succ (Nat.succ_le_succ (Nat.zero_le _))
      _ ≤ (Json.object members).depth := hdepth hoperand
  | join connective left right ihl ihr =>
    obtain ⟨members, operator, first, second, rfl, -, -, -, hfirst, hl, hsecond, hr⟩ :=
      ofCanonical_eq_join_iff.1 h
    have hleft := Nat.le_trans (Nat.succ_le_succ (ihl hl)) (hdepth hfirst)
    have hright := Nat.le_trans (Nat.succ_le_succ (ihr hr)) (hdepth hsecond)
    rw [height]
    omega

end Condition

/-! ### Plain conditions -/

/-- A text that is the keyword of no connective, in any case. -/
def IsNoKeyword (text : String) : Prop :=
  ∀ connective : Connective, Text.upperCase text ≠ connective.keyword

/-- A number without a minus sign, or a text. -/
def Literal.IsUnsigned : Literal → Prop
  | .number x => x.isNegative = false
  | .text _ => True

/-- A leaf whose name is no keyword, and whose number has no minus sign. -/
def Leaf.IsPlain : Leaf → Prop
  | .comparison c => IsNoKeyword c.field ∧ c.literal.IsUnsigned
  | .operand (.name text) => IsNoKeyword text
  | .operand (.literal value) => value.IsUnsigned

/-- A literal that can be written can be stored and has no sign. -/
theorem Literal.isWritable_iff {literal : Literal} :
    literal.IsWritable ↔ literal.IsStorable ∧ literal.IsUnsigned := by
  cases literal with
  | number x => exact Iff.rfl
  | text s => exact ⟨fun h => ⟨h, trivial⟩, And.left⟩

/-- A leaf can be written when it can be stored and is plain. -/
theorem Leaf.isWritable_iff {leaf : Leaf} : leaf.IsWritable ↔ leaf.IsStorable ∧ leaf.IsPlain := by
  rcases leaf with c | (text | value)
  · show IsFreeName c.field ∧ c.literal.IsWritable ↔ _
    rw [Literal.isWritable_iff]
    exact and_and_and_comm
  · exact Iff.rfl
  · exact Literal.isWritable_iff

/-- A condition that can be written can be stored, and its leaves are plain. -/
theorem Condition.isWritable_iff {condition : Condition} :
    condition.IsWritable ↔ condition.IsStorable ∧ ∀ leaf ∈ condition.leaves, leaf.IsPlain := by
  simp only [IsWritable, IsStorable, Leaf.isWritable_iff, forall_and]

/-! ### Requests -/

namespace Request

/-- An answer depends on the conditions of a request and on its connective, and on nothing else. -/
theorem evaluate_eq_of_conditions {sources others : RuleSources}
    (h : conditions sources = conditions others)
    (hconnective : sources.connective = others.connective) (input : Option String) :
    evaluate sources input = evaluate others input := by
  rw [evaluate, evaluate, joined, joined, h, hconnective]

/-- A request with one text is about its condition. -/
theorem conditions_of_text {text : String} {condition : Condition}
    (h : Condition.ofText .lenient text = .ok condition) (connective : String) :
    conditions { texts := [text], connective } = .ok [condition] := by
  have htexts : ofTexts (.ofStrict false) [text] = .ok [condition] := by
    show ofTexts .lenient [text] = _
    rw [ofTexts, h]
    rfl
  rw [conditions, htexts]
  rfl

/-- A single rule given as a text is evaluated as it is. -/
theorem evaluate_of_text {text name : String} {condition : Condition} {connective : Connective}
    {input : Option String} {record : Record} (hname : Connective.ofKeyword name = .ok connective)
    (h : Condition.ofText .lenient text = .ok condition) (hrecord : recordOf input = .ok record) :
    evaluate { texts := [text], connective := name } input =
      (condition.evaluate record).mapError fun e => .rule (.unanswered e) := by
  have hjoined : joined { texts := [text], connective := name } = .ok condition := by
    rw [joined]
    simp only [hname, conditions_of_text h]
    rfl
  rw [evaluate, hjoined, hrecord]

/-- A document gives a condition when it is JSON that holds one. -/
theorem ofDocument_eq_ok_iff {document : String} {condition : Condition} :
    ofDocument document = .ok condition ↔
      ∃ value, Json.ofText? document = some value ∧
        Condition.ofCanonical value = .ok condition := by
  unfold ofDocument
  rcases Json.ofText? document with _ | value
  · simp
  · simp [Except.mapError_eq_ok_iff]

/-- A condition that can be stored is read from the document it is stored as, if that is not too
deep. -/
theorem ofDocument_of_isStorable {condition : Condition} (h : condition.IsStorable)
    (hlow : condition.height + 2 ≤ Json.maxDepth) :
    ofDocument condition.toCanonical.compact = .ok condition :=
  ofDocument_eq_ok_iff.2 ⟨_, Condition.document_of_isStorable h hlow⟩

/-- A request with one document is about its condition. -/
theorem conditions_of_document {document : String} {condition : Condition}
    (h : ofDocument document = .ok condition) (connective : String) :
    conditions { documents := [document], connective } = .ok [condition] := by
  have hdocuments : ofDocuments [document] = .ok [condition] := by
    rw [ofDocuments, h]
    rfl
  rw [conditions]
  simp only [ofTexts, hdocuments]
  rfl

/-- A request whose only document is no JSON has no answer, once its connective is found. -/
theorem evaluate_of_invalid_document {document name : String} {connective : Connective}
    (hname : Connective.ofKeyword name = .ok connective) (h : Json.ofText? document = none)
    (input : Option String) :
    evaluate { documents := [document], connective := name } input = .error .invalidJson := by
  have hdocuments : ofDocuments [document] = .error .invalidJson := by
    rw [ofDocuments, ofDocument, h]
  have hjoined : joined { documents := [document], connective := name } = .error .invalidJson := by
    rw [joined]
    simp only [hname, conditions, ofTexts, hdocuments]
  rw [evaluate, hjoined]

end Request

namespace Condition

/-! ### Long chains -/

/-- A comparison of which chains are made. -/
def link : Condition := compare "a" .equal (.text "b")

/-- A chain of this many links behind the first one, each joined to all before it. -/
def chain (length : Nat) : Condition := (List.replicate length link).foldl (join .or) link

/-- A chain as it is written, `a = 'b' OR a = 'b'` and so on. -/
def chainText (length : Nat) : String := disjunctionText link (List.replicate length link)

/-- A chain is as high as it is long. -/
theorem height_chain (length : Nat) : (chain length).height = length := by
  have hflat : ∀ c ∈ List.replicate length link, c.height = 0 := by
    intro c hc
    rw [(List.mem_replicate.1 hc).2]
    rfl
  rw [chain, height_foldl_join .or link hflat, List.length_replicate]
  exact Nat.zero_add length

/-- A chain of any length is read. -/
theorem ofText_chainText (length : Nat) :
    ofText .lenient (chainText length) = .ok (chain length) := by
  have hlink : link.IsWritable ∧ link.height ≤ maxNesting := by
    refine ⟨(isWritable_leaf _).2 ⟨⟨by decide, ?_⟩, (rfl : hasMixedQuotes "b" = false)⟩, by decide⟩
    rintro (_ | _) <;> decide
  apply ofText_disjunctionText
  intro c hc
  rcases List.mem_cons.1 hc with rfl | hc
  · exact hlink
  · rw [(List.mem_replicate.1 hc).2]
    exact hlink

/-- A chain holds of a record when its link does. -/
theorem evaluate_chain {record : Record} (h : link.evaluate record = .ok true) (length : Nat) :
    (chain length).evaluate record = .ok true := by
  rw [evaluate_eq_meaning] at h ⊢
  refine List.foldlRecOn (motive := fun c : Condition => c.meaning record = .ok true) _ _ h
    fun left hleft right hright => ?_
  rw [(List.mem_replicate.1 hright).2, meaning, hleft, h]
  rfl

/-! ### Writing and reading -/

/-- **A rule that is stored is read back while its text is not too deep.** The text of the canonical
form of a rule is a document of that rule, and a request gives the same answer for the document as
for the rule, when the rule is not higher than documents may be deep, less the two objects of a
leaf. The text of a higher rule is no document: a chain of comparisons without a single parenthesis
can be too long to be stored.

The numbers of the rule are read back as they were written because documents are read with exact
rounding, which is assumed of the JSON library (see `Json.Number.ofParts?`). -/
theorem stored_text_read_back {text : String} {condition : Condition}
    (h : ofText .lenient text = .ok condition) :
    (condition.height + 2 ≤ Json.maxDepth →
      (Json.ofText? condition.toCanonical.compact).map ofCanonical = some (.ok condition) ∧
      ∀ (connective : String) (input : Option String),
        Request.evaluate { documents := [condition.toCanonical.compact], connective } input =
          Request.evaluate { texts := [text], connective } input) ∧
    (Json.maxDepth < condition.height + 2 →
      Json.ofText? condition.toCanonical.compact = none ∧
      ∀ (name : String) (connective : Connective), Connective.ofKeyword name = .ok connective →
        ∀ input : Option String,
          Request.evaluate { documents := [condition.toCanonical.compact], connective := name }
            input = .error .invalidJson) := by
  constructor
  · intro hlow
    have hstorable : condition.IsStorable := (isWritable_iff.1 (isWritable_of_ofText h)).1
    obtain ⟨hread, hvalue⟩ := document_of_isStorable hstorable hlow
    have hdocument : Request.ofDocument condition.toCanonical.compact = .ok condition :=
      Request.ofDocument_of_isStorable hstorable hlow
    refine ⟨by rw [hread, Option.map_some, hvalue], fun connective input => ?_⟩
    apply Request.evaluate_eq_of_conditions
    · rw [Request.conditions_of_document hdocument, Request.conditions_of_text h]
    · rfl
  · intro hhigh
    have hread : Json.ofText? condition.toCanonical.compact = none := by
      rw [ofText?_toCanonical, if_neg (Nat.not_le.2 hhigh)]
    exact ⟨hread, fun name connective hname => Request.evaluate_of_invalid_document hname hread⟩

/-- A chain with 125 joins is read back. -/
theorem stored_text_read_back_of_chain :
    ofText .lenient (chainText 125) = .ok (chain 125) ∧
      (Json.ofText? (chain 125).toCanonical.compact).map ofCanonical = some (.ok (chain 125)) := by
  have htext : ofText .lenient (chainText 125) = .ok (chain 125) := ofText_chainText 125
  have hlow : (chain 125).height + 2 ≤ Json.maxDepth := by
    rw [height_chain]
    decide
  exact ⟨htext, ((stored_text_read_back htext).1 hlow).1⟩

/-- A chain with 126 joins is a rule with an answer, and as it is stored it is no document. -/
theorem stored_text_not_read_back_of_chain :
    let text := chainText 126
    let rule := chain 126
    let input := (Json.object [("a", .text "b")]).compact
    ofText .lenient text = .ok rule ∧
      Request.evaluate { texts := [text], connective := "OR" } (some input) = .ok true ∧
      Json.ofText? rule.toCanonical.compact = none ∧
      Request.evaluate { documents := [rule.toCanonical.compact], connective := "OR" }
        (some input) = .error .invalidJson := by
  intro text rule input
  have htext : ofText .lenient text = .ok rule := ofText_chainText 126
  have hread : Json.ofText? rule.toCanonical.compact = none := by
    rw [ofText?_toCanonical, height_chain]
    rfl
  have hkeyword : Connective.ofKeyword "OR" = .ok .or := Connective.ofKeyword_keyword .or
  have hordered : (Json.object [("a", .text "b")]).IsOrdered :=
    ⟨List.pairwise_singleton _ _, trivial, trivial⟩
  have hinput : Json.ofText? input = some (.object [("a", .text "b")]) := by
    rw [Json.ofText?_compact hordered]
    rfl
  have hrecord : Request.recordOf (some input) = .ok [("a", .text "b")] := by
    rw [Request.recordOf, hinput]
    rfl
  refine ⟨htext, ?_, hread, Request.evaluate_of_invalid_document hkeyword hread _⟩
  have hlink : link.evaluate [("a", .text "b")] = .ok true := by
    rw [evaluate_eq_meaning]
    rfl
  have hanswer : rule.evaluate [("a", .text "b")] = .ok true := evaluate_chain hlink 126
  rw [Request.evaluate_of_text hkeyword htext hrecord, hanswer]
  rfl

/-- **Which conditions from documents have a rule text.** A condition that was read from a document
is read back from its rule text exactly when every leaf is plain: what else a document is checked
for, and the bound on its depth, is enough for everything but names that are keywords and numbers
with a minus sign. -/
theorem ruleText_of_document {document : String} {value : Json} {condition : Condition}
    (hdocument : Json.ofText? document = some value) (hvalue : ofCanonical value = .ok condition) :
    ofText .lenient condition.ruleText = .ok condition ↔
      ∀ leaf ∈ condition.leaves, leaf.IsPlain := by
  constructor
  · intro h
    exact (isWritable_iff.1 (isWritable_of_ofText h)).2
  · intro hplain
    have hlow : condition.height + 2 ≤ Json.maxDepth :=
      Nat.le_trans (height_add_two_le_depth hvalue) (Json.depth_of_ofText? hdocument)
    have hwritable := isWritable_iff.2 ⟨isStorable_of_ofCanonical hvalue, hplain⟩
    exact ofText_ruleText_of_height_le hwritable
      (Nat.le_trans (Nat.le_of_add_right_le hlow) (by decide))

/-- A name that only starts with a keyword is plain. -/
theorem ruleText_of_document_of_plain :
    let rule := compare "order" .equal (.text "b")
    Json.ofText? rule.toCanonical.compact = some rule.toCanonical ∧
      ofCanonical rule.toCanonical = .ok rule ∧
      ofText .lenient rule.ruleText = .ok rule := by
  intro rule
  have hrule : rule.IsStorable := by decide
  obtain ⟨hdocument, hvalue⟩ := document_of_isStorable hrule (by decide)
  refine ⟨hdocument, hvalue, (ruleText_of_document hdocument hvalue).2 ?_⟩
  intro leaf hleaf
  rw [List.mem_singleton.1 hleaf]
  refine ⟨?_, trivial⟩
  rintro (_ | _) <;> decide

/-- A document may hold the name `or` and a number with a minus sign, and neither is read back from
rule text. -/
theorem ruleText_of_document_not_read_back :
    let named := compare "or" .equal (.text "b")
    let signed := compare "age" .greater (.number (.ofInt (-5)))
    (Json.ofText? named.toCanonical.compact = some named.toCanonical ∧
        ofCanonical named.toCanonical = .ok named ∧
        ofText .lenient named.ruleText ≠ .ok named) ∧
      Json.ofText? signed.toCanonical.compact = some signed.toCanonical ∧
        ofCanonical signed.toCanonical = .ok signed ∧
        ofText .lenient signed.ruleText ≠ .ok signed := by
  intro named signed
  have hnamed : named.IsStorable := by decide
  have hsigned : signed.IsStorable :=
    (isStorable_leaf _).2 ⟨by decide, Json.isFinite_ofInt (by decide) (by decide)⟩
  obtain ⟨hdocument, hvalue⟩ := document_of_isStorable hnamed (by decide)
  obtain ⟨hsignedDocument, hsignedValue⟩ := document_of_isStorable hsigned (by decide)
  refine ⟨⟨hdocument, hvalue, fun h => ?_⟩, hsignedDocument, hsignedValue, fun h => ?_⟩
  · obtain ⟨hname, -⟩ := (isWritable_leaf _).1 (isWritable_of_ofText h)
    exact hname.2 .or (by decide)
  · obtain ⟨-, -, hpositive⟩ := (isWritable_leaf _).1 (isWritable_of_ofText h)
    have hnegative : (Binary64.ofInt (-5)).isNegative = true := by
      rw [Binary64.ofInt, Binary64.ofRatio, Binary64.ofRank]
      split <;> rfl
    rw [hnegative] at hpositive
    cases hpositive

end Condition

end Eligibility

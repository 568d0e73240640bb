import Eligibility.Condition.Evaluator
import Eligibility.Proofs.Result

/-!
# The canonical form loses nothing

Writing a condition as JSON and reading it back are two recursions that know nothing of each other.
`IsStorable` says which conditions survive both: names are names, numbers are finite, and no text
holds both kinds of quotes.

* **What a document must be** (`ofCanonical_eq_leaf_iff`, `ofCanonical_eq_join_iff`): one lemma for
  each kind of node says which members a document has when it is read as that node. Everything else
  here rests on these two, and no other proof opens the reader.
* **Writing and reading** (`ofCanonical_toCanonical`, `eq_of_ofCanonical_toCanonical`): the
  canonical form of a condition that can be stored is read as that condition, and no canonical form
  is read as anything else.
* **Reading and writing** (`isStorable_of_ofCanonical`): whatever is read can be stored, hence is
  found again.
-/

namespace Eligibility

/-! ### Conditions that can be stored -/

/-- A number that is finite, or a text without one of the two kinds of quotes. -/
def Literal.IsStorable : Literal → Prop
  | .number value => value.isFinite = true
  | .text value => hasMixedQuotes value = false

/-- A leaf whose field or name is a name, and whose literal can be stored. -/
def Leaf.IsStorable : Leaf → Prop
  | .comparison c => Text.isName c.field = true ∧ c.literal.IsStorable
  | .operand (.name text) => Text.isName text = true
  | .operand (.literal value) => value.IsStorable

/-- A condition all of whose leaves can be stored. -/
def Condition.IsStorable (condition : Condition) : Prop :=
  ∀ leaf ∈ condition.leaves, leaf.IsStorable

instance : DecidablePred Literal.IsStorable
  | .number value => inferInstanceAs (Decidable (value.isFinite = true))
  | .text value => inferInstanceAs (Decidable (hasMixedQuotes value = false))

instance : DecidablePred Leaf.IsStorable
  | .comparison c => inferInstanceAs (Decidable (Text.isName c.field = true ∧ c.literal.IsStorable))
  | .operand (.name text) => inferInstanceAs (Decidable (Text.isName text = true))
  | .operand (.literal value) => inferInstanceAs (Decidable value.IsStorable)

instance : DecidablePred Condition.IsStorable :=
  fun condition => inferInstanceAs (Decidable (∀ leaf ∈ condition.leaves, leaf.IsStorable))

namespace Condition

/-- A condition of one leaf can be stored when the leaf can. -/
@[simp] theorem isStorable_leaf (l : Leaf) : (leaf l).IsStorable ↔ l.IsStorable := by
  simp [IsStorable, leaves]

/-- A join can be stored when both its sides can. -/
@[simp] theorem isStorable_join (connective : Connective) (left right : Condition) :
    (join connective left right).IsStorable ↔ left.IsStorable ∧ right.IsStorable := by
  simp only [IsStorable, leaves, List.forall_mem_append]

end Condition

/-! ### Leaves -/

namespace Canonical

/-- A member that has to be there is there. -/
theorem require_eq_ok_iff {members : Json.Members} {name : String} {value : Json} :
    require members name = .ok value ↔ Json.member? members name = some value := by
  unfold require
  cases Json.member? members name <;> simp

/-- A name is read from a string that is one. -/
theorem name_eq_ok_iff {malformation : Json → Malformation} {found : Json} {text : String} :
    name malformation found = .ok text ↔ found = .text text ∧ Text.isName text = true := by
  unfold name
  cases found with
  | text value =>
    by_cases h : Text.isName value = true
    · simp only [Json.asText?, h, if_true, Except.ok.injEq, Json.text.injEq]
      exact ⟨fun heq => ⟨heq, heq ▸ h⟩, fun heq => heq.1⟩
    · simp only [Json.asText?, h, Json.text.injEq]
      exact ⟨fun heq => by simp at heq, fun ⟨heq, hname⟩ => absurd (heq ▸ hname) h⟩
  | _ => simp [Json.asText?]

/-- A literal that is read can be stored. -/
theorem isStorable_of_literal {found : Json} {value : Literal} (h : literal found = .ok value) :
    value.IsStorable := by
  unfold literal at h
  split at h
  · cases h
    exact Json.isFinite_toBinary64 _
  · split at h
    · simp at h
    · rename_i hquotes
      cases h
      exact eq_false_of_ne_true hquotes
  · simp at h

/-- A literal is found again when it can be stored, and is refused otherwise. -/
theorem literal_toJson_eq_ok_iff {value read : Literal} :
    literal value.toJson = .ok read ↔ value.IsStorable ∧ read = value := by
  cases value with
  | number x =>
    by_cases h : x.isFinite = true
    · simp [Literal.toJson, Literal.IsStorable, literal, h, Json.Number.toBinary64, eq_comm]
    · simp [Literal.toJson, Literal.IsStorable, Json.ofBinary64, literal, h]
  | text s =>
    by_cases h : hasMixedQuotes s = true
    · simp [Literal.toJson, Literal.IsStorable, literal, h]
    · simp [Literal.toJson, Literal.IsStorable, literal, h, eq_comm]

/-- The symbol of a comparator is read as it. -/
@[simp] theorem comparator_symbol (c : Comparator) : comparator (.text c.symbol) = .ok c := by
  simp [comparator, Json.asText?]

/-- The keyword of a connective is read as it. -/
@[simp] theorem connective_keyword (c : Connective) : connective (.text c.keyword) = .ok c := by
  simp [connective, Json.asText?]

/-- A comparison is read from a field that is a name, the symbol of a comparator and a literal. -/
theorem leaf_eq_comparison_iff {members : Json.Members} {c : Comparison} :
    leaf members = .ok (.comparison c) ↔
      ∃ op value, Json.member? members "field" = some (.text c.field) ∧
        Text.isName c.field = true ∧ Json.member? members "op" = some op ∧
        comparator op = .ok c.comparator ∧ Json.member? members "value" = some value ∧
        literal value = .ok c.literal := by
  obtain ⟨field, op, value⟩ := c
  unfold leaf
  cases Json.member? members "field" with
  | none =>
    cases Json.member? members "identifier" <;>
      simp [Except.bind_eq_ok_iff, Except.pure_eq_ok_iff, -bind_pure_comp]
  | some found =>
    simp only [Except.bind_eq_ok_iff, name_eq_ok_iff, require_eq_ok_iff, Except.pure_eq_ok_iff,
      Leaf.comparison.injEq, Comparison.mk.injEq, Option.some.injEq]
    constructor
    · rintro ⟨_, ⟨rfl, hname⟩, op, hop, _, hc, value, hvalue, _, hl, rfl, rfl, rfl⟩
      exact ⟨op, value, rfl, hname, hop, hc, hvalue, hl⟩
    · rintro ⟨op, value, rfl, hname, hop, hc, hvalue, hl⟩
      exact ⟨_, ⟨rfl, hname⟩, op, hop, _, hc, value, hvalue, _, hl, rfl, rfl, rfl⟩

/-- A bare name is read where there is no field. -/
theorem leaf_eq_name_iff {members : Json.Members} {text : String} :
    leaf members = .ok (.operand (.name text)) ↔
      Json.member? members "field" = none ∧
        Json.member? members "identifier" = some (.text text) ∧ Text.isName text = true := by
  unfold leaf
  cases Json.member? members "field" with
  | some found => simp [Except.bind_eq_ok_iff, Except.pure_eq_ok_iff, -bind_pure_comp]
  | none =>
    cases Json.member? members "identifier" with
    | none => simp [Except.bind_eq_ok_iff, Except.pure_eq_ok_iff, -bind_pure_comp]
    | some found =>
      simp [Except.bind_eq_ok_iff, name_eq_ok_iff, Except.pure_eq_ok_iff, -bind_pure_comp]

/-- A bare literal is read where there is neither a field nor a name. -/
theorem leaf_eq_literal_iff {members : Json.Members} {value : Literal} :
    leaf members = .ok (.operand (.literal value)) ↔
      Json.member? members "field" = none ∧ Json.member? members "identifier" = none ∧
        ∃ found, Json.member? members "value" = some found ∧ literal found = .ok value := by
  unfold leaf
  cases Json.member? members "field" with
  | some found => simp [Except.bind_eq_ok_iff, Except.pure_eq_ok_iff, -bind_pure_comp]
  | none =>
    cases Json.member? members "identifier" with
    | some found => simp [Except.bind_eq_ok_iff, Except.pure_eq_ok_iff, -bind_pure_comp]
    | none =>
      simp [Except.bind_eq_ok_iff, require_eq_ok_iff, Except.pure_eq_ok_iff, -bind_pure_comp]

/-- A leaf that is read can be stored. -/
theorem isStorable_of_leaf {members : Json.Members} {l : Leaf} (h : leaf members = .ok l) :
    l.IsStorable := by
  rcases l with c | (text | value)
  · obtain ⟨op, found, -, hname, -, -, -, hvalue⟩ := leaf_eq_comparison_iff.1 h
    exact ⟨hname, isStorable_of_literal hvalue⟩
  · exact (leaf_eq_name_iff.1 h).2.2
  · obtain ⟨-, -, found, -, hvalue⟩ := leaf_eq_literal_iff.1 h
    exact isStorable_of_literal hvalue

/-- A leaf is found again when it can be stored, and is refused otherwise. -/
theorem leaf_canonicalMembers_eq_ok_iff {l read : Leaf} :
    leaf l.canonicalMembers = .ok read ↔ l.IsStorable ∧ read = l := by
  rcases l with ⟨field, op, value⟩ | (text | value)
  · have hleaf : leaf (Leaf.comparison ⟨field, op, value⟩).canonicalMembers = do
        let field ← name .invalidField (.text field)
        let op ← comparator (.text op.symbol)
        let value ← literal value.toJson
        return .comparison ⟨field, op, value⟩ := rfl
    rw [hleaf]
    simp only [Except.bind_eq_ok_iff, name_eq_ok_iff, comparator_symbol, literal_toJson_eq_ok_iff,
      Except.pure_eq_ok_iff, Except.ok.injEq, Json.text.injEq]
    constructor
    · rintro ⟨_, ⟨rfl, hname⟩, _, rfl, _, ⟨hvalue, rfl⟩, rfl⟩
      exact ⟨⟨hname, hvalue⟩, rfl⟩
    · rintro ⟨⟨hname, hvalue⟩, rfl⟩
      exact ⟨_, ⟨rfl, hname⟩, _, rfl, _, ⟨hvalue, rfl⟩, rfl⟩
  · have hleaf : leaf (Leaf.operand (.name text)).canonicalMembers = do
        return .operand (.name (← name .invalidName (.text text))) := rfl
    rw [hleaf]
    simp only [Except.bind_eq_ok_iff, name_eq_ok_iff, Except.pure_eq_ok_iff,
      Json.text.injEq]
    constructor
    · rintro ⟨_, ⟨rfl, hname⟩, rfl⟩
      exact ⟨hname, rfl⟩
    · rintro ⟨hname, rfl⟩
      exact ⟨_, ⟨rfl, hname⟩, rfl⟩
  · have hleaf : leaf (Leaf.operand (.literal value)).canonicalMembers = do
        return .operand (.literal (← literal value.toJson)) := rfl
    rw [hleaf]
    simp only [Except.bind_eq_ok_iff, literal_toJson_eq_ok_iff, Except.pure_eq_ok_iff]
    constructor
    · rintro ⟨_, ⟨hvalue, rfl⟩, rfl⟩
      exact ⟨hvalue, rfl⟩
    · rintro ⟨hvalue, rfl⟩
      exact ⟨_, ⟨hvalue, rfl⟩, rfl⟩

end Canonical

/-! ### Nodes -/

namespace Condition

/-- How an object is read: its type comes first, and of two sides the left one. -/
theorem ofCanonical_object (members : Json.Members) :
    ofCanonical (.object members) = do
      match ← Canonical.nodeType members with
      | .operand =>
        match ← Canonical.require members "operand" with
        | .object operand => (Canonical.leaf operand).map .leaf
        | _ => .error (.malformed .operandNotAnObject)
      | .operator =>
        let connective ← Canonical.connective (← Canonical.require members "operator")
        let left ← ofCanonical (← Canonical.require members "left")
        let right ← ofCanonical (← Canonical.require members "right")
        return .join connective left right := by
  rw [ofCanonical]
  rcases Canonical.nodeType members with e | (_ | _)
  · rfl
  · rcases Canonical.require members "operand" with e | operand
    · rfl
    · cases operand <;> rfl
  · rcases Canonical.require members "operator" with e | operator
    · rfl
    · rcases hconnective : Canonical.connective operator with e | connective
      · simp [hconnective, bind, Except.bind]
      · simp only [hconnective, bind, Except.bind, Canonical.require]
        split
        · rename_i hleft
          simp [hleft]
        · rename_i left hleft
          simp only [hleft]
          cases ofCanonical left with
          | error e => rfl
          | ok first =>
            simp only
            split
            · rename_i hright
              simp [hright]
            · rename_i right hright
              simp only [hright]
              cases ofCanonical right <;> rfl

/-- A leaf is read from an object of the type `operand` whose operand is an object that holds it. -/
theorem ofCanonical_eq_leaf_iff {value : Json} {l : Leaf} :
    ofCanonical value = .ok (.leaf l) ↔
      ∃ members operand, value = .object members ∧ Canonical.nodeType members = .ok .operand ∧
        Json.member? members "operand" = some (.object operand) ∧
        Canonical.leaf operand = .ok l := by
  cases value with
  | object members =>
    rw [ofCanonical_object]
    simp only [Except.bind_eq_ok_iff, Json.object.injEq]
    constructor
    · rintro ⟨_ | _, htype, h⟩
      · obtain ⟨operand, hoperand, h⟩ := Except.bind_eq_ok_iff.1 h
        cases operand with
        | object operand =>
          obtain ⟨found, hfound, heq⟩ := Except.map_eq_ok_iff.1 h
          cases heq
          exact ⟨_, operand, rfl, htype, Canonical.require_eq_ok_iff.1 hoperand, hfound⟩
        | _ => simp at h
      · simp [Except.bind_eq_ok_iff, Except.pure_eq_ok_iff, -bind_pure_comp] at h
    · rintro ⟨_, operand, rfl, htype, hoperand, hl⟩
      refine ⟨.operand, htype, ?_⟩
      rw [Canonical.require_eq_ok_iff.2 hoperand]
      exact Except.map_eq_ok_iff.2 ⟨l, hl, rfl⟩
  | _ => simp [ofCanonical]

/-- A join is read from an object of the type `operator` with a connective and two sides. -/
theorem ofCanonical_eq_join_iff {value : Json} {connective : Connective} {left right : Condition} :
    ofCanonical value = .ok (.join connective left right) ↔
      ∃ members operator first second, value = .object members ∧
        Canonical.nodeType members = .ok .operator ∧
        Json.member? members "operator" = some operator ∧
        Canonical.connective operator = .ok connective ∧
        Json.member? members "left" = some first ∧ ofCanonical first = .ok left ∧
        Json.member? members "right" = some second ∧ ofCanonical second = .ok right := by
  cases value with
  | object members =>
    rw [ofCanonical_object]
    simp only [Except.bind_eq_ok_iff, Json.object.injEq]
    constructor
    · rintro ⟨_ | _, htype, h⟩
      · obtain ⟨operand, -, h⟩ := Except.bind_eq_ok_iff.1 h
        cases operand with
        | object operand => simp [Except.map_eq_ok_iff] at h
        | _ => simp at h
      · simp only [Except.bind_eq_ok_iff, Except.pure_eq_ok_iff, Canonical.require_eq_ok_iff] at h
        obtain ⟨operator, hoperator, _, hc, first, hfirst, _, hl, second, hsecond, _, hr, heq⟩ := h
        cases heq
        exact ⟨_, operator, first, second, rfl, htype, hoperator, hc, hfirst, hl, hsecond, hr⟩
    · rintro ⟨_, operator, first, second, rfl, htype, hoperator, hc, hfirst, hl, hsecond, hr⟩
      refine ⟨.operator, htype, ?_⟩
      simp only [Except.bind_eq_ok_iff, Except.pure_eq_ok_iff, Canonical.require_eq_ok_iff]
      exact ⟨operator, hoperator, _, hc, first, hfirst, _, hl, second, hsecond, _, hr, rfl⟩
  | _ => simp [ofCanonical]

/-- Whatever is read can be stored. -/
theorem isStorable_of_ofCanonical {value : Json} {condition : Condition}
    (h : ofCanonical value = .ok condition) : condition.IsStorable := by
  induction condition generalizing value with
  | leaf l =>
    obtain ⟨members, operand, -, -, -, hl⟩ := ofCanonical_eq_leaf_iff.1 h
    exact (isStorable_leaf l).2 (Canonical.isStorable_of_leaf hl)
  | join connective left right ihl ihr =>
    obtain ⟨members, operator, first, second, -, -, -, -, -, hl, -, hr⟩ :=
      ofCanonical_eq_join_iff.1 h
    exact (isStorable_join connective left right).2 ⟨ihl hl, ihr hr⟩

/-- The canonical form of a condition that can be stored is read as that condition. -/
theorem ofCanonical_toCanonical {condition : Condition} (h : condition.IsStorable) :
    ofCanonical condition.toCanonical = .ok condition := by
  induction condition with
  | leaf l =>
    refine ofCanonical_eq_leaf_iff.2 ⟨_, l.canonicalMembers, rfl, rfl, rfl, ?_⟩
    exact Canonical.leaf_canonicalMembers_eq_ok_iff.2 ⟨(isStorable_leaf l).1 h, rfl⟩
  | join connective left right ihl ihr =>
    obtain ⟨hleft, hright⟩ := (isStorable_join connective left right).1 h
    exact ofCanonical_eq_join_iff.2 ⟨_, _, left.toCanonical, right.toCanonical, rfl, rfl, rfl,
      Canonical.connective_keyword connective, rfl, ihl hleft, rfl, ihr hright⟩

/-- The canonical form of a condition is read as nothing but that condition. -/
theorem eq_of_ofCanonical_toCanonical {condition read : Condition}
    (h : ofCanonical condition.toCanonical = .ok read) : read = condition := by
  induction condition generalizing read with
  | leaf l =>
    cases read with
    | leaf found =>
      obtain ⟨members, operand, hvalue, -, hoperand, hl⟩ := ofCanonical_eq_leaf_iff.1 h
      cases hvalue
      obtain rfl : l.canonicalMembers = operand := Json.object.inj (Option.some.inj hoperand)
      rw [(Canonical.leaf_canonicalMembers_eq_ok_iff.1 hl).2]
    | join connective left right =>
      obtain ⟨members, _, _, _, hvalue, htype, -⟩ := ofCanonical_eq_join_iff.1 h
      cases hvalue
      simp [Canonical.nodeType, Json.member?, List.lookup_cons] at htype
  | join connective left right ihl ihr =>
    cases read with
    | leaf found =>
      obtain ⟨members, _, hvalue, htype, -⟩ := ofCanonical_eq_leaf_iff.1 h
      cases hvalue
      simp [Canonical.nodeType, Json.member?, List.lookup_cons] at htype
    | join other first second =>
      obtain ⟨members, operator, x, y, hvalue, -, hoperator, hc, hx, hl, hy, hr⟩ :=
        ofCanonical_eq_join_iff.1 h
      cases hvalue
      obtain rfl : Json.text connective.keyword = operator := Option.some.inj hoperator
      obtain rfl : left.toCanonical = x := Option.some.inj hx
      obtain rfl : right.toCanonical = y := Option.some.inj hy
      rw [Canonical.connective_keyword, Except.ok.injEq] at hc
      rw [hc, ihl hl, ihr hr]

/-- **The codec loses nothing that can be stored, and lets nothing else through.** The canonical
form of a condition is read exactly when the condition can be stored; what is read is then the
condition itself, so that every evaluator treats the document as it treats the condition. Whatever
is read from any document at all can be stored, and is found again when it is written and read once
more. -/
theorem canonical_lossless :
    (∀ condition : Condition,
      ((∃ read, ofCanonical condition.toCanonical = .ok read) ↔ condition.IsStorable) ∧
      ∀ read, ofCanonical condition.toCanonical = .ok read →
        read = condition ∧
        ∀ (evaluator : Evaluator) (record : Record),
          evaluator.evaluateCanonical condition.toCanonical record =
            evaluator.evaluate condition record) ∧
    ∀ (document : Json) (condition : Condition), ofCanonical document = .ok condition →
      condition.IsStorable ∧ ofCanonical condition.toCanonical = .ok condition := by
  refine ⟨fun condition => ⟨⟨?_, ?_⟩, fun read hread => ?_⟩, fun document condition h => ?_⟩
  · rintro ⟨read, hread⟩
    have hstorable := isStorable_of_ofCanonical hread
    rwa [eq_of_ofCanonical_toCanonical hread] at hstorable
  · intro hstorable
    exact ⟨condition, ofCanonical_toCanonical hstorable⟩
  · obtain rfl := eq_of_ofCanonical_toCanonical hread
    refine ⟨rfl, fun evaluator record => ?_⟩
    rw [Evaluator.evaluateCanonical, hread]
  · have hstorable := isStorable_of_ofCanonical h
    exact ⟨hstorable, ofCanonical_toCanonical hstorable⟩

/-- A text with one kind of quotes is found again; NaN is stored as a null and is not. -/
theorem canonical_lossless_of_quote :
    (∃ read, ofCanonical (compare "name" .equal (.text "O'Hara")).toCanonical = .ok read) ∧
      ¬ ∃ read, ofCanonical (compare "age" .equal (.number .nan)).toCanonical = .ok read := by
  constructor
  · exact (canonical_lossless.1 _).1.2 (by decide)
  · rw [(canonical_lossless.1 _).1]
    decide

end Condition

end Eligibility

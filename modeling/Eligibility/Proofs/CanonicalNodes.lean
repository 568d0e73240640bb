import Eligibility.Proofs.CanonicalForm

/-!
# The nodes of canonical documents

A node has a type, and below that an operand or a connective; its sides are documents of their own
and do not count here. Each part of a node has a reader. What the part encodes is said without that
reader, and so is what is wrong with the part: the first fault in the order in which its members are
looked at. A reader gives a value exactly when the part encodes it, and a fault exactly when that is
the first one.

* **Members** (`MemberFault`): what has to be there may be missing, or be wrong itself.
* **Words** (`WordFault`): comparators and connectives are spelled by words and are read alike.
* **Leaves** (`leaf_eq_ok_iff`, `leaf_eq_error_iff`): a field comes before an identifier, and that
  before a bare literal. `leaf_congr` says that no other members count.
* **Nodes** (`head_eq_error_iff`): `head` is the reader of a node without its sides.
-/

namespace Eligibility

namespace Canonical

/-! ### Members that have to be there -/

/-- A member that has to be there is missing, or there is something wrong with it. -/
inductive MemberFault (members : Json.Members) (name : String)
    (fault : Json → CanonicalError → Prop) : CanonicalError → Prop
  | missing (h : Json.member? members name = none) :
      MemberFault members name fault (.malformed (.missing name))
  | found {value : Json} {e : CanonicalError} (h : Json.member? members name = some value)
      (hfault : fault value e) : MemberFault members name fault e

/-- The only fault of a member that has to be there is that it is missing. -/
theorem require_eq_error_iff {members : Json.Members} {name : String} {e : CanonicalError} :
    require members name = .error e ↔
      Json.member? members name = none ∧ .malformed (.missing name) = e := by
  unfold require
  cases Json.member? members name <;> simp

/-- A member that has to be there and is read is refused when it is missing or refused itself. -/
theorem require_bind_eq_error_iff {α : Type} {members : Json.Members} {name : String}
    {read : Json → Except CanonicalError α} {fault : Json → CanonicalError → Prop}
    {e : CanonicalError} (h : ∀ value e, read value = .error e ↔ fault value e) :
    (require members name >>= read) = .error e ↔ MemberFault members name fault e := by
  rw [Except.bind_eq_error_iff, require_eq_error_iff]
  simp only [require_eq_ok_iff, h]
  constructor
  · rintro (⟨hmissing, rfl⟩ | ⟨value, hvalue, hfault⟩)
    · exact .missing hmissing
    · exact .found hvalue hfault
  · rintro (hmissing | ⟨hvalue, hfault⟩)
    · exact .inl ⟨hmissing, rfl⟩
    · exact .inr ⟨_, hvalue, hfault⟩

/-- No other members count when one has to be there. -/
theorem require_congr {members others : Json.Members} {name : String}
    (h : Json.member? others name = Json.member? members name) :
    require others name = require members name := by
  unfold require
  rw [h]

/-! ### Literals and names -/

/-- A number is a literal, and so is a text without one of the two kinds of quotes. -/
inductive EncodesLiteral : Json → Literal → Prop
  | number (value : Json.Number) : EncodesLiteral (.number value) (.number value.toBinary64)
  | text {value : String} (h : '\'' ∉ value.toList ∨ '"' ∉ value.toList) :
      EncodesLiteral (.text value) (.text value)

/-- What is wrong with a value that is no literal. -/
inductive LiteralFault : Json → CanonicalError → Prop
  | mixedQuotes {value : String} (hsingle : '\'' ∈ value.toList) (hdouble : '"' ∈ value.toList) :
      LiteralFault (.text value) (.malformed (.mixedQuotes (.text value)))
  | neither {found : Json} (hnumber : ∀ value, found ≠ .number value)
      (htext : ∀ value, found ≠ .text value) :
      LiteralFault found (.malformed (.invalidLiteral found))

/-- A string that is a name. -/
def HoldsName (found : Json) : Prop := ∃ text, found = .text text ∧ Text.isName text = true

/-- A text has mixed quotes when both kinds are among its characters. -/
theorem hasMixedQuotes_eq_true_iff {text : String} :
    hasMixedQuotes text = true ↔ '\'' ∈ text.toList ∧ '"' ∈ text.toList := by
  simp [hasMixedQuotes]

/-- A literal is read from what encodes it. -/
theorem literal_eq_ok_iff {found : Json} {l : Literal} :
    literal found = .ok l ↔ EncodesLiteral found l := by
  constructor
  · intro h
    unfold literal at h
    split at h
    · cases h
      exact .number _
    · split at h
      · cases h
      · rename_i hquotes
        rw [hasMixedQuotes_eq_true_iff, Decidable.not_and_iff_not_or_not] at hquotes
        cases h
        exact .text hquotes
    · cases h
  · rintro (_ | hquotes)
    · rfl
    · rw [← Decidable.not_and_iff_not_or_not, ← hasMixedQuotes_eq_true_iff] at hquotes
      simp only [literal, if_neg hquotes]

/-- A literal is refused for what is wrong with it. -/
theorem literal_eq_error_iff {found : Json} {e : CanonicalError} :
    literal found = .error e ↔ LiteralFault found e := by
  constructor
  · intro h
    unfold literal at h
    split at h
    · cases h
    · split at h
      · rename_i hquotes
        obtain ⟨hsingle, hdouble⟩ := hasMixedQuotes_eq_true_iff.1 hquotes
        cases h
        exact .mixedQuotes hsingle hdouble
      · cases h
    · rename_i hnumber htext
      cases h
      exact .neither hnumber htext
  · rintro (⟨hsingle, hdouble⟩ | ⟨hnumber, htext⟩)
    · simp only [literal, if_pos (hasMixedQuotes_eq_true_iff.2 ⟨hsingle, hdouble⟩)]
    · cases found with
      | number value => exact absurd rfl (hnumber value)
      | text value => exact absurd rfl (htext value)
      | _ => rfl

/-- What holds no name is refused as the malformation of its place. -/
theorem name_eq_error_iff {malformation : Json → Malformation} {found : Json} {e : CanonicalError} :
    name malformation found = .error e ↔
      ¬ HoldsName found ∧ .malformed (malformation found) = e := by
  have hok : HoldsName found ↔ ∃ text, name malformation found = .ok text := by
    simp only [name_eq_ok_iff]
    rfl
  rw [hok]
  unfold name
  cases found with
  | text value => by_cases h : Text.isName value = true <;> simp [Json.asText?, h]
  | _ => simp [Json.asText?]

/-! ### Words -/

/-- What is wrong with a value that is not one of the words by which things are spelled. -/
inductive WordFault {α : Type} (spelling : α → String) (notText : Malformation)
    (unsupported : String → CanonicalError) : Json → CanonicalError → Prop
  | notText {found : Json} (h : ∀ word, found ≠ .text word) :
      WordFault spelling notText unsupported found (.malformed notText)
  | unsupported {word : String} (h : ∀ a : α, spelling a ≠ word) :
      WordFault spelling notText unsupported (.text word) (unsupported word)

section Words

variable {α : Type} {spelling : α → String} {find? : String → Option α} {found : Json}

/-- What a member is that has to be one of the words by which things are spelled. -/
def word (find? : String → Option α) (notText : Malformation)
    (unsupported : String → CanonicalError) (found : Json) : Except CanonicalError α :=
  match found.asText? with
  | none => .error (.malformed notText)
  | some text =>
    match find? text with
    | some a => .ok a
    | none => .error (unsupported text)

/-- Something spelled by a word is read from this word and from nothing else. -/
theorem word_eq_ok_iff (hfind : ∀ text a, find? text = some a ↔ spelling a = text)
    {notText : Malformation} {unsupported : String → CanonicalError} {a : α} :
    word find? notText unsupported found = .ok a ↔ found = .text (spelling a) := by
  unfold word
  cases found with
  | text text =>
    rw [Json.text.injEq, eq_comm (a := text), ← hfind]
    simp only [Json.asText?]
    cases find? text <;> simp
  | _ => simp [Json.asText?]

/-- What is no text, or no word that spells something, is refused for that. -/
theorem word_eq_error_iff (hfind : ∀ text a, find? text = some a ↔ spelling a = text)
    {notText : Malformation} {unsupported : String → CanonicalError} {e : CanonicalError} :
    word find? notText unsupported found = .error e ↔
      WordFault spelling notText unsupported found e := by
  constructor
  · intro h
    unfold word at h
    cases found with
    | text text =>
      simp only [Json.asText?] at h
      split at h
      · cases h
      · rename_i hnone
        cases h
        refine .unsupported fun a hspelling => ?_
        rw [(hfind text a).2 hspelling] at hnone
        cases hnone
    | _ =>
      cases h
      exact .notText (by simp)
  · rintro (htext | hunsupported)
    · cases found with
      | text text => exact absurd rfl (htext text)
      | _ => rfl
    · rename_i text
      have hnone : find? text = none :=
        Option.eq_none_iff_forall_ne_some.2 fun a hsome => hunsupported a ((hfind text a).1 hsome)
      simp only [word, Json.asText?, hnone]

end Words

/-- What is wrong with a value that is no comparator. -/
def ComparatorFault : Json → CanonicalError → Prop :=
  WordFault Comparator.symbol .comparatorNotText .unsupportedComparator

/-- What is wrong with a value that is no connective. -/
def ConnectiveFault : Json → CanonicalError → Prop :=
  WordFault Connective.keyword .operatorNotText .unsupportedConnective

/-- Symbols are words by which comparators are spelled. -/
theorem ofSymbol?_eq_some_iff (text : String) (c : Comparator) :
    Comparator.ofSymbol? text = some c ↔ c.symbol = text := by
  constructor
  · exact Comparator.symbol_of_ofSymbol?
  · rintro rfl
    exact Comparator.ofSymbol?_symbol c

/-- Keywords, in upper case, are words by which connectives are spelled. -/
theorem ofExactKeyword?_eq_some_iff (text : String) (c : Connective) :
    Connective.ofExactKeyword? text = some c ↔ c.keyword = text := by
  constructor
  · exact Connective.keyword_of_ofExactKeyword?
  · rintro rfl
    exact Connective.ofExactKeyword?_keyword c

/-- A comparator is read as a word. -/
theorem comparator_eq_word (found : Json) :
    comparator found =
      word Comparator.ofSymbol? .comparatorNotText .unsupportedComparator found := by
  unfold comparator word
  cases found.asText? with
  | none => rfl
  | some symbol =>
    simp only
    cases Comparator.ofSymbol? symbol <;> rfl

/-- A connective is read as a word. -/
theorem connective_eq_word (found : Json) :
    connective found =
      word Connective.ofExactKeyword? .operatorNotText .unsupportedConnective found := by
  unfold connective word
  cases found.asText? with
  | none => rfl
  | some keyword =>
    simp only
    cases Connective.ofExactKeyword? keyword <;> rfl

/-- A comparator is read from its symbol. -/
theorem comparator_eq_ok_iff {found : Json} {c : Comparator} :
    comparator found = .ok c ↔ found = .text c.symbol := by
  rw [comparator_eq_word, word_eq_ok_iff ofSymbol?_eq_some_iff]

/-- A comparator is refused for what is wrong with its word. -/
theorem comparator_eq_error_iff {found : Json} {e : CanonicalError} :
    comparator found = .error e ↔ ComparatorFault found e := by
  rw [comparator_eq_word, word_eq_error_iff ofSymbol?_eq_some_iff, ComparatorFault]

/-- A connective is read from its keyword. -/
theorem connective_eq_ok_iff {found : Json} {c : Connective} :
    connective found = .ok c ↔ found = .text c.keyword := by
  rw [connective_eq_word, word_eq_ok_iff ofExactKeyword?_eq_some_iff]

/-- A connective is refused for what is wrong with its word. -/
theorem connective_eq_error_iff {found : Json} {e : CanonicalError} :
    connective found = .error e ↔ ConnectiveFault found e := by
  rw [connective_eq_word, word_eq_error_iff ofExactKeyword?_eq_some_iff, ConnectiveFault]

/-! ### Leaves -/

/-- The leaf that the members of an operand are: with a field it is a comparison, else with an
identifier it is a bare name, and else it is a bare literal. -/
inductive EncodesLeaf (members : Json.Members) : Leaf → Prop
  | comparison {field : String} {comparator : Comparator} {value : Json} {literal : Literal}
      (hfield : Json.member? members "field" = some (.text field))
      (hname : Text.isName field = true)
      (hop : Json.member? members "op" = some (.text comparator.symbol))
      (hvalue : Json.member? members "value" = some value) (h : EncodesLiteral value literal) :
      EncodesLeaf members (.comparison ⟨field, comparator, literal⟩)
  | name {text : String} (hfield : Json.member? members "field" = none)
      (htext : Json.member? members "identifier" = some (.text text))
      (hname : Text.isName text = true) : EncodesLeaf members (.operand (.name text))
  | literal {value : Json} {literal : Literal} (hfield : Json.member? members "field" = none)
      (hname : Json.member? members "identifier" = none)
      (hvalue : Json.member? members "value" = some value) (h : EncodesLiteral value literal) :
      EncodesLeaf members (.operand (.literal literal))

/-- What is wrong with the members of an operand: of a comparison the field, the comparator and the
literal are looked at in this order. -/
inductive LeafFault (members : Json.Members) : CanonicalError → Prop
  | field {found : Json} (hfield : Json.member? members "field" = some found)
      (h : ¬ HoldsName found) : LeafFault members (.malformed (.invalidField found))
  | comparator {field : Json} {e : CanonicalError}
      (hfield : Json.member? members "field" = some field) (hname : HoldsName field)
      (h : MemberFault members "op" ComparatorFault e) : LeafFault members e
  | comparedLiteral {field : Json} {comparator : Comparator} {e : CanonicalError}
      (hfield : Json.member? members "field" = some field) (hname : HoldsName field)
      (hop : Json.member? members "op" = some (.text comparator.symbol))
      (h : MemberFault members "value" LiteralFault e) : LeafFault members e
  | name {found : Json} (hfield : Json.member? members "field" = none)
      (hfound : Json.member? members "identifier" = some found) (h : ¬ HoldsName found) :
      LeafFault members (.malformed (.invalidName found))
  | literal {e : CanonicalError} (hfield : Json.member? members "field" = none)
      (hname : Json.member? members "identifier" = none)
      (h : MemberFault members "value" LiteralFault e) : LeafFault members e

/-- These operands agree in the members that count. -/
inductive LeafAlike (members others : Json.Members) : Prop
  | comparison (hfield : Json.member? members "field" ≠ none)
      (h : ∀ name ∈ ["field", "op", "value"], Json.member? others name = Json.member? members name)
  | name (hfield : Json.member? members "field" = none)
      (hname : Json.member? members "identifier" ≠ none)
      (h : ∀ name ∈ ["field", "identifier"], Json.member? others name = Json.member? members name)
  | literal (hfield : Json.member? members "field" = none)
      (hname : Json.member? members "identifier" = none)
      (h : ∀ name ∈ ["field", "identifier", "value"],
        Json.member? others name = Json.member? members name)

section Leaves

variable {members : Json.Members}

/-- **A leaf is read from the members that encode it.** -/
theorem leaf_eq_ok_iff {l : Leaf} : leaf members = .ok l ↔ EncodesLeaf members l := by
  constructor
  · intro h
    rcases l with ⟨field, c, value⟩ | (text | value)
    · obtain ⟨op, found, hfield, hname, hop, hc, hfound, hvalue⟩ := leaf_eq_comparison_iff.1 h
      rw [comparator_eq_ok_iff.1 hc] at hop
      exact .comparison hfield hname hop hfound (literal_eq_ok_iff.1 hvalue)
    · obtain ⟨hfield, htext, hname⟩ := leaf_eq_name_iff.1 h
      exact .name hfield htext hname
    · obtain ⟨hfield, hname, found, hfound, hvalue⟩ := leaf_eq_literal_iff.1 h
      exact .literal hfield hname hfound (literal_eq_ok_iff.1 hvalue)
  · rintro (⟨hfield, hname, hop, hfound, hvalue⟩ | ⟨hfield, htext, hname⟩ |
      ⟨hfield, hname, hfound, hvalue⟩)
    · exact leaf_eq_comparison_iff.2 ⟨_, _, hfield, hname, hop, comparator_symbol _, hfound,
        literal_eq_ok_iff.2 hvalue⟩
    · exact leaf_eq_name_iff.2 ⟨hfield, htext, hname⟩
    · exact leaf_eq_literal_iff.2 ⟨hfield, hname, _, hfound, literal_eq_ok_iff.2 hvalue⟩

/-- The member `value` is refused when it is missing or is no literal. -/
theorem valueMember_eq_error_iff {e : CanonicalError} :
    (require members "value" >>= literal) = .error e ↔
      MemberFault members "value" LiteralFault e :=
  require_bind_eq_error_iff fun _ _ => literal_eq_error_iff

/-- The member `op` is refused when it is missing or is no comparator. -/
theorem opMember_eq_error_iff {e : CanonicalError} :
    (require members "op" >>= comparator) = .error e ↔
      MemberFault members "op" ComparatorFault e :=
  require_bind_eq_error_iff fun _ _ => comparator_eq_error_iff

/-- The member `op` is read when it is there and holds a symbol. -/
theorem opMember_eq_ok_iff {c : Comparator} :
    (require members "op" >>= comparator) = .ok c ↔
      Json.member? members "op" = some (.text c.symbol) := by
  simp only [Except.bind_eq_ok_iff, require_eq_ok_iff, comparator_eq_ok_iff, exists_eq_right]

/-- How a leaf with a field is read. -/
theorem leaf_of_field {found : Json} (h : Json.member? members "field" = some found) :
    leaf members = do
      let field ← name .invalidField found
      let comparator ← require members "op" >>= comparator
      let literal ← require members "value" >>= literal
      return .comparison ⟨field, comparator, literal⟩ := by
  unfold leaf
  simp only [h, bind_assoc]

/-- How a leaf without a field and with an identifier is read. -/
theorem leaf_of_name {found : Json} (hfield : Json.member? members "field" = none)
    (hname : Json.member? members "identifier" = some found) :
    leaf members = do return .operand (.name (← name .invalidName found)) := by
  unfold leaf
  simp only [hfield, hname]

/-- How a leaf without a field and without an identifier is read. -/
theorem leaf_of_neither (hfield : Json.member? members "field" = none)
    (hname : Json.member? members "identifier" = none) :
    leaf members = do
      let literal ← require members "value" >>= literal
      return .operand (.literal literal) := by
  unfold leaf
  simp only [hfield, hname, bind_assoc]

/-- **A leaf is refused for the first of its faults.** -/
theorem leaf_eq_error_iff {e : CanonicalError} :
    leaf members = .error e ↔ LeafFault members e := by
  constructor
  · intro h
    rcases hfield : Json.member? members "field" with _ | field
    · rcases hname : Json.member? members "identifier" with _ | found
      · rw [leaf_of_neither hfield hname, Except.bind_eq_error_iff, valueMember_eq_error_iff] at h
        rcases h with hvalue | ⟨l, -, hpure⟩
        · exact .literal hfield hname hvalue
        · cases hpure
      · rw [leaf_of_name hfield hname, Except.bind_eq_error_iff, name_eq_error_iff] at h
        rcases h with ⟨hnot, rfl⟩ | ⟨text, -, hpure⟩
        · exact .name hfield hname hnot
        · cases hpure
    · rw [leaf_of_field hfield, Except.bind_eq_error_iff, name_eq_error_iff] at h
      rcases h with ⟨hnot, rfl⟩ | ⟨text, htext, h⟩
      · exact .field hfield hnot
      -- the field is a name, so the fault is further on in the comparison
      have hholds : HoldsName field := ⟨text, name_eq_ok_iff.1 htext⟩
      rw [Except.bind_eq_error_iff, opMember_eq_error_iff] at h
      rcases h with hop | ⟨c, hop, h⟩
      · exact .comparator hfield hholds hop
      rw [Except.bind_eq_error_iff, valueMember_eq_error_iff] at h
      rcases h with hvalue | ⟨l, -, hpure⟩
      · exact .comparedLiteral hfield hholds (opMember_eq_ok_iff.1 hop) hvalue
      · cases hpure
  · rintro (⟨hfield, hnot⟩ | ⟨hfield, ⟨text, hname⟩, hop⟩ | ⟨hfield, ⟨text, hname⟩, hop, hvalue⟩ |
      ⟨hfield, hfound, hnot⟩ | ⟨hfield, hname, hvalue⟩)
    · rw [leaf_of_field hfield, name_eq_error_iff.2 ⟨hnot, rfl⟩]
      rfl
    · rw [leaf_of_field hfield]
      refine Except.bind_eq_error_iff.2 (.inr ⟨text, name_eq_ok_iff.2 hname, ?_⟩)
      exact Except.bind_eq_error_iff.2 (.inl (opMember_eq_error_iff.2 hop))
    · rw [leaf_of_field hfield]
      refine Except.bind_eq_error_iff.2 (.inr ⟨text, name_eq_ok_iff.2 hname, ?_⟩)
      refine Except.bind_eq_error_iff.2 (.inr ⟨_, opMember_eq_ok_iff.2 hop, ?_⟩)
      exact Except.bind_eq_error_iff.2 (.inl (valueMember_eq_error_iff.2 hvalue))
    · rw [leaf_of_name hfield hfound, name_eq_error_iff.2 ⟨hnot, rfl⟩]
      rfl
    · rw [leaf_of_neither hfield hname]
      exact Except.bind_eq_error_iff.2 (.inl (valueMember_eq_error_iff.2 hvalue))

/-- Operands that agree in the members that count are the same leaf. -/
theorem leaf_congr {others : Json.Members} (h : LeafAlike members others) :
    leaf others = leaf members := by
  rcases h with ⟨hfield, h⟩ | ⟨hfield, hname, h⟩ | ⟨hfield, hname, h⟩
  · obtain ⟨field, hfield⟩ := Option.ne_none_iff_exists'.1 hfield
    obtain ⟨hsame, hop, hvalue, -⟩ : _ ∧ _ ∧ _ ∧ _ := by
      simpa only [List.forall_mem_cons] using h
    unfold leaf require
    simp only [hsame, hfield, hop, hvalue]
  · obtain ⟨name, hname⟩ := Option.ne_none_iff_exists'.1 hname
    obtain ⟨hsame, hidentifier, -⟩ : _ ∧ _ ∧ _ := by
      simpa only [List.forall_mem_cons] using h
    rw [leaf_of_name hfield hname, leaf_of_name (hsame.trans hfield) (hidentifier.trans hname)]
  · obtain ⟨hsame, hidentifier, hvalue, -⟩ : _ ∧ _ ∧ _ ∧ _ := by
      simpa only [List.forall_mem_cons] using h
    rw [leaf_of_neither hfield hname,
      leaf_of_neither (hsame.trans hfield) (hidentifier.trans hname), require, require, hvalue]

end Leaves

/-! ### Nodes -/

/-- The word for a type. -/
def NodeType.label : NodeType → String
  | .operand => "operand"
  | .operator => "operator"

/-- What is wrong with the type of a node. -/
inductive TypeFault (members : Json.Members) : CanonicalError → Prop
  | missing (h : Json.member? members "type" = none) : TypeFault members (.unknownType "<missing>")
  | notText {found : Json} (h : Json.member? members "type" = some found)
      (htext : ∀ text, found ≠ .text text) : TypeFault members (.unknownType found.compact)
  | unknown {text : String} (h : Json.member? members "type" = some (.text text))
      (hoperand : text ≠ "operand") (hoperator : text ≠ "operator") :
      TypeFault members (.unknownType text)

/-- What is wrong with the member `operand` of a leaf. -/
inductive OperandFault : Json → CanonicalError → Prop
  | notAnObject {found : Json} (h : ∀ members, found ≠ .object members) :
      OperandFault found (.malformed .operandNotAnObject)
  | leaf {members : Json.Members} {e : CanonicalError} (h : LeafFault members e) :
      OperandFault (.object members) e

/-- What is wrong with an object, whatever its sides are. -/
inductive HeadFault (members : Json.Members) : CanonicalError → Prop
  | type {e : CanonicalError} (h : TypeFault members e) : HeadFault members e
  | operand {e : CanonicalError} (htype : Json.member? members "type" = some (.text "operand"))
      (h : MemberFault members "operand" OperandFault e) : HeadFault members e
  | operator {e : CanonicalError} (htype : Json.member? members "type" = some (.text "operator"))
      (h : MemberFault members "operator" ConnectiveFault e) : HeadFault members e

/-- What a node is without its sides. -/
inductive Head where
  | leaf (l : Leaf)
  | join (connective : Connective)

/-- The leaf that the member `operand` of a node is. -/
def operand : Json → Except CanonicalError Leaf
  | .object members => leaf members
  | _ => .error (.malformed .operandNotAnObject)

/-- Reads a node without its sides. -/
def head (members : Json.Members) : Except CanonicalError Head := do
  match ← nodeType members with
  | .operand => (require members "operand" >>= operand).map .leaf
  | .operator => (require members "operator" >>= connective).map .join

section Nodes

variable {members : Json.Members} {e : CanonicalError}

/-- A type is read from the word for it. -/
theorem nodeType_eq_ok_iff {type : NodeType} :
    nodeType members = .ok type ↔ Json.member? members "type" = some (.text type.label) := by
  constructor
  · intro h
    unfold nodeType at h
    split at h
    · rename_i htype
      split at h
      · rename_i hlabel
        cases h
        rw [htype, hlabel]
        rfl
      · split at h
        · rename_i hlabel
          cases h
          rw [htype, hlabel]
          rfl
        · cases h
    · cases h
    · cases h
  · intro h
    unfold nodeType
    rw [h]
    cases type <;> rfl

/-- A type is refused when it is missing, is no text or is neither word. -/
theorem nodeType_eq_error_iff :
    nodeType members = .error e ↔ TypeFault members e := by
  constructor
  · intro h
    unfold nodeType at h
    split at h
    · rename_i htype
      split at h
      · cases h
      · rename_i hoperand
        split at h
        · cases h
        · rename_i hoperator
          cases h
          exact .unknown htype hoperand hoperator
    · rename_i htext htype
      cases h
      exact .notText htype htext
    · rename_i htype
      cases h
      exact .missing htype
  · rintro (htype | ⟨htype, htext⟩ | ⟨htype, hoperand, hoperator⟩)
    · simp only [nodeType, htype]
    · rename_i found
      cases found with
      | text text => exact absurd rfl (htext text)
      | _ => simp only [nodeType, htype]
    · simp only [nodeType, htype, if_neg hoperand, if_neg hoperator]

/-- No other members count for the type. -/
theorem nodeType_congr {others : Json.Members}
    (h : Json.member? others "type" = Json.member? members "type") :
    nodeType others = nodeType members := by
  unfold nodeType
  rw [h]

/-- A leaf is refused when it is no object, and else for its own first fault. -/
theorem operand_eq_error_iff {found : Json} :
    operand found = .error e ↔ OperandFault found e := by
  constructor
  · intro h
    cases found with
    | object members => exact .leaf (leaf_eq_error_iff.1 h)
    | _ =>
      cases h
      exact .notAnObject (by simp)
  · rintro (hobject | hleaf)
    · cases found with
      | object members => exact absurd rfl (hobject members)
      | _ => rfl
    · exact leaf_eq_error_iff.2 hleaf

/-- A node of the one type is the leaf that its operand is. -/
theorem head_of_operand (h : nodeType members = .ok .operand) :
    head members = (require members "operand" >>= operand).map .leaf := by
  unfold head
  rw [h]
  rfl

/-- A node of the other type is a join by its connective. -/
theorem head_of_operator (h : nodeType members = .ok .operator) :
    head members = (require members "operator" >>= connective).map .join := by
  unfold head
  rw [h]
  rfl

/-- A node without a type is refused for that alone. -/
theorem head_of_error (h : nodeType members = .error e) : head members = .error e := by
  unfold head
  rw [h]
  rfl

/-- **A node is refused for the first fault that it has by itself.** -/
theorem head_eq_error_iff : head members = .error e ↔ HeadFault members e := by
  have hoperand : (require members "operand" >>= operand) = .error e ↔
      MemberFault members "operand" OperandFault e :=
    require_bind_eq_error_iff fun _ _ => operand_eq_error_iff
  have hoperator : (require members "operator" >>= connective) = .error e ↔
      MemberFault members "operator" ConnectiveFault e :=
    require_bind_eq_error_iff fun _ _ => connective_eq_error_iff
  constructor
  · intro h
    rcases htype : nodeType members with cause | (_ | _)
    · rw [head_of_error htype] at h
      cases h
      exact .type (nodeType_eq_error_iff.1 htype)
    · rw [head_of_operand htype, Except.map_eq_error_iff, hoperand] at h
      exact .operand (nodeType_eq_ok_iff.1 htype) h
    · rw [head_of_operator htype, Except.map_eq_error_iff, hoperator] at h
      exact .operator (nodeType_eq_ok_iff.1 htype) h
  · rintro (htype | ⟨htype, hfault⟩ | ⟨htype, hfault⟩)
    · exact head_of_error (nodeType_eq_error_iff.2 htype)
    · rw [head_of_operand (nodeType_eq_ok_iff.2 htype), Except.map_eq_error_iff, hoperand]
      exact hfault
    · rw [head_of_operator (nodeType_eq_ok_iff.2 htype), Except.map_eq_error_iff, hoperator]
      exact hfault

/-- A node that is a leaf has the type of one. -/
theorem type_of_head_leaf {l : Leaf} (h : head members = .ok (.leaf l)) :
    Json.member? members "type" = some (.text "operand") := by
  rcases htype : nodeType members with cause | (_ | _)
  · rw [head_of_error htype] at h
    cases h
  · exact nodeType_eq_ok_iff.1 htype
  · rw [head_of_operator htype, Except.map_eq_ok_iff] at h
    obtain ⟨c, -, hc⟩ := h
    cases hc

/-- A node that is a join has the type of one. -/
theorem type_of_head_join {c : Connective} (h : head members = .ok (.join c)) :
    Json.member? members "type" = some (.text "operator") := by
  rcases htype : nodeType members with cause | (_ | _)
  · rw [head_of_error htype] at h
    cases h
  · rw [head_of_operand htype, Except.map_eq_ok_iff] at h
    obtain ⟨l, -, hl⟩ := h
    cases hl
  · exact nodeType_eq_ok_iff.1 htype

end Nodes

end Canonical

end Eligibility

import Eligibility.Proofs.CatalogQuestions
import Eligibility.Proofs.StoredText

/-!
# Conditions that can be made

Conditions are read from rule texts and from documents, and then joined. Nothing that joins
conditions looks into their leaves, so what holds of the leaves that are read holds of every
condition.

* **Ways of making conditions** (`Condition.Made`): reading a text in either mode, reading a
  document, joining two conditions or many, and asking a catalog for the join of some of its rules.
* **Where leaves come from** (`Condition.Made.isRead`): every leaf was read. This is by induction on
  how the condition was made, and for catalogs by what holds of every catalog.
* **What holds of all leaves** (`Condition.leaf_of_made`): leaves can be stored, and are plain when
  no document was used.
* **No more than that** (`Condition.made_true_iff`, `Condition.made_false_iff`): every condition
  with such leaves can be made.
-/

namespace Eligibility

namespace Condition

/-- Two conditions are joined when their connective is named. -/
theorem joinNamed_eq_ok_iff {name : String} {left right joined : Condition} :
    joinNamed name left right = .ok joined ↔
      ∃ connective, Connective.ofKeyword name = .ok connective ∧
        joined = .join connective left right := by
  unfold joinNamed
  cases Connective.ofKeyword name <;> simp [eq_comm]

/-! ### Ways of making conditions -/

/-- This condition can be made, with or without documents. -/
inductive Made (documents : Bool) : Condition → Prop
  /-- Read from a text. -/
  | ofText {mode : ParseMode} {text : String} {condition : Condition}
      (h : Condition.ofText mode text = .ok condition) : Made documents condition
  /-- Read from a document, if documents may be used. -/
  | ofCanonical {value : Json} {condition : Condition} (hallowed : documents = true)
      (h : Condition.ofCanonical value = .ok condition) : Made documents condition
  /-- Joined from two conditions. -/
  | join {connective : Connective} {left right : Condition} (hleft : Made documents left)
      (hright : Made documents right) : Made documents (.join connective left right)
  /-- Joined from two conditions by a connective that is named. -/
  | joinNamed {name : String} {left right joined : Condition} (hleft : Made documents left)
      (hright : Made documents right) (h : Condition.joinNamed name left right = .ok joined) :
      Made documents joined
  /-- Joined from many conditions. -/
  | joinAll {connective : Connective} {parts : List Condition} {joined : Condition}
      (hparts : ∀ part ∈ parts, Made documents part)
      (h : joinAll? connective parts = some joined) : Made documents joined
  /-- Joined from the named rules of a catalog, however that was changed since it was empty. -/
  | catalog {settings : Settings} {changes : List Change} {connective : Connective}
      {names : List String} {joined : Condition}
      (h : (({ settings } : Catalog).performAll changes).joined connective names = .ok joined) :
      Made documents joined

end Condition

/-! ### Where leaves come from -/

/-- This leaf is one of a condition that was read, with or without documents. -/
inductive Leaf.IsRead (documents : Bool) (leaf : Leaf) : Prop
  | ofText {mode : ParseMode} {text : String} {condition : Condition}
      (h : Condition.ofText mode text = .ok condition) (hleaf : leaf ∈ condition.leaves)
  | ofCanonical {value : Json} {condition : Condition} (hallowed : documents = true)
      (h : Condition.ofCanonical value = .ok condition) (hleaf : leaf ∈ condition.leaves)

/-- A leaf that was read can be stored. -/
theorem Leaf.IsRead.isStorable {documents : Bool} {leaf : Leaf} (h : leaf.IsRead documents) :
    leaf.IsStorable := by
  cases h with
  | ofText h hleaf => exact (Leaf.isWritable_iff.1 (Condition.isWritable_of_ofText h leaf hleaf)).1
  | ofCanonical _ h hleaf => exact Condition.isStorable_of_ofCanonical h leaf hleaf

/-- A leaf that was read without documents is plain. -/
theorem Leaf.IsRead.isPlain {leaf : Leaf} (h : leaf.IsRead false) : leaf.IsPlain := by
  cases h with
  | ofText h hleaf => exact (Leaf.isWritable_iff.1 (Condition.isWritable_of_ofText h leaf hleaf)).2
  | ofCanonical hallowed _ _ => cases hallowed

namespace Condition

variable {documents : Bool} {condition : Condition}

/-- **Nothing but reading makes leaves.** -/
theorem Made.isRead (h : Made documents condition) :
    ∀ leaf ∈ condition.leaves, leaf.IsRead documents := by
  induction h with
  | ofText h => exact fun leaf hleaf => .ofText h hleaf
  | ofCanonical hallowed h => exact fun leaf hleaf => .ofCanonical hallowed h hleaf
  | join _ _ ihl ihr => exact List.forall_mem_append.2 ⟨ihl, ihr⟩
  | joinNamed _ _ h ihl ihr =>
    obtain ⟨connective, -, rfl⟩ := joinNamed_eq_ok_iff.1 h
    exact List.forall_mem_append.2 ⟨ihl, ihr⟩
  | joinAll _ h ih =>
    intro leaf hleaf
    rw [(bracketing_of_joinAll? h).leaves_eq, List.mem_flatMap] at hleaf
    obtain ⟨part, hpart, hleaf⟩ := hleaf
    exact ih part hpart leaf hleaf
  | @catalog settings changes _ _ _ h =>
    intro leaf hleaf
    obtain ⟨conditions, hconditions, hjoin⟩ := Catalog.joined_eq_ok_iff.1 h
    rw [(bracketing_of_joinAll? hjoin).leaves_eq, List.mem_flatMap] at hleaf
    obtain ⟨part, hpart, hleaf⟩ := hleaf
    obtain ⟨rule, hrule, rfl⟩ := Catalog.exists_rule_of_conditions hconditions part hpart
    -- the condition of a rule is what its text says, whatever was done to the catalog
    obtain ⟨-, -, hsound⟩ := Catalog.performAll_sound settings changes
    exact .ofText (hsound rule hrule).2.1 hleaf

/-- **What holds of the leaves of every condition that is made.** Fields and names are names,
numbers are finite and no text holds both kinds of quotes. When no document was used, fields and
names are also no keywords and numbers have no minus sign. -/
theorem leaf_of_made (h : Made documents condition) :
    ∀ leaf ∈ condition.leaves, leaf.IsStorable ∧ (documents = false → leaf.IsPlain) := by
  intro leaf hleaf
  have hread := h.isRead leaf hleaf
  refine ⟨hread.isStorable, ?_⟩
  rintro rfl
  exact hread.isPlain

/-- A document may name a field by a keyword, and no text and no catalog does. -/
theorem leaf_of_made_of_keyword :
    let rule := join .and (name "vip") (compare "or" .equal (.text "b"))
    rule.Made true ∧ (∀ leaf ∈ rule.leaves, leaf.IsStorable) ∧ ¬ rule.Made false := by
  intro rule
  have hname : Made true (name "vip") :=
    .ofText (ofText_ruleText_of_height_le (by decide) (by decide))
  have hcompare : Made true (compare "or" .equal (.text "b")) :=
    .ofCanonical rfl (ofCanonical_toCanonical (by decide))
  have hjoin : Condition.joinNamed "and" (name "vip") (compare "or" .equal (.text "b")) =
      .ok rule :=
    joinNamed_eq_ok_iff.2 ⟨.and, Connective.ofKeyword_eq_ok_iff.2 (by decide), rfl⟩
  have hrule : rule.Made true := .joinNamed hname hcompare hjoin
  refine ⟨hrule, fun leaf hleaf => (leaf_of_made hrule leaf hleaf).1, fun h => ?_⟩
  obtain ⟨-, hplain⟩ := leaf_of_made h (.comparison ⟨"or", .equal, .text "b"⟩) (by decide)
  exact (hplain rfl).1 .or (by decide)

/-! ### No more than that -/

/-- **With documents, what can be stored can be made**, and nothing else. -/
theorem made_true_iff : Made true condition ↔ condition.IsStorable :=
  ⟨fun h leaf hleaf => (h.isRead leaf hleaf).isStorable,
    fun h => .ofCanonical rfl (ofCanonical_toCanonical h)⟩

/-- **Without documents, what can be written can be made**, and nothing else. A condition that is
too high for its text to be read is joined from its leaves. -/
theorem made_false_iff : Made false condition ↔ condition.IsWritable := by
  constructor
  · intro h leaf hleaf
    have hread := h.isRead leaf hleaf
    exact Leaf.isWritable_iff.2 ⟨hread.isStorable, hread.isPlain⟩
  · intro h
    induction condition with
    | leaf leaf => exact .ofText (ofText_ruleText_of_height_le h (Nat.zero_le _))
    | join connective left right ihl ihr =>
      obtain ⟨hleft, hright⟩ := (isWritable_join connective left right).1 h
      exact .join (ihl hleft) (ihr hright)

end Condition

end Eligibility

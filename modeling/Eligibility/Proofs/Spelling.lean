import Eligibility.Proofs.Parsing

/-!
# Conditions with every join in parentheses

A condition can be spelled so that no precedence has to be known to read it: every join stands in
parentheses of its own. `Spells` says which tokens do that.

* **They are derived** (`Spells.derives`), so the parser reads them back as the condition if it may
  open enough parentheses.
* **What enough is** (`Spells.nestedWithin_iff`): the height of the condition, the greatest number
  of joins on a way from the root to a leaf. A flat chain is as high as it is long
  (`Condition.height_foldl_join`).
* **And otherwise** (`Spells.tooDeep`): the parser complains about the parentheses, and about
  nothing else. It reads from the left, and whatever it has read before the first parenthesis too
  many was spelled well.
-/

namespace Eligibility

/-- The greatest number of joins on a way from the root to a leaf. -/
def Condition.height : Condition → Nat
  | .leaf _ => 0
  | .join _ left right => max left.height right.height + 1

/-- A flat chain is as high as it is long: each condition is joined to all those before it. -/
theorem Condition.height_foldl_join (connective : Connective) (first : Condition)
    {rest : List Condition} (h : ∀ c ∈ rest, c.height = 0) :
    (rest.foldl (join connective) first).height = first.height + rest.length := by
  induction rest generalizing first with
  | nil => rfl
  | cons next rest ih =>
    rw [List.forall_mem_cons] at h
    rw [List.foldl_cons, ih _ h.2, height, h.1, List.length_cons]
    omega

namespace Grammar

/-! ### Spelled conditions -/

/-- The tokens that spell a condition with every join in parentheses. -/
inductive Spells : List Token → Condition → Prop
  | operand {token : Token} {operand : Operand} (h : token.Denotes operand) :
      Spells [token] (.leaf (.operand operand))
  | compare {field symbol side : Token} {comparator : Comparator} {literal : Literal}
      (hfield : field.kind = .name) (hsymbol : symbol.kind = .comparator comparator)
      (hside : side.Denotes (.literal literal)) :
      Spells [field, symbol, side] (.compare field.text comparator literal)
  | join {opening joint closing : Token} {connective : Connective} {first second : List Token}
      {left right : Condition} (hopening : opening.kind = .leftParen) (hleft : Spells first left)
      (hjoint : joint.kind = .connective connective) (hright : Spells second right)
      (hclosing : closing.kind = .rightParen) :
      Spells (opening :: (first ++ joint :: second ++ [closing])) (.join connective left right)

/-- What spells a condition derives it, at the level of comparisons already. -/
theorem Spells.derives {tokens : List Token} {condition : Condition} (h : Spells tokens condition) :
    Derives .lenient .comparison tokens condition := by
  induction h with
  | operand h => exact .bare rfl h
  | compare hfield hsymbol hside => exact Derives.compare hfield hsymbol hside
  | @join _ _ _ connective _ _ _ _ hopening _ hjoint _ hclosing ihl ihr =>
    cases connective with
    | and => exact .group hopening (.ofConjunction (.and (.ofComparison ihl) hjoint ihr)) hclosing
    | or =>
      exact .group hopening (.or (.ofConjunction (.ofComparison ihl)) hjoint (.ofComparison ihr))
        hclosing

/-- The parentheses go as deep as the condition is high. -/
theorem Spells.nestedWithin_iff {tokens : List Token} {condition : Condition}
    (h : Spells tokens condition) (limit : Int) :
    NestedWithin limit tokens ↔ (condition.height : Int) ≤ limit := by
  induction h generalizing limit with
  | operand h => simp [Condition.height]
  | compare hfield hsymbol hside =>
    simp [Condition.compare, Condition.height, opens_of_name hfield, opens_of_comparator hsymbol]
  | join hopening hleft hjoint hright hclosing ihl ihr =>
    rw [nestedWithin_cons, nestedWithin_append, nestedWithin_append, nestedWithin_cons,
      openParens_append, openParens_cons, hleft.derives.openParens_eq_zero,
      hright.derives.openParens_eq_zero, opens_of_leftParen hopening, opens_of_connective hjoint,
      ihl, ihr]
    simp only [nestedWithin_cons, nestedWithin_nil, and_true, Condition.height]
    omega

/-! ### Too many parentheses -/

/-- At this cursor the reader finds that too many parentheses are open, and says so. -/
def TooDeep {α : Type} (reader : TokenReader α) (cursor : Cursor) : Prop :=
  ∃ position after, reader.run cursor = (.error (.tooDeep position), after)

/-- What is read first decides. -/
theorem TooDeep.bind {α β : Type} {reader : TokenReader α} {cursor : Cursor}
    (h : TooDeep reader cursor) (next : α → TokenReader β) : TooDeep (reader >>= next) cursor := by
  obtain ⟨position, h⟩ := h
  exact ⟨position, Fails.bind h next⟩

/-- No parenthesis may be opened. -/
theorem tooDeep_primary_none {opening : Token} (h : opening.kind = .leftParen)
    (rest : List Token) (depth : Nat) : TooDeep (primary none) ⟨opening :: rest, depth⟩ := by
  refine ⟨opening.position, ⟨rest, depth⟩, ?_⟩
  rw [primary, TokenReader.run_bind, TokenReader.run_next_cons]
  simp only [if_pos h]
  rfl

/-- No parenthesis may be opened further in. -/
theorem tooDeep_primary_some {opening : Token} {inner : TokenReader Condition}
    {tokens : List Token} {depth : Nat} (hopening : opening.kind = .leftParen)
    (h : TooDeep inner ⟨tokens, depth + 1⟩) :
    TooDeep (primary (some inner)) ⟨opening :: tokens, depth⟩ := by
  obtain ⟨position, h⟩ := h
  exact ⟨position, fails_primary hopening h⟩

/-- If the left side of a join is read and the right side goes too deep, so does the join. -/
theorem tooDeep_joint {allowance : Nat} {first second : List Token} {joint : Token}
    {connective : Connective} {left : Condition} {depth : Nat}
    (hleft : Derives .lenient .comparison first left) (hnested : NestedWithin allowance first)
    (hjoint : joint.kind = .connective connective)
    (hright : TooDeep (comparison .lenient (inner? .lenient allowance)) ⟨second, depth⟩) :
    TooDeep (disjunction .lenient (inner? .lenient allowance))
      ⟨first ++ joint :: second, depth⟩ := by
  obtain ⟨position, hright⟩ := hright
  refine ⟨position, ?_⟩
  cases connective with
  | and => exact (fails_and (.ofComparison hleft) hnested hjoint hright).bind _
  | or => exact fails_or (.ofConjunction (.ofComparison hleft)) hnested hjoint (.bind hright _)

/-- **A spelled condition that is too high for the parser** makes it complain that too many
parentheses are open. -/
theorem Spells.tooDeep {tokens : List Token} {condition : Condition} (h : Spells tokens condition)
    {allowance : Nat} (hlow : allowance < condition.height) (rest : List Token) (depth : Nat) :
    TooDeep (comparison .lenient (inner? .lenient allowance)) ⟨tokens ++ rest, depth⟩ := by
  induction h generalizing allowance rest depth with
  | operand => cases hlow
  | compare => cases hlow
  | @join opening joint closing _ first second left right hopening hleft hjoint hright hclosing
      ihl ihr =>
    apply TooDeep.bind
    rw [List.cons_append]
    rcases allowance with _ | below
    · exact tooDeep_primary_none hopening _ _
    apply tooDeep_primary_some hopening
    rw [expression_eq, List.append_assoc, List.append_assoc, List.cons_append]
    by_cases hheight : below < left.height
    · exact ((ihl hheight _ _).bind _).bind _
    · have hdeep : below < right.height := by
        rw [Condition.height] at hlow
        omega
      have hnested : NestedWithin below first := by
        rw [hleft.nestedWithin_iff]
        omega
      exact tooDeep_joint hleft.derives hnested hjoint (ihr hdeep _ _)

end Grammar

end Eligibility

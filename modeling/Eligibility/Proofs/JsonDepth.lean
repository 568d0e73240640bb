import Eligibility.Json.Reader

/-!
# The depth of JSON values

The reader opens a bounded number of arrays and objects inside one another. `depth` counts them in a
value, and no document holds a value that is deeper than the bound (`depth_of_ofText?`). The proof
goes the way of the reader: what a reader of parts gives bounds what the loops over items and
members give, and these bound the array or object.
-/

namespace Eligibility

namespace Json

/-! ### Depth -/

mutual

/-- The number of arrays and objects inside one another. -/
def depth : Json → Nat
  | .array items => itemsDepth items + 1
  | .object members => membersDepth members + 1
  | _ => 0

/-- The greatest depth of items. -/
def itemsDepth : List Json → Nat
  | [] => 0
  | item :: rest => max (depth item) (itemsDepth rest)

/-- The greatest depth of members. -/
def membersDepth : Members → Nat
  | [] => 0
  | (_, value) :: rest => max (depth value) (membersDepth rest)

end

/-- Members are no deeper than a bound when each value is not. -/
theorem membersDepth_le_iff {members : Members} {bound : Nat} :
    membersDepth members ≤ bound ↔ ∀ member ∈ members, depth member.2 ≤ bound := by
  induction members with
  | nil => simp [membersDepth]
  | cons member rest ih => rw [membersDepth, Nat.max_le, ih, List.forall_mem_cons]

/-! ### What documents hold -/

/-- Sorting in a member brings in no other. -/
theorem mem_of_mem_insertMember {name : String} {value : Json} {members : Members}
    {member : String × Json} (h : member ∈ insertMember name value members) :
    member = (name, value) ∨ member ∈ members := by
  induction members with
  | nil => exact .inl (List.mem_singleton.1 h)
  | cons first rest ih =>
    obtain ⟨other, old⟩ := first
    unfold insertMember at h
    split at h
    · exact List.mem_cons.1 h
    · exact (List.mem_cons.1 h).imp_right (List.mem_cons_of_mem _)
    · rcases List.mem_cons.1 h with rfl | h
      · exact .inr List.mem_cons_self
      · exact (ih h).imp_right (List.mem_cons_of_mem _)

/-- Sorting adds no members. -/
theorem mem_of_mem_sortMembers {members : Members} {member : String × Json}
    (h : member ∈ sortMembers members) : member ∈ members := by
  have hfold : ∀ (members sorted : Members),
      member ∈ members.foldl (fun sorted member => insertMember member.1 member.2 sorted) sorted →
        member ∈ sorted ∨ member ∈ members := by
    intro members
    induction members with
    | nil => exact fun sorted h => .inl h
    | cons first rest ih =>
      intro sorted h
      rcases ih _ h with h | h
      · rcases mem_of_mem_insertMember h with rfl | h
        · exact .inr List.mem_cons_self
        · exact .inl h
      · exact .inr (List.mem_cons_of_mem _ h)
  exact (hfold members [] h).resolve_left List.not_mem_nil

/-- A number has no depth. -/
theorem depth_of_number? {cs rest : List Char} {value : Json}
    (h : number? cs = some (value, rest)) : value.depth = 0 := by
  simp only [number?, Option.bind_eq_bind, Option.bind_eq_some_iff, Option.pure_def,
    Option.some.injEq, Prod.mk.injEq] at h
  obtain ⟨_, _, _, _, _, _, n, _, rfl, _⟩ := h
  rfl

/-- What is read without opening a bracket has no depth. -/
theorem depth_of_scalar? {cs rest : List Char} {value : Json}
    (h : scalar? cs = some (value, rest)) : value.depth = 0 := by
  unfold scalar? at h
  split at h
  · cases h
    rfl
  · cases h
    rfl
  · cases h
    rfl
  · obtain ⟨_, _, heq⟩ := Option.map_eq_some_iff.1 h
    cases heq
    rfl
  · exact depth_of_number? h

/-- A reader that gives only values of at most this depth. -/
def GivesWithin (bound : Nat) (reader : CharReader Json) : Prop :=
  ∀ cs value rest, reader cs = some (value, rest) → value.depth ≤ bound

section Bound

variable {bound : Nat} {reader : CharReader Json} {cs rest : List Char}

/-- Items are as deep as what reads them allows. -/
theorem itemsDepth_of_items? {items : List Json} (hreader : GivesWithin bound reader)
    (h : items? reader cs = some (items, rest)) : itemsDepth items ≤ bound := by
  fun_induction items? reader cs generalizing items rest with
  | case1 | case4 | case5 => cases h
  | case2 cs item back hitem =>
    cases h
    exact Nat.max_le.2 ⟨hreader _ _ _ hitem, Nat.zero_le _⟩
  | case3 cs item back hitem _ _ _ ih =>
    obtain ⟨⟨found, behind⟩, hfound, heq⟩ := Option.map_eq_some_iff.1 h
    cases heq
    exact Nat.max_le.2 ⟨hreader _ _ _ hitem, ih hfound⟩

/-- Members are as deep as what reads their values allows. -/
theorem membersDepth_of_members? {members : Members} (hreader : GivesWithin bound reader)
    (h : members? reader cs = some (members, rest)) : membersDepth members ≤ bound := by
  fun_induction members? reader cs generalizing members rest with
  | case1 | case2 | case5 | case6 | case7 | case8 => cases h
  | case3 cs _ _ name _ _ _ _ value back hvalue =>
    cases h
    exact Nat.max_le.2 ⟨hreader _ _ _ hvalue, Nat.zero_le _⟩
  | case4 cs _ _ name _ _ _ _ value back hvalue _ _ _ ih =>
    obtain ⟨⟨found, behind⟩, hfound, heq⟩ := Option.map_eq_some_iff.1 h
    cases heq
    exact Nat.max_le.2 ⟨hreader _ _ _ hvalue, ih hfound⟩

/-- Arrays and objects are one deeper than their parts. -/
theorem depth_of_bracketed? {value : Json} (hreader : GivesWithin bound reader)
    (h : bracketed? reader cs = some (value, rest)) : value.depth ≤ bound + 1 := by
  unfold bracketed? at h
  split at h
  · split at h
    · cases h
      exact Nat.succ_le_succ (Nat.zero_le _)
    · obtain ⟨⟨items, behind⟩, hitems, heq⟩ := Option.map_eq_some_iff.1 h
      cases heq
      exact Nat.succ_le_succ (itemsDepth_of_items? hreader hitems)
  · split at h
    · cases h
      exact Nat.succ_le_succ (Nat.zero_le _)
    · obtain ⟨⟨members, behind⟩, hmembers, heq⟩ := Option.map_eq_some_iff.1 h
      cases heq
      have hdepth := membersDepth_le_iff.1 (membersDepth_of_members? hreader hmembers)
      exact Nat.succ_le_succ (membersDepth_le_iff.2 fun member hmember =>
        hdepth member (mem_of_mem_sortMembers hmember))
  · cases h

end Bound

/-- No value that is read is deeper than the bound. -/
theorem givesWithin_value? (bound : Nat) : GivesWithin bound (value? bound) := by
  induction bound with
  | zero =>
    intro cs value rest h
    rw [value?] at h
    split at h
    · cases h
    · exact Nat.le_of_eq (depth_of_scalar? h)
  | succ bound ih =>
    intro cs value rest h
    rw [value?] at h
    split at h
    · exact depth_of_bracketed? ih h
    · rw [depth_of_scalar? h]
      exact Nat.zero_le _

/-- **No document holds a value that is too deep.** -/
theorem depth_of_ofText? {document : String} {value : Json} (h : ofText? document = some value) :
    value.depth ≤ maxDepth := by
  unfold ofText? at h
  split at h
  · rename_i found rest hfound
    split at h
    · cases h
      exact givesWithin_value? maxDepth _ _ _ hfound
    · cases h
  · cases h

end Json

end Eligibility

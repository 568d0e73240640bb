import Eligibility.Proofs.CanonicalNodes

/-!
# The schema of canonical documents

A document comes from outside and can be any JSON value. Which values hold a condition is said here
without a reader: `Encodes` is the schema, which looks at the members it names and at no others.
What is wrong with a value that does not fit is said without a reader too: `FaultAt` lists the
faults of all nodes, each with the route that leads to its node, and the reader reports the one that
comes first on the way down and from left to right.

* **Reading** (`ofCanonical_eq_head`): a node is read by itself, and then its sides.
* **The first fault** (`reports_ofCanonical`): by recursion on the document. A fault of a node comes
  before those of its sides; the faults of the right side count when the left side has none.
* **Other members** (`ofCanonical_congr`): by induction on what two documents have in common.
* All of this together is `ofCanonical_decides_schema`.
-/

namespace Eligibility

namespace Canonical

/-! ### What a document encodes -/

/-- The condition that a document is. -/
inductive Encodes : Json → Condition → Prop
  | leaf {members operand : Json.Members} {l : Leaf}
      (htype : Json.member? members "type" = some (.text "operand"))
      (hoperand : Json.member? members "operand" = some (.object operand))
      (h : EncodesLeaf operand l) : Encodes (.object members) (.leaf l)
  | join {members : Json.Members} {connective : Connective} {first second : Json}
      {left right : Condition} (htype : Json.member? members "type" = some (.text "operator"))
      (hoperator : Json.member? members "operator" = some (.text connective.keyword))
      (hfirst : Json.member? members "left" = some first) (hleft : Encodes first left)
      (hsecond : Json.member? members "right" = some second) (hright : Encodes second right) :
      Encodes (.object members) (.join connective left right)

/-- **A document is read as the condition that it encodes**, and as no other. -/
theorem ofCanonical_eq_ok_iff {value : Json} {condition : Condition} :
    Condition.ofCanonical value = .ok condition ↔ Encodes value condition := by
  constructor
  · intro h
    induction condition generalizing value with
    | leaf l =>
      obtain ⟨members, operand, rfl, htype, hoperand, hl⟩ := Condition.ofCanonical_eq_leaf_iff.1 h
      exact .leaf (nodeType_eq_ok_iff.1 htype) hoperand (leaf_eq_ok_iff.1 hl)
    | join c left right ihl ihr =>
      obtain ⟨members, operator, first, second, rfl, htype, hoperator, hc, hfirst, hleft, hsecond,
        hright⟩ := Condition.ofCanonical_eq_join_iff.1 h
      rw [connective_eq_ok_iff.1 hc] at hoperator
      exact .join (nodeType_eq_ok_iff.1 htype) hoperator hfirst (ihl hleft) hsecond
        (ihr hright)
  · intro h
    induction h with
    | leaf htype hoperand hl =>
      exact Condition.ofCanonical_eq_leaf_iff.2 ⟨_, _, rfl, nodeType_eq_ok_iff.2 htype,
        hoperand, leaf_eq_ok_iff.2 hl⟩
    | join htype hoperator hfirst _ hsecond _ ihl ihr =>
      exact Condition.ofCanonical_eq_join_iff.2 ⟨_, _, _, _, rfl, nodeType_eq_ok_iff.2 htype,
        hoperator, connective_keyword _, hfirst, ihl, hsecond, ihr⟩

/-! ### What is wrong with a document -/

/-- The two sides of a join. -/
inductive Side where
  | left
  | right
deriving DecidableEq, Repr

/-- The name of the member that holds a side. -/
def Side.member : Side → String
  | .left => "left"
  | .right => "right"

/-- The left side comes before the right one. Routes are compared side by side from the root, so
that a node comes before what is below it, and that before what is further to the right. -/
instance : LT Side := ⟨fun first second => first = .left ∧ second = .right⟩

instance : Std.Asymm (α := Side) (· < ·) :=
  ⟨fun _ _ h h' => Side.noConfusion (h.1.symm.trans h'.2)⟩

/-- What is wrong with a document, and the route to where that is. The place of a missing side is
where it should be. Members with the name of a side belong to the document only below a join. -/
inductive FaultAt : Json → List Side → CanonicalError → Prop
  | notAnObject {value : Json} (h : ∀ members, value ≠ .object members) :
      FaultAt value [] (.malformed .notAnObject)
  | head {members : Json.Members} {e : CanonicalError} (h : HeadFault members e) :
      FaultAt (.object members) [] e
  | missing {members : Json.Members} {side : Side}
      (htype : Json.member? members "type" = some (.text "operator"))
      (h : Json.member? members side.member = none) :
      FaultAt (.object members) [side] (.malformed (.missing side.member))
  | inside {members : Json.Members} {side : Side} {value : Json} {route : List Side}
      {e : CanonicalError} (htype : Json.member? members "type" = some (.text "operator"))
      (hside : Json.member? members side.member = some value) (h : FaultAt value route e) :
      FaultAt (.object members) (side :: route) e

/-- One of these faults comes before all others, and there is no other at its place. -/
def IsFirst (fault : List Side → CanonicalError → Prop) (route : List Side) (e : CanonicalError) :
    Prop :=
  fault route e ∧ ∀ other e', fault other e' → route < other ∨ other = route ∧ e' = e

/-- There is one first fault. -/
theorem IsFirst.unique {fault : List Side → CanonicalError → Prop} {first second : List Side}
    {e e' : CanonicalError} (h : IsFirst fault first e) (h' : IsFirst fault second e') :
    e' = e := by
  obtain hlt | ⟨-, heq⟩ := h.2 second e' h'.1
  · obtain hgt | ⟨-, heq⟩ := h'.2 first e h.1
    · exact absurd hgt (List.lt_asymm hlt)
    · exact heq.symm
  · exact heq

/-! ### Nodes and their sides -/

/-- Reads a side of a join. -/
def side (members : Json.Members) (side : Side) : Except CanonicalError Condition :=
  require members side.member >>= Condition.ofCanonical

/-- An object is read node first, and then its sides. -/
theorem ofCanonical_eq_head (members : Json.Members) :
    Condition.ofCanonical (.object members) = do
      match ← head members with
      | .leaf l => return .leaf l
      | .join connective =>
        let left ← side members .left
        let right ← side members .right
        return .join connective left right := by
  rw [Condition.ofCanonical_object]
  unfold head side
  rcases nodeType members with e | (_ | _)
  · rfl
  · rcases require members "operand" with e | found
    · rfl
    · cases found with
      | object members =>
        show (leaf members).map _ = (leaf members).map _ >>= _
        cases leaf members <;> rfl
      | _ => rfl
  · rcases require members "operator" with e | found
    · rfl
    · rcases hconnective : connective found with e | c
      · simp only [bind, Except.bind, Except.map, hconnective]
      · simp only [bind, Except.bind, Except.map, hconnective, pure, Except.pure, Side.member]
        rcases require members "left" with e | first
        · rfl
        · simp only
          rcases Condition.ofCanonical first with e | left
          · rfl
          · rcases require members "right" <;> rfl

/-- What is wrong with a side of a join, which may be missing. -/
def SideFaultAt (members : Json.Members) (side : Side) (route : List Side) (e : CanonicalError) :
    Prop :=
  (Json.member? members side.member = none ∧ route = [] ∧ e = .malformed (.missing side.member)) ∨
    ∃ value, Json.member? members side.member = some value ∧ FaultAt value route e

section Reading

variable {members : Json.Members} {c : Connective} {route : List Side} {e : CanonicalError}

/-- What is wrong with a join that has no fault by itself is wrong with one of its sides. -/
theorem faultAt_join_iff (hhead : head members = .ok (.join c)) :
    FaultAt (.object members) route e ↔
      ∃ side rest, route = side :: rest ∧ SideFaultAt members side rest e := by
  constructor
  · rintro (hobject | hfault | ⟨-, hmissing⟩ | ⟨-, hside, hfault⟩)
    · exact absurd rfl (hobject members)
    · rw [← head_eq_error_iff, hhead] at hfault
      cases hfault
    · exact ⟨_, [], rfl, .inl ⟨hmissing, rfl, rfl⟩⟩
    · exact ⟨_, _, rfl, .inr ⟨_, hside, hfault⟩⟩
  · have htype := type_of_head_join hhead
    rintro ⟨side, rest, rfl, ⟨hmissing, rfl, rfl⟩ | ⟨value, hside, hfault⟩⟩
    · exact .missing htype hmissing
    · exact .inside htype hside hfault

/-- **The first fault of a join** is the first one of its left side, or, when that has none, of its
right side. -/
theorem isFirst_join {s : Side} (hhead : head members = .ok (.join c))
    (h : IsFirst (SideFaultAt members s) route e)
    (hleft : s = .right → ∀ route e, ¬ SideFaultAt members .left route e) :
    IsFirst (FaultAt (.object members)) (s :: route) e := by
  refine ⟨(faultAt_join_iff hhead).2 ⟨s, route, rfl, h.1⟩, fun other e' hother => ?_⟩
  obtain ⟨side, rest, rfl, hrest⟩ := (faultAt_join_iff hhead).1 hother
  rw [List.cons_lt_cons_iff, List.cons.injEq]
  by_cases hside : side = s
  · rw [hside] at hrest ⊢
    obtain hlt | ⟨hroute, he⟩ := h.2 rest e' hrest
    · exact .inl (.inr ⟨rfl, hlt⟩)
    · exact .inr ⟨⟨rfl, hroute⟩, he⟩
  · -- the fault is on the other side, which can only be the right one
    cases s with
    | left =>
      cases side with
      | left => exact absurd rfl hside
      | right => exact .inl (.inl ⟨rfl, rfl⟩)
    | right =>
      cases side with
      | left => exact absurd hrest (hleft rfl rest e')
      | right => exact absurd rfl hside

/-! ### The first fault -/

/-- An answer fits these faults: it is a condition when there are none, and else the first one. -/
structure Reports (fault : List Side → CanonicalError → Prop)
    (answer : Except CanonicalError Condition) : Prop where
  none_of_ok : ∀ condition, answer = .ok condition → ∀ route e, ¬ fault route e
  first_of_error : ∀ e, answer = .error e → ∃ route, IsFirst fault route e

/-- The answer for a side fits its faults when that for its document does. -/
theorem reports_side (s : Side)
    (h : ∀ value, Json.member? members s.member = some value →
      Reports (FaultAt value) (Condition.ofCanonical value)) :
    Reports (SideFaultAt members s) (side members s) := by
  unfold side
  rcases hside : Json.member? members s.member with _ | value
  · rw [require_eq_error_iff.2 ⟨hside, rfl⟩]
    constructor
    · rintro _ ⟨⟩
    · rintro _ ⟨⟩
      refine ⟨[], .inl ⟨hside, rfl, rfl⟩, ?_⟩
      rintro other e' (⟨-, hother, he'⟩ | ⟨value, hvalue, -⟩)
      · exact .inr ⟨hother, he'⟩
      · rw [hside] at hvalue
        cases hvalue
  · rw [require_eq_ok_iff.2 hside]
    have hsame : SideFaultAt members s = FaultAt value := by
      funext route e
      simp only [SideFaultAt, hside, reduceCtorEq, false_and, false_or, Option.some.injEq,
        exists_eq_left']
    rw [hsame]
    exact h value hside

/-- The answer for a join fits its faults when the answers for its sides do. -/
theorem reports_join (hhead : head members = .ok (.join c))
    (hleft : Reports (SideFaultAt members .left) (side members .left))
    (hright : Reports (SideFaultAt members .right) (side members .right)) :
    Reports (FaultAt (.object members)) (Condition.ofCanonical (.object members)) := by
  have hread : Condition.ofCanonical (.object members) = do
      let left ← side members .left
      let right ← side members .right
      return .join c left right := by
    rw [ofCanonical_eq_head, hhead]
    rfl
  rw [hread]
  constructor
  · intro condition h route e hfault
    obtain ⟨left, hl, h⟩ := Except.bind_eq_ok_iff.1 h
    obtain ⟨right, hr, -⟩ := Except.bind_eq_ok_iff.1 h
    obtain ⟨_ | _, rest, -, hside⟩ := (faultAt_join_iff hhead).1 hfault
    · exact hleft.none_of_ok left hl rest e hside
    · exact hright.none_of_ok right hr rest e hside
  · intro e h
    obtain hl | ⟨left, hl, h⟩ := Except.bind_eq_error_iff.1 h
    · obtain ⟨route, hfirst⟩ := hleft.first_of_error e hl
      exact ⟨.left :: route, isFirst_join hhead hfirst (by simp)⟩
    obtain hr | ⟨right, -, hpure⟩ := Except.bind_eq_error_iff.1 h
    · obtain ⟨route, hfirst⟩ := hright.first_of_error e hr
      exact ⟨.right :: route, isFirst_join hhead hfirst fun _ => hleft.none_of_ok left hl⟩
    · cases hpure

/-- The answer for a leaf fits, since nothing is wrong with it. -/
theorem reports_leaf {l : Leaf} (hhead : head members = .ok (.leaf l)) :
    Reports (FaultAt (.object members)) (Condition.ofCanonical (.object members)) := by
  have htype := type_of_head_leaf hhead
  rw [ofCanonical_eq_head, hhead]
  constructor
  · rintro condition - route e (hobject | hfault | ⟨hother, -⟩ | ⟨hother, -, -⟩)
    · exact absurd rfl (hobject members)
    · rw [← head_eq_error_iff, hhead] at hfault
      cases hfault
    · rw [htype] at hother
      simp at hother
    · rw [htype] at hother
      simp at hother
  · rintro e ⟨⟩

/-- The answer for a node with a fault of its own is that fault, whatever is below it. -/
theorem reports_headFault (hhead : head members = .error e) :
    Reports (FaultAt (.object members)) (Condition.ofCanonical (.object members)) := by
  rw [ofCanonical_eq_head, hhead]
  constructor
  · rintro _ ⟨⟩
  · rintro _ ⟨⟩
    refine ⟨[], .head (head_eq_error_iff.1 hhead), ?_⟩
    rintro other e' (hobject | hfault | ⟨-, -⟩ | ⟨-, -, -⟩)
    · exact absurd rfl (hobject members)
    · rw [← head_eq_error_iff, hhead] at hfault
      cases hfault
      exact .inr ⟨rfl, rfl⟩
    -- all that is wrong below the node comes behind the node
    · exact .inl (List.nil_lt_cons _ _)
    · exact .inl (List.nil_lt_cons _ _)

/-- What is not an object has no other fault than that. -/
theorem reports_notAnObject {value : Json} (h : ∀ members, value ≠ .object members) :
    Reports (FaultAt value) (Condition.ofCanonical value) := by
  have hread : Condition.ofCanonical value = .error (.malformed .notAnObject) := by
    rw [Condition.ofCanonical]
    exact h
  rw [hread]
  constructor
  · rintro _ ⟨⟩
  · rintro _ ⟨⟩
    refine ⟨[], .notAnObject h, ?_⟩
    rintro other e' (_ | _ | _ | _)
    · exact .inr ⟨rfl, rfl⟩
    all_goals exact absurd rfl (h _)

end Reading

/-- **The answer for a document is its first fault**, or a condition if there is none. -/
theorem reports_ofCanonical (value : Json) :
    Reports (FaultAt value) (Condition.ofCanonical value) := by
  cases value with
  | object members =>
    have hsides : ∀ s, Reports (SideFaultAt members s) (side members s) :=
      fun s => reports_side s fun value _hside => reports_ofCanonical value
    rcases hhead : head members with e | (l | c)
    · exact reports_headFault hhead
    · exact reports_leaf hhead
    · exact reports_join hhead (hsides .left) (hsides .right)
  | _ => exact reports_notAnObject (by simp)
termination_by sizeOf value
decreasing_by exact Json.sizeOf_member? _hside

/-! ### Other members -/

/-- These documents agree in the members that count: in the type of each node, and below that in
the operand of a leaf, or in the connective and the sides of a join. -/
inductive Alike : Json → Json → Prop
  | same (value : Json) : Alike value value
  | unknown {members others : Json.Members}
      (htype : Json.member? others "type" = Json.member? members "type")
      (hoperand : Json.member? members "type" ≠ some (.text "operand"))
      (hoperator : Json.member? members "type" ≠ some (.text "operator")) :
      Alike (.object members) (.object others)
  | operand {members others : Json.Members}
      (htype : Json.member? members "type" = some (.text "operand"))
      (hother : Json.member? others "type" = some (.text "operand"))
      (h : Json.member? others "operand" = Json.member? members "operand" ∨
        ∃ first second, Json.member? members "operand" = some (.object first) ∧
          Json.member? others "operand" = some (.object second) ∧ LeafAlike first second) :
      Alike (.object members) (.object others)
  | operator {members others : Json.Members}
      (htype : Json.member? members "type" = some (.text "operator"))
      (hother : Json.member? others "type" = some (.text "operator"))
      (hoperator : Json.member? others "operator" = Json.member? members "operator")
      (hmissing : ∀ side : Side,
        Json.member? members side.member = none ↔ Json.member? others side.member = none)
      (h : ∀ (side : Side) (first second : Json), Json.member? members side.member = some first →
        Json.member? others side.member = some second → Alike first second) :
      Alike (.object members) (.object others)

/-- **Members that are not named in the schema are ignored**, at every level. -/
theorem ofCanonical_congr {value other : Json} (h : Alike value other) :
    Condition.ofCanonical other = Condition.ofCanonical value := by
  induction h with
  | same value => rfl
  | @unknown members others htype hoperand hoperator =>
    rcases hnode : nodeType members with e | (_ | _)
    · have hother := (nodeType_congr htype).trans hnode
      rw [ofCanonical_eq_head, ofCanonical_eq_head, head_of_error hnode, head_of_error hother]
      rfl
    · exact absurd (nodeType_eq_ok_iff.1 hnode) hoperand
    · exact absurd (nodeType_eq_ok_iff.1 hnode) hoperator
  | @operand members others htype hother h =>
    have hoperand : (require others "operand" >>= operand) =
        (require members "operand" >>= operand) := by
      rcases h with h | ⟨first, second, hfirst, hsecond, halike⟩
      · rw [require_congr h]
      · rw [require_eq_ok_iff.2 hfirst, require_eq_ok_iff.2 hsecond]
        exact leaf_congr halike
    have hhead : head others = head members := by
      rw [head_of_operand (nodeType_eq_ok_iff.2 htype),
        head_of_operand (nodeType_eq_ok_iff.2 hother), hoperand]
    rw [ofCanonical_eq_head, ofCanonical_eq_head, hhead]
    -- the sides of these documents may differ, but neither is a join
    rcases hjoin : head members with e | (l | c)
    · rfl
    · rfl
    · rw [type_of_head_join hjoin] at htype
      simp at htype
  | @operator members others htype hother hoperator hmissing _ ih =>
    have hhead : head others = head members := by
      rw [head_of_operator (nodeType_eq_ok_iff.2 htype),
        head_of_operator (nodeType_eq_ok_iff.2 hother), require_congr hoperator]
    have hside : ∀ s, side others s = side members s := by
      intro s
      unfold side
      rcases hfirst : Json.member? members s.member with _ | first
      · rw [require_congr (((hmissing s).1 hfirst).trans hfirst.symm)]
      · obtain ⟨second, hsecond⟩ := Option.ne_none_iff_exists'.1
          fun hnone => Option.some_ne_none first (hfirst.symm.trans ((hmissing s).2 hnone))
        rw [require_eq_ok_iff.2 hfirst, require_eq_ok_iff.2 hsecond]
        exact ih s first second hfirst hsecond
    rw [ofCanonical_eq_head, ofCanonical_eq_head, hhead, hside, hside]

/-! ### The schema -/

/-- **The reader of documents decides the schema.** A JSON value is read as a condition exactly when
it encodes it. It is refused exactly when something is wrong with it, and then the answer is the
first fault on the way down and from left to right: that of a node itself before those of its sides,
and those of the left side before those of the right one, which may be that there is no right side.
And values that differ in no other members than those that do not count have the same answer. -/
theorem ofCanonical_decides_schema (value : Json) :
    (∀ condition, Condition.ofCanonical value = .ok condition ↔ Encodes value condition) ∧
    (∀ e, Condition.ofCanonical value = .error e ↔ ∃ route, IsFirst (FaultAt value) route e) ∧
    ∀ other, Alike value other → Condition.ofCanonical other = Condition.ofCanonical value := by
  have hreports := reports_ofCanonical value
  refine ⟨fun condition => ofCanonical_eq_ok_iff, fun e => ⟨hreports.first_of_error e, ?_⟩,
    fun other => ofCanonical_congr⟩
  rintro ⟨route, hfirst⟩
  rcases hread : Condition.ofCanonical value with cause | condition
  · obtain ⟨_, hcause⟩ := hreports.first_of_error cause hread
    rw [hcause.unique hfirst]
  · exact absurd hfirst.1 (hreports.none_of_ok condition hread route e)

/-- A join whose left side has no known comparator and no literal, and which has no right side. The
answer is the comparator; that the right side is missing comes behind it. -/
theorem ofCanonical_decides_schema_of_two_faults :
    let operand : Json.Members := [("field", .text "age"), ("op", .text "=="), ("value", .null)]
    let left : Json.Members := [("operand", .object operand), ("type", .text "operand")]
    let document : Json.Members :=
      [("left", .object left), ("operator", .text "AND"), ("type", .text "operator")]
    FaultAt (.object document) [.right] (.malformed (.missing "right")) ∧
      ∃ route, IsFirst (FaultAt (.object document)) route (.unsupportedComparator "==") := by
  intro operand left document
  have hleft : side document .left = .error (.unsupportedComparator "==") := by
    show Condition.ofCanonical (.object left) = _
    rw [ofCanonical_eq_head]
    rfl
  have hread : Condition.ofCanonical (.object document) =
      .error (.unsupportedComparator "==") := by
    have hhead : head document = .ok (.join .and) := rfl
    rw [ofCanonical_eq_head, hhead]
    show (side document .left >>= _) = _
    rw [hleft]
    rfl
  exact ⟨.missing rfl rfl, ((ofCanonical_decides_schema _).2.1 _).1 hread⟩

end Canonical

end Eligibility

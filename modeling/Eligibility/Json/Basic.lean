import Eligibility.Binary64.Rounding

/-!
# JSON values

Rule trees and records are exchanged as JSON. A number keeps the way it was written as far as that
can matter: whole numbers between `-2 ^ 63` and `2 ^ 64` stay whole, all others are finite binary64
numbers. An object is a list of members; readers hand over lists that are sorted by name and hold no
name twice.

Main statements: `isFinite_toBinary64`, that every JSON number is a finite one, and
`sizeOf_member?`, that a member is smaller than its object, on which recursion into objects rests.
-/

namespace Eligibility

namespace Json

/-- A number in a JSON document. -/
inductive Number where
  /-- A whole number that fits 64 bits, with or without a sign. -/
  | integer (value : Int) (lower : -2 ^ 63 ≤ value) (upper : value < 2 ^ 64)
  /-- Any other number, rounded. -/
  | real (value : Binary64) (finite : value.isFinite = true)
deriving DecidableEq, Repr

end Json

/-- A JSON value. -/
inductive Json where
  | null
  | boolean (value : Bool)
  | number (value : Json.Number)
  | text (value : String)
  | array (items : List Json)
  | object (members : List (String × Json))
deriving Inhabited, Repr

namespace Json

/-- The members of an object. -/
abbrev Members := List (String × Json)

/-- The member of a given name. -/
def member? (members : Members) (name : String) : Option Json := members.lookup name

/-- Adds a member to a sorted list; a member of the same name is replaced. -/
def insertMember (name : String) (value : Json) : Members → Members
  | [] => [(name, value)]
  | (other, old) :: rest =>
    match compare name other with
    | .lt => (name, value) :: (other, old) :: rest
    | .eq => (name, value) :: rest
    | .gt => (other, old) :: insertMember name value rest

/-- The binary64 number that is nearest to a JSON number. -/
def Number.toBinary64 : Number → Binary64
  | .integer value .. => Binary64.ofInt value
  | .real value _ => value

/-- A whole number as a JSON number, if it fits. -/
def Number.ofInt? (value : Int) : Option Number :=
  if h : -2 ^ 63 ≤ value ∧ value < 2 ^ 64 then some (.integer value h.1 h.2) else none

/-- A binary64 number as a JSON value. There is no way to write a number that is not finite; it
becomes `null`. -/
def ofBinary64 (x : Binary64) : Json :=
  if h : x.isFinite = true then .number (.real x h) else .null

/-- The text of a JSON string. -/
def asText? : Json → Option String
  | .text value => some value
  | _ => none

/-- The members of a JSON object. -/
def asObject? : Json → Option Members
  | .object members => some members
  | _ => none

/-! ### Members -/

/-- Nothing is found among no members. -/
@[simp] theorem member?_nil (name : String) : member? [] name = none := rfl

/-- A member that is found is one of the list. -/
theorem mem_of_member? {members : Members} {name : String} {value : Json}
    (h : member? members name = some value) : (name, value) ∈ members := by
  induction members with
  | nil => simp at h
  | cons entry rest ih =>
    obtain ⟨other, old⟩ := entry
    by_cases hname : name = other
    · subst hname
      simp only [member?, List.lookup_cons_self, Option.some.injEq] at h
      simp [h]
    · have hne : (name == other) = false := by simpa using hname
      rw [member?, List.lookup_cons, hne] at h
      exact List.mem_cons_of_mem _ (ih h)

/-- A member is smaller than its object. -/
theorem sizeOf_member? {members : Members} {name : String} {value : Json}
    (h : member? members name = some value) : sizeOf value < sizeOf (Json.object members) := by
  have hmem := List.sizeOf_lt_of_mem (mem_of_member? h)
  simp only [Prod.mk.sizeOf_spec] at hmem
  simp only [Json.object.sizeOf_spec]
  omega

/-! ### Numbers -/

/-- A whole number that fits 64 bits is far from the infinite ones. -/
theorem isFinite_ofInt {n : Int} (lower : -2 ^ 63 ≤ n) (upper : n < 2 ^ 64) :
    (Binary64.ofInt n).isFinite = true := by
  have habs : n.natAbs ≤ 2 ^ 64 := by omega
  have hlt : n.natAbs * unitsPerOne / 1 < 2 ^ 2000 := by
    rw [Nat.div_one]
    calc n.natAbs * unitsPerOne ≤ 2 ^ 64 * unitsPerOne := Nat.mul_le_mul_right _ habs
      _ < 2 ^ 2000 := by decide +kernel
  rw [Binary64.ofInt, Binary64.ofRatio,
    Binary64.ofRank_of_lt (nearestRank_lt_topRank (Nat.le_refl _) hlt)]
  rfl

/-- Every JSON number is a finite one. -/
theorem isFinite_toBinary64 (n : Number) : n.toBinary64.isFinite = true := by
  cases n with
  | integer value lower upper => exact isFinite_ofInt lower upper
  | real value finite => exact finite

/-- A finite number is written as a number. -/
@[simp] theorem ofBinary64_of_isFinite {x : Binary64} (h : x.isFinite = true) :
    ofBinary64 x = .number (.real x h) := by
  simp [ofBinary64, h]

end Json

end Eligibility

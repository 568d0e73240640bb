import Eligibility.Text.Basic

/-!
# Connectives

The two ways of joining rules. Where a connective is named by a user any case will do; where it is
part of a stored tree only the upper case form is accepted.

Main statements: `ofKeyword_keyword` and `ofKeyword_eq_ok_iff`, that exactly the spellings of `AND`
and `OR` in any case are accepted.
-/

namespace Eligibility

/-- A way of joining two rules. -/
inductive Connective where
  | and
  | or
deriving DecidableEq, Repr, Inhabited

/-- A text was given as the name of a connective and is none. -/
structure UnknownConnective where
  /-- The text as it was given. -/
  name : String
deriving DecidableEq, Repr

/-- What is said about a text that names no connective. -/
def UnknownConnective.message (e : UnknownConnective) : String :=
  "Invalid combine operator '" ++ e.name ++ "'. Use one of: AND, OR"

namespace Connective

/-- How a connective is written. -/
def keyword : Connective → String
  | and => "AND"
  | or => "OR"

/-- The connective with exactly this keyword. -/
def ofExactKeyword? (text : String) : Option Connective :=
  if text = "AND" then some and else if text = "OR" then some or else none

/-- The connective that a text names in any case. -/
def ofKeyword (text : String) : Except UnknownConnective Connective :=
  match ofExactKeyword? (Text.upperCase text) with
  | some c => .ok c
  | none => .error ⟨text⟩

/-- The value of a joined rule. -/
def apply : Connective → Bool → Bool → Bool
  | and, left, right => left && right
  | or, left, right => left || right

/-- The keyword of a connective names it. -/
@[simp] theorem ofExactKeyword?_keyword (c : Connective) : ofExactKeyword? c.keyword = some c := by
  cases c <;> decide

/-- A connective has one keyword. -/
theorem keyword_of_ofExactKeyword? {text : String} {c : Connective}
    (h : ofExactKeyword? text = some c) : c.keyword = text := by
  unfold ofExactKeyword? at h
  split at h
  · rename_i htext
    cases h
    exact htext.symm
  · split at h
    · rename_i htext
      cases h
      exact htext.symm
    · cases h

/-- Exactly the spellings of the keyword name a connective. -/
theorem ofKeyword_eq_ok_iff {text : String} {c : Connective} :
    ofKeyword text = .ok c ↔ Text.upperCase text = c.keyword := by
  unfold ofKeyword
  constructor
  · intro h
    split at h
    · cases h
      rename_i hc
      exact (keyword_of_ofExactKeyword? hc).symm
    · simp at h
  · intro h
    simp [h]

/-- The keyword of a connective is among the spellings that name it. -/
@[simp] theorem ofKeyword_keyword (c : Connective) : ofKeyword c.keyword = .ok c := by
  rw [ofKeyword_eq_ok_iff]
  cases c <;> decide +kernel

end Connective

end Eligibility

import Eligibility.Text.WordTable

/-!
# Words

Which characters make a name, and where a word ends. A name of a rule is made of ASCII letters,
digits and underscores and does not start with a digit. The end of a keyword is judged more widely:
a keyword ends only where no word character of the Unicode standard follows it.

Main statements: `isWord_of_isNameRest` (a character that goes on a name goes on a word) and
`isName_iff` (what a name is).
-/

namespace Eligibility.Text

/-- Can this character start a name? -/
def isNameStart (c : Char) : Bool := c.isAlpha || c == '_'

/-- Can this character go on a name? -/
def isNameRest (c : Char) : Bool := c.isAlphanum || c == '_'

/-- Is this character part of a word? ASCII word characters are those of names; beyond ASCII the
table decides. -/
def isWord (c : Char) : Bool :=
  if c.toNat < 128 then isNameRest c
  else wordRanges.any fun range => range.1 ≤ c.toNat && c.toNat ≤ range.2

/-- Do these characters make a name? -/
def isNameChars : List Char → Bool
  | [] => false
  | c :: rest => isNameStart c && rest.all isNameRest

/-- Is this text a name? -/
def isName (text : String) : Bool := isNameChars text.toList

/-! ### Names and words -/

/-- The letters and digits that core knows are ASCII characters. -/
theorem toNat_lt_of_isAlphanum {c : Char} (h : c.isAlphanum = true) : c.toNat < 128 := by
  have hn : c.toNat = c.val.toNat := rfl
  delta Char.isAlphanum Char.isAlpha Char.isUpper Char.isLower Char.isDigit at h
  simp [UInt32.le_iff_toNat_le, ← hn] at h
  omega

/-- A character that can start a name can go on a name. -/
theorem isNameRest_of_isNameStart {c : Char} (h : isNameStart c = true) : isNameRest c = true := by
  simp only [isNameStart, isNameRest, Char.isAlphanum, Bool.or_eq_true] at h ⊢
  rcases h with h | h
  · exact .inl (.inl h)
  · exact .inr h

/-- A character that can go on a name is part of a word. -/
theorem isWord_of_isNameRest {c : Char} (h : isNameRest c = true) : isWord c = true := by
  have hlt : c.toNat < 128 := by
    simp only [isNameRest, Bool.or_eq_true, beq_iff_eq] at h
    rcases h with h | rfl
    · exact toNat_lt_of_isAlphanum h
    · decide
  simp [isWord, hlt, h]

/-- A name is a character that starts one, followed by characters that go on. -/
theorem isName_iff {text : String} :
    isName text = true ↔ ∃ c rest, text.toList = c :: rest ∧ isNameStart c = true ∧
      ∀ d ∈ rest, isNameRest d = true := by
  unfold isName
  cases text.toList with
  | nil => simp [isNameChars]
  | cons c rest =>
    simp only [isNameChars, Bool.and_eq_true, List.all_eq_true, List.cons.injEq]
    exact ⟨fun h => ⟨c, rest, ⟨rfl, rfl⟩, h⟩, fun ⟨_, _, ⟨hc, hr⟩, h⟩ => hc ▸ hr ▸ h⟩

end Eligibility.Text

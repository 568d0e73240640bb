/-!
# Characters and texts

What several kinds of text have in common. Blank characters separate tokens and surround numbers.
They are the characters with the Unicode property `White_Space`; other characters without a visible
form, such as the zero width space, are not blank. Keywords and names of settings are read in any
case, where only the ASCII letters have two cases and every other character is left as it is.
Places, lengths and whole numbers are written in decimal digits, without a sign and without zeros at
the front.

Main statement: `trimmed_eq_nil_iff`, that a text trims to nothing exactly when all of it is blank.
-/

namespace Eligibility.Text

/-! ### Letter case -/

/-- A text with its ASCII letters in upper case. -/
def upperCase (text : String) : String := String.ofList (text.toList.map Char.toUpper)

/-- A text with its ASCII letters in lower case. -/
def lowerCase (text : String) : String := String.ofList (text.toList.map Char.toLower)

/-- Case is changed character by character. -/
@[simp] theorem toList_upperCase (text : String) :
    (upperCase text).toList = text.toList.map Char.toUpper := by
  simp [upperCase]

/-! ### Whole numbers -/

/-- The decimal digits of a number. -/
def decimal (n : Nat) : String := String.ofList (Nat.toDigits 10 n)

/-- The characters of a number are its digits. -/
@[simp] theorem toList_decimal (n : Nat) : (decimal n).toList = Nat.toDigits 10 n := by
  simp [decimal]

/-! ### Blank text -/

/-- Is this character blank? -/
def isBlank (c : Char) : Bool :=
  let n := c.toNat
  (9 ≤ n && n ≤ 13) || n == 0x20 || n == 0x85 || n == 0xA0 || n == 0x1680 ||
    (0x2000 ≤ n && n ≤ 0x200A) || n == 0x2028 || n == 0x2029 || n == 0x202F || n == 0x205F ||
    n == 0x3000

/-- Removes the blank characters at both ends. -/
def trimmed (cs : List Char) : List Char :=
  ((cs.dropWhile isBlank).reverse.dropWhile isBlank).reverse

/-- Is all of this text blank? The empty text is. -/
def isAllBlank (text : String) : Bool := text.toList.all isBlank

/-- Dropping the blanks in front leaves nothing exactly when there is nothing else. -/
theorem dropBlank_eq_nil_iff {cs : List Char} :
    cs.dropWhile isBlank = [] ↔ ∀ c ∈ cs, isBlank c = true := by
  induction cs with
  | nil => simp
  | cons c cs ih => by_cases h : isBlank c = true <;> simp [h, ih]

/-- A text trims to nothing exactly when all of it is blank. -/
theorem trimmed_eq_nil_iff {cs : List Char} : trimmed cs = [] ↔ ∀ c ∈ cs, isBlank c = true := by
  rw [trimmed, List.reverse_eq_nil_iff, dropBlank_eq_nil_iff]
  constructor
  · intro h c hc
    rcases hd : cs.dropWhile isBlank with _ | ⟨d, rest⟩
    · exact dropBlank_eq_nil_iff.1 hd c hc
    · have hblank : isBlank d = true := h d (by simp [hd])
      have := List.head_dropWhile_not isBlank (l := cs) (by simp [hd])
      simp [hd, hblank] at this
  · intro h c hc
    rw [List.mem_reverse] at hc
    exact h c ((List.dropWhile_sublist isBlank).mem hc)

end Eligibility.Text

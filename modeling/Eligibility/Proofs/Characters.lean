import Eligibility.Text.Basic
import Eligibility.Text.Word

/-!
# Characters and fronts of texts

Readers of text take characters from the front as long as they are of one class. `takeWhile_front`
and `dropWhile_front` say what that gives on a text whose front is known: the front, when the class
ends there.

The classes are told apart by code points: a digit starts no name, and no blank is part of a word
(`isWord_of_isBlank`).
-/

namespace Eligibility.Text

/-! ### Fronts -/

/-- The class `p` ends at the front of these characters, or there are none. -/
def EndsAt (p : Char → Bool) (cs : List Char) : Prop := ∀ c ∈ cs.head?, p c = false

/-- A run ends where the text ends. -/
@[simp] theorem endsAt_nil (p : Char → Bool) : EndsAt p [] := by
  intro c hc
  cases hc

/-- A run ends in front of a character that is not of its kind. -/
@[simp] theorem endsAt_cons (p : Char → Bool) (c : Char) (cs : List Char) :
    EndsAt p (c :: cs) ↔ p c = false := by
  simp [EndsAt]

/-- A class that ends in front of nothing and in front of more ends in front of both. -/
theorem EndsAt.append {p : Char → Bool} {cs back : List Char} (h : EndsAt p cs)
    (hback : EndsAt p back) : EndsAt p (cs ++ back) := by
  rcases cs with _ | ⟨c, cs⟩
  · exact hback
  · exact (endsAt_cons p c _).2 ((endsAt_cons p c cs).1 h)

/-- A class that ends in front of all characters ends in front of the first ones. -/
theorem EndsAt.of_append {p : Char → Bool} {cs back : List Char} (h : EndsAt p (cs ++ back)) :
    EndsAt p cs := by
  rcases cs with _ | ⟨c, cs⟩
  · exact endsAt_nil p
  · exact (endsAt_cons p c cs).2 ((endsAt_cons p c _).1 h)

/-- A smaller class ends where a class does. -/
theorem EndsAt.mono {p q : Char → Bool} {cs : List Char} (h : EndsAt p cs)
    (hle : ∀ c, p c = false → q c = false) : EndsAt q cs :=
  fun c hc => hle c (h c hc)

/-- What is taken is the front, when the class ends behind it. -/
theorem takeWhile_front {p : Char → Bool} {front back : List Char}
    (hfront : ∀ c ∈ front, p c = true) (hback : EndsAt p back) :
    (front ++ back).takeWhile p = front := by
  rw [List.takeWhile_append_of_pos hfront]
  rcases back with _ | ⟨c, back⟩
  · simp
  · rw [List.takeWhile_cons_of_neg (by simpa using hback), List.append_nil]

/-- What is left is what stands behind the front, when the class ends there. -/
theorem dropWhile_front {p : Char → Bool} {front back : List Char}
    (hfront : ∀ c ∈ front, p c = true) (hback : EndsAt p back) :
    (front ++ back).dropWhile p = back := by
  rw [List.dropWhile_append_of_pos hfront]
  rcases back with _ | ⟨c, back⟩
  · rfl
  · rw [List.dropWhile_cons_of_neg (by simpa using hback)]

/-- Behind what is taken the class ends. -/
theorem endsAt_dropWhile (p : Char → Bool) (cs : List Char) : EndsAt p (cs.dropWhile p) := by
  intro c hc
  rcases hd : cs.dropWhile p with _ | ⟨d, rest⟩
  · rw [hd] at hc
    cases hc
  · have := List.head_dropWhile_not p (l := cs) (by simp [hd])
    rw [hd] at hc
    obtain rfl : d = c := by simpa using hc
    simpa [hd] using this

/-- Nothing is taken where the class ends. -/
theorem takeWhile_eq_nil_iff {p : Char → Bool} {cs : List Char} :
    cs.takeWhile p = [] ↔ EndsAt p cs := by
  rcases cs with _ | ⟨c, cs⟩
  · simp
  · by_cases h : p c = true <;> simp [h]

/-! ### Classes -/

/-- The code points of the digits. -/
theorem isDigit_iff {c : Char} : c.isDigit = true ↔ 48 ≤ c.toNat ∧ c.toNat ≤ 57 := by
  have hn : c.val.toNat = c.toNat := rfl
  simp [Char.isDigit, UInt32.le_iff_toNat_le, hn]

/-- The code points of the characters that begin a name. -/
theorem isNameStart_iff {c : Char} :
    isNameStart c = true ↔
      (65 ≤ c.toNat ∧ c.toNat ≤ 90) ∨ (97 ≤ c.toNat ∧ c.toNat ≤ 122) ∨ c = '_' := by
  have hn : c.val.toNat = c.toNat := rfl
  delta isNameStart Char.isAlpha Char.isUpper Char.isLower
  simp [UInt32.le_iff_toNat_le, hn, or_assoc]

/-- A name goes on with what could begin one, and with digits. -/
theorem isNameRest_iff {c : Char} :
    isNameRest c = true ↔ isNameStart c = true ∨ c.isDigit = true := by
  simp only [isNameRest, isNameStart, Char.isAlphanum, Bool.or_eq_true]
  exact or_right_comm

/-- A digit starts no name. -/
theorem isNameStart_of_isDigit {c : Char} (h : c.isDigit = true) : isNameStart c = false := by
  rw [isDigit_iff] at h
  rw [← Bool.not_eq_true, isNameStart_iff]
  rintro (h' | h' | rfl)
  · omega
  · omega
  · exact absurd h (by decide)

/-- The code points of blanks. -/
def blanks : List Nat :=
  List.range' 9 5 ++ [0x20, 0x85, 0xA0, 0x1680] ++ List.range' 0x2000 11 ++
    [0x2028, 0x2029, 0x202F, 0x205F, 0x3000]

/-- The list of code points misses no blank character. -/
theorem toNat_mem_blanks {c : Char} (h : isBlank c = true) : c.toNat ∈ blanks := by
  simp only [isBlank, Bool.or_eq_true, Bool.and_eq_true, decide_eq_true_eq, beq_iff_eq,
    or_assoc] at h
  simp only [blanks, List.mem_append, List.mem_range'_1, List.mem_cons, List.not_mem_nil, or_false,
    or_assoc]
  omega

/-- No blank is part of a word. -/
theorem isWord_of_isBlank {c : Char} (h : isBlank c = true) : isWord c = false := by
  have hall : blanks.all (fun n => !isWord (Char.ofNat n)) = true := by decide +kernel
  simpa [Char.ofNat_toNat] using List.all_eq_true.1 hall _ (toNat_mem_blanks h)

/-- No character of a word is blank. -/
theorem isBlank_of_isWord {c : Char} (h : isWord c = true) : isBlank c = false := by
  rw [← Bool.not_eq_true]
  intro hblank
  rw [isWord_of_isBlank hblank] at h
  cases h

/-- No character of a name is blank. -/
theorem isBlank_of_isNameRest {c : Char} (h : isNameRest c = true) : isBlank c = false :=
  isBlank_of_isWord (isWord_of_isNameRest h)

end Eligibility.Text

import Eligibility.Binary64.Layout
import Eligibility.Proofs.Characters

/-!
# Numbers in rule text

Rule text has one form of numbers: digits, and behind a point more digits if there are any. A number
that is neither negative nor infinite nor NaN is written in this form, and what is written reads
back as the number.

* **Decimals** (`ofDecimal_mul_pow`, `ofDecimal_shortest`): zeros at the end of the digits count as
  a power of ten; the shortest decimal of a magnitude is read as it, with any sign.
* **Reading** (`ofChars?_digits`): digits with a point are the decimal they show, rounded; the sign
  of what is read is never a minus.
* **Setting** (`plainText_toList`): a decimal without a power of ten is set in digits that show it,
  and no zero stands at their front that could be left out.
* **Both** (`text_toList`): the text of a number is read as that number.
-/

namespace Eligibility

/-! ### Decimals of the same size -/

/-- Ten times as much is one digit more. -/
theorem decimalLength_mul_ten {n : Nat} (h : n ≠ 0) :
    decimalLength (n * 10) = decimalLength n + 1 := by
  rw [decimalLength, if_neg (by omega), Nat.mul_div_cancel _ (by decide)]

/-- A power of ten adds as many digits as it has zeros. -/
theorem decimalLength_mul_pow {n : Nat} (h : n ≠ 0) (k : Nat) :
    decimalLength (n * 10 ^ k) = decimalLength n + k := by
  induction k with
  | zero => simp
  | succ k ih =>
    have hne : n * 10 ^ k ≠ 0 := Nat.mul_ne_zero h (Nat.pos_iff_ne_zero.1 (Nat.pow_pos (by decide)))
    rw [Nat.pow_succ, ← Nat.mul_assoc, decimalLength_mul_ten hne, ih, Nat.add_assoc]

/-- A factor that numerator and denominator share does not count. -/
theorem nearestRank_mul_right (numerator denominator : Nat) {factor : Nat} (h : 0 < factor) :
    nearestRank (numerator * factor) (denominator * factor) =
      nearestRank numerator denominator := by
  have hcompare : ∀ a b : Nat, compare (a * factor) (b * factor) = compare a b := by
    intro a b
    rcases Nat.lt_trichotomy a b with hlt | rfl | hlt
    · rw [Nat.compare_eq_lt.2 hlt, Nat.compare_eq_lt]
      exact Nat.mul_lt_mul_of_pos_right hlt h
    · exact (Nat.compare_eq_eq.2 rfl).trans (Nat.compare_eq_eq.2 rfl).symm
    · rw [Nat.compare_eq_gt.2 hlt, Nat.compare_eq_gt]
      exact Nat.mul_lt_mul_of_pos_right hlt h
  unfold nearestRank
  simp only [Nat.mul_div_mul_right _ _ h, ← Nat.mul_assoc, hcompare]

namespace Binary64

/-- A ratio is not changed by a common factor. -/
theorem ofRatio_mul_right (negative : Bool) (numerator denominator : Nat) {factor : Nat}
    (h : 0 < factor) :
    ofRatio negative (numerator * factor) (denominator * factor) =
      ofRatio negative numerator denominator := by
  rw [ofRatio, Nat.mul_right_comm, nearestRank_mul_right _ _ h, ofRatio]

/-- Zeros at the end of the digits count as a power of ten. -/
theorem ofDecimal_mul_pow (negative : Bool) (significand k : Nat) (exponent : Int) :
    ofDecimal negative (significand * 10 ^ k) (exponent - k) =
      ofDecimal negative significand exponent := by
  have hten : ∀ n : Nat, 0 < 10 ^ n := fun n => Nat.pow_pos (by decide)
  by_cases h : significand = 0
  · simp [h, ofDecimal_zero]
  · have hne : significand * 10 ^ k ≠ 0 := Nat.mul_ne_zero h (Nat.pos_iff_ne_zero.1 (hten k))
    have htop : (decimalLength (significand * 10 ^ k) : Int) + (exponent - k) =
        decimalLength significand + exponent := by
      rw [decimalLength_mul_pow h]
      omega
    unfold ofDecimal
    simp only [htop, h, hne, false_or]
    congr 2
    -- the two fractions differ by the power of ten that turns one denominator into the other
    by_cases hshifted : 0 ≤ exponent - k
    · have hsum : exponent.toNat = k + (exponent - k).toNat := by omega
      rw [if_pos hshifted, if_pos (by omega), hsum, Nat.pow_add, Nat.mul_assoc]
    · rw [if_neg hshifted]
      by_cases hexponent : 0 ≤ exponent
      · have hsum : k = exponent.toNat + (-(exponent - k)).toNat := by omega
        have hratio := ofRatio_mul_right negative (significand * 10 ^ exponent.toNat) 1
          (hten (-(exponent - k)).toNat)
        rw [Nat.mul_assoc, ← Nat.pow_add, ← hsum, Nat.one_mul] at hratio
        rw [if_pos hexponent, hratio]
      · have hsum : (-(exponent - k)).toNat = (-exponent).toNat + k := by omega
        rw [if_neg hexponent, hsum, Nat.pow_add, ofRatio_mul_right negative _ _ (hten k)]

/-- The rank that a decimal is rounded to does not depend on its sign. -/
theorem exists_ofDecimal_eq_ofRank (significand : Nat) (exponent : Int) :
    ∃ rank, ∀ negative, ofDecimal negative significand exponent = ofRank negative rank := by
  by_cases hzero : significand = 0 ∨ (decimalLength significand : Int) + exponent < -329
  · exact ⟨0, fun negative => if_pos hzero⟩
  by_cases hgreat : 310 < (decimalLength significand : Int) + exponent
  · refine ⟨topRank, fun negative => ?_⟩
    rw [ofDecimal, if_neg hzero, if_pos hgreat, ofRank, dif_neg (Nat.lt_irrefl _)]
  by_cases hexponent : 0 ≤ exponent
  · refine ⟨nearestRank (significand * 10 ^ exponent.toNat * unitsPerOne) 1, fun negative => ?_⟩
    rw [ofDecimal, if_neg hzero, if_neg hgreat, if_pos hexponent, ofRatio]
  · refine ⟨nearestRank (significand * unitsPerOne) (10 ^ (-exponent).toNat), fun negative => ?_⟩
    rw [ofDecimal, if_neg hzero, if_neg hgreat, if_neg hexponent, ofRatio]

/-- A decimal that is read as a magnitude is read with any sign as that magnitude with the sign. -/
theorem ofDecimal_eq_finite {significand rank : Nat} {exponent : Int} {h : rank < topRank}
    (hreads : ofDecimal false significand exponent = .finite false rank h) (negative : Bool) :
    ofDecimal negative significand exponent = .finite negative rank h := by
  obtain ⟨found, hfound⟩ := exists_ofDecimal_eq_ofRank significand exponent
  rw [hfound, ofRank] at hreads
  split at hreads
  · rename_i hlt
    obtain rfl : found = rank := by simpa using hreads
    rw [hfound, ofRank_of_lt hlt]
  · cases hreads

/-- A decimal that is not below zero is read without a minus sign. -/
theorem isNegative_ofDecimal (significand : Nat) (exponent : Int) :
    (ofDecimal false significand exponent).isNegative = false := by
  obtain ⟨rank, hrank⟩ := exists_ofDecimal_eq_ofRank significand exponent
  rw [hrank, ofRank]
  split <;> rfl

end Binary64

/-! ### Digits with a point -/

/-- The digits behind the point, with the point; nothing when there are none. -/
def pointed (fraction : List Char) : List Char :=
  if fraction = [] then [] else '.' :: fraction

/-- All of these are digits. -/
def AllDigits (cs : List Char) : Prop := ∀ c ∈ cs, c.isDigit = true

/-- The value of zeros is zero. -/
theorem digitsValue_zeros (k : Nat) : digitsValue (List.replicate k '0') = 0 := by
  induction k with
  | zero => rfl
  | succ k ih =>
    rw [List.replicate_succ', digitsValue_append, ih]
    rfl

/-- A digit has no case. -/
theorem toLower_of_isDigit {c : Char} (h : c.isDigit = true) : c.toLower = c := by
  rw [Text.isDigit_iff] at h
  have hall : ∀ n < 58, 48 ≤ n → (Char.ofNat n).toLower = Char.ofNat n := by decide
  have := hall c.toNat (by omega) h.1
  rwa [Char.ofNat_toNat] at this

namespace Binary64

/-- Digits with a point are read as the decimal they show. -/
theorem ofChars?_digits {whole fraction : List Char} (hwhole : AllDigits whole)
    (hne : whole ≠ []) (hfraction : AllDigits fraction) :
    ofChars? (whole ++ pointed fraction) =
      some (ofDecimal false (digitsValue (whole ++ fraction)) (-fraction.length)) := by
  obtain ⟨first, others, rfl⟩ := List.exists_cons_of_ne_nil hne
  have hfirst : first.isDigit = true := hwhole first List.mem_cons_self
  have hlower : first.toLower = first := toLower_of_isDigit hfirst
  have hne' : ∀ c : Char, c.isDigit = false → first ≠ c := by
    rintro c hc rfl
    rw [hfirst] at hc
    cases hc
  have hunsigned : ofChars? (first :: others ++ pointed fraction) =
      ofUnsigned? false (first :: others ++ pointed fraction) := by
    rw [List.cons_append, ofChars?]
    · intro rest heq
      exact hne' '-' (by decide) (List.cons.inj heq).1
    · intro rest heq
      exact hne' '+' (by decide) (List.cons.inj heq).1
  have hword : ∀ c word, c.isDigit = false →
      ((first :: others ++ pointed fraction).map Char.toLower == c :: word) = false := by
    intro c word hc
    rw [List.cons_append, List.map_cons, hlower]
    simp [hne' c hc]
  have hstop : Text.EndsAt Char.isDigit (pointed fraction) := by
    unfold pointed
    split
    · exact Text.endsAt_nil _
    · simp
  rw [hunsigned, ofUnsigned?, Text.takeWhile_front hwhole hstop, Text.dropWhile_front hwhole hstop]
  simp only [hword 'i' _ (by decide), hword 'n' _ (by decide)]
  rcases fraction with _ | ⟨digit, fraction⟩
  · simp [pointed, readPower?]
  · have htake := Text.takeWhile_front hfraction (Text.endsAt_nil _)
    have hdrop := Text.dropWhile_front hfraction (Text.endsAt_nil _)
    rw [List.append_nil] at htake hdrop
    simp [pointed, readPower?, htake, hdrop]

end Binary64

/-! ### Setting -/

/-- A number is written with digits only. -/
theorem allDigits_toDigits (n : Nat) : AllDigits (Nat.toDigits 10 n) :=
  fun _ hc => Nat.isDigit_of_mem_toDigits (by decide) (by decide) hc

/-- Zeros are digits. -/
theorem allDigits_zeros (k : Nat) : AllDigits (List.replicate k '0') := by
  intro c hc
  rw [(List.mem_replicate.1 hc).2]
  decide

/-- Digits behind digits are digits. -/
theorem AllDigits.append {front back : List Char} (hfront : AllDigits front)
    (hback : AllDigits back) : AllDigits (front ++ back) := by
  intro c hc
  rcases List.mem_append.1 hc with h | h
  · exact hfront c h
  · exact hback c h

/-- Digits that say a whole number: at least one, and no zero before others. -/
def IsWhole : List Char → Prop
  | [] => False
  | first :: others => AllDigits (first :: others) ∧ (first = '0' → others = [])

namespace IsWhole

variable {whole : List Char}

/-- The digits of a whole number are digits. -/
theorem allDigits (h : IsWhole whole) : AllDigits whole := by
  rcases whole with _ | ⟨first, others⟩
  · cases h
  · exact h.1

/-- A whole number has a digit. -/
theorem ne_nil (h : IsWhole whole) : whole ≠ [] := by
  rintro rfl
  exact h

/-- Digits behind a whole number that is not zero make a whole number with it. -/
theorem append (h : IsWhole whole) (hne : whole ≠ ['0']) {digits : List Char}
    (hdigits : AllDigits digits) : IsWhole (whole ++ digits) := by
  rcases whole with _ | ⟨first, others⟩
  · cases h
  · refine ⟨h.allDigits.append hdigits, fun hzero => absurd ?_ hne⟩
    rw [hzero, h.2 hzero]

/-- The first digits of a whole number are a whole number. -/
theorem take (h : IsWhole whole) {count : Nat} (hpos : 0 < count) : IsWhole (whole.take count) := by
  obtain ⟨count, rfl⟩ := Nat.exists_eq_add_one.2 hpos
  rcases whole with _ | ⟨first, others⟩
  · cases h
  · refine ⟨fun c hc => h.1 c ?_, fun hzero => ?_⟩
    · exact List.mem_of_mem_take (i := count + 1) hc
    · rw [h.2 hzero, List.take_nil]

end IsWhole

/-- Only zero is written as one zero. -/
theorem toDigits_eq_zero_iff {n : Nat} : Nat.toDigits 10 n = ['0'] ↔ n = 0 := by
  constructor
  · intro h
    rw [← digitsValue_toDigits n, h]
    rfl
  · rintro rfl
    rfl

/-- The digits of a number say a whole number. -/
theorem isWhole_toDigits (n : Nat) : IsWhole (Nat.toDigits 10 n) := by
  induction n using Nat.strongRecOn with
  | ind n ih =>
    rcases Nat.lt_or_ge n 10 with h | h
    · have hdigits := allDigits_toDigits n
      rw [Nat.toDigits_of_lt_base h] at hdigits ⊢
      exact ⟨hdigits, fun _ => rfl⟩
    · have hsplit := Nat.toDigits_append_toDigits (b := 10) (n := n / 10) (d := n % 10)
        (by decide) (by omega) (Nat.mod_lt n (by decide))
      rw [Nat.div_add_mod] at hsplit
      rw [← hsplit]
      refine (ih (n / 10) (by omega)).append ?_ (allDigits_toDigits _)
      rw [Ne, toDigits_eq_zero_iff]
      omega

/-- A decimal without a power of ten is set in digits that are read as it. The mark of a whole
number stands where the digits behind the point would. -/
theorem Layout.plainText_toList (mark : String) {d : Decimal}
    (hd : d.significand = 0 → d.exponent ≤ 0) :
    ∃ whole fraction, (plainText mark d).toList =
        whole ++ (if fraction = [] then mark.toList else '.' :: fraction) ∧
      IsWhole whole ∧ AllDigits fraction ∧
      ∀ negative, Binary64.ofDecimal negative (digitsValue (whole ++ fraction)) (-fraction.length) =
        Binary64.ofDecimal negative d.significand d.exponent := by
  have hdigits := isWhole_toDigits d.significand
  unfold plainText
  simp only
  split
  · rename_i hexponent
    refine ⟨Nat.toDigits 10 d.significand ++ List.replicate d.exponent.toNat '0', [], ?_, ?_,
      by simp [AllDigits], fun negative => ?_⟩
    · simp
    · by_cases hzero : d.significand = 0
      · have hnone : d.exponent.toNat = 0 := by
          have := hd hzero
          omega
        rw [hnone, List.replicate_zero, List.append_nil]
        exact hdigits
      · exact hdigits.append (fun h => hzero (toDigits_eq_zero_iff.1 h)) (allDigits_zeros _)
    · have hlength : -((([] : List Char).length : Nat) : Int) =
          d.exponent - (d.exponent.toNat : Int) := by
        rw [List.length_nil, Int.toNat_of_nonneg hexponent]
        omega
      rw [List.append_nil, digitsValue_append, digitsValue_toDigits, digitsValue_zeros,
        List.length_replicate, Nat.add_zero, hlength, Binary64.ofDecimal_mul_pow]
  · rename_i hexponent
    -- the digits are filled up from the left until one stands before the point
    generalize hplaces : (-d.exponent).toNat = places
    generalize hpadded : List.replicate (places + 1 - (Nat.toDigits 10 d.significand).length) '0' ++
      Nat.toDigits 10 d.significand = padded
    have hall : AllDigits padded := hpadded ▸ (allDigits_zeros _).append hdigits.allDigits
    have hlength : places + 1 ≤ padded.length := by
      rw [← hpadded, List.length_append, List.length_replicate]
      omega
    have hvalue : digitsValue padded = d.significand := by
      rw [← hpadded, digitsValue_append, digitsValue_zeros, digitsValue_toDigits, Nat.zero_mul,
        Nat.zero_add]
    have hwhole : IsWhole (padded.take (padded.length - places)) := by
      by_cases hshort : (Nat.toDigits 10 d.significand).length ≤ places
      · obtain ⟨zeros, hzeros⟩ : ∃ zeros,
            places + 1 - (Nat.toDigits 10 d.significand).length = zeros + 1 :=
          ⟨places - (Nat.toDigits 10 d.significand).length, by omega⟩
        have hone : padded.length - places = 1 := by
          rw [← hpadded, List.length_append, List.length_replicate]
          omega
        rw [hone, ← hpadded, hzeros, List.replicate_succ]
        exact ⟨allDigits_zeros 1, fun _ => rfl⟩
      · have hnone : places + 1 - (Nat.toDigits 10 d.significand).length = 0 := by omega
        rw [hnone, List.replicate_zero, List.nil_append] at hpadded
        exact hpadded ▸ hdigits.take (by rw [hpadded]; omega)
    have hfraction : (padded.drop (padded.length - places)).length = places := by
      rw [List.length_drop]
      omega
    have hne : padded.drop (padded.length - places) ≠ [] := by
      rw [← List.length_pos_iff, hfraction]
      omega
    refine ⟨padded.take (padded.length - places), padded.drop (padded.length - places), ?_, hwhole,
      fun c hc => hall c (List.mem_of_mem_drop hc), fun negative => ?_⟩
    · rw [if_neg hne]
      simp
    · rw [List.take_append_drop, hvalue, hfraction, ← hplaces, Int.toNat_of_nonneg (by omega),
        Int.neg_neg]

/-! ### The text of a number -/

namespace Binary64

/-- The decimal chosen for a finite magnitude is read as it, with any sign. -/
theorem ofDecimal_shortest (ties : TieRule) {rank : Nat} (h : rank < topRank) (negative : Bool) :
    ofDecimal negative (shortest ties rank).significand (shortest ties rank).exponent =
      .finite negative rank h := by
  have hreads := readsBack_shortest ties h
  rw [readsBack, beq_iff_eq, ofRank_of_lt h] at hreads
  exact ofDecimal_eq_finite hreads negative

/-- The decimal chosen for zero has no power of ten. -/
theorem shortest_exponent_of_zero (ties : TieRule) {rank : Nat} (h : rank < topRank)
    (hzero : (shortest ties rank).significand = 0) : (shortest ties rank).exponent ≤ 0 := by
  have hreads := ofDecimal_shortest ties h false
  rw [hzero, ofDecimal_zero, finite.injEq] at hreads
  obtain rfl : 0 = rank := hreads.2
  exact Int.le_refl 0

/-- The text of a number that is finite and has no minus sign is digits with a point, and they are
read as the number. -/
theorem text_toList {x : Binary64} (hfinite : x.isFinite = true) (hsign : x.isNegative = false) :
    ∃ whole fraction, x.text.toList = whole ++ pointed fraction ∧ whole ≠ [] ∧
      AllDigits whole ∧ AllDigits fraction ∧
      finiteOfChars? (whole ++ pointed fraction) = some x := by
  rcases x with ⟨negative, rank, hrank⟩ | negative | _
  · obtain rfl : negative = false := hsign
    obtain ⟨whole, fraction, htext, hwhole, hfraction, hvalue⟩ :=
      Layout.plainText_toList "" (shortest_exponent_of_zero .up hrank)
    refine ⟨whole, fraction, ?_, hwhole.ne_nil, hwhole.allDigits, hfraction, ?_⟩
    · have hplain : text (.finite false rank hrank) = Layout.plainText "" (shortest .up rank) := by
        simp [text, Layout.finite, Layout.magnitude, Layout.ruleText]
      rw [hplain, htext]
      rfl
    · rw [finiteOfChars?, ofChars?_digits hwhole.allDigits hwhole.ne_nil hfraction, hvalue,
        ofDecimal_shortest .up hrank]
      rfl
  · cases hfinite
  · cases hfinite

/-- What is read from digits with a point has no minus sign. -/
theorem isNegative_of_finiteOfChars? {whole fraction : List Char} {x : Binary64}
    (hwhole : AllDigits whole) (hne : whole ≠ []) (hfraction : AllDigits fraction)
    (h : finiteOfChars? (whole ++ pointed fraction) = some x) :
    x.isFinite = true ∧ x.isNegative = false := by
  rw [finiteOfChars?, ofChars?_digits hwhole hne hfraction, Option.filter_eq_some_iff] at h
  obtain ⟨hvalue, hfinite⟩ := h
  refine ⟨hfinite, ?_⟩
  rw [← Option.some.inj hvalue]
  exact isNegative_ofDecimal _ _

end Binary64

end Eligibility

import Eligibility.Json.Reader
import Eligibility.Json.Text
import Eligibility.Proofs.NumberText

/-!
# Numbers in JSON text

A number in JSON text has up to four parts: a minus sign, the digits before the point, those behind
it, and a power of ten. `NumberParts` holds the parts as they are written.

* **Reading** (`number?_characters`): parts are read as parts, in front of everything that does not
  go on with a number.
* **Writing** (`Number.exists_parts`): the text of every number consists of such parts, and they
  have the number as their value. A whole number has neither a point nor a power of ten, and every
  other number has one of the two, so that neither is taken for the other.
* **Both** (`number?_text`): the text of a number is read as that number.
-/

namespace Eligibility

namespace Json

/-! ### The parts of a number -/

/-- A power of ten as it is written; its sign always is. -/
def powered : Option Int → List Char
  | none => []
  | some power => 'e' :: (if power < 0 then '-' else '+') :: Nat.toDigits 10 power.natAbs

/-- A number as it is written. -/
structure NumberParts where
  /-- Is there a minus sign? -/
  negative : Bool
  /-- The digits before the point. -/
  whole : List Char
  /-- The digits behind the point; without a point there are none. -/
  fraction : List Char
  /-- The power of ten, if there is one. -/
  power : Option Int
  isWhole : IsWhole whole
  allDigits : AllDigits fraction

namespace NumberParts

/-- The characters of a number behind its sign. -/
def magnitude (parts : NumberParts) : List Char :=
  parts.whole ++ (pointed parts.fraction ++ powered parts.power)

/-- The characters of a number. -/
def characters (parts : NumberParts) : List Char :=
  (if parts.negative then ['-'] else []) ++ parts.magnitude

/-- The number that is read from its parts, unless it is too great. -/
def value? (parts : NumberParts) : Option Number :=
  Number.ofParts? parts.negative parts.whole parts.fraction parts.power

end NumberParts

/-- No number goes on here. -/
def EndsNumber (rest : List Char) : Prop :=
  ∀ c ∈ rest.head?, c.isDigit = false ∧ c ≠ '.' ∧ c ≠ 'e' ∧ c ≠ 'E'

/-- A number ends where the text ends. -/
theorem endsNumber_nil : EndsNumber [] := by
  intro c hc
  cases hc

/-- Where a number ends, its digits end. -/
theorem EndsNumber.endsAt {rest : List Char} (h : EndsNumber rest) :
    Text.EndsAt Char.isDigit rest := fun c hc => (h c hc).1

/-! ### Reading -/

/-- The digits before the point are read when no digit follows them. -/
theorem wholeDigits?_front {whole rest : List Char} (h : IsWhole whole)
    (hrest : Text.EndsAt Char.isDigit rest) :
    wholeDigits? (whole ++ rest) = some (whole, rest) := by
  rcases whole with _ | ⟨first, others⟩
  · cases h
  by_cases hzero : first = '0'
  · obtain rfl := h.2 hzero
    rw [hzero]
    rfl
  · rw [wholeDigits?, Text.takeWhile_front h.allDigits hrest,
      Text.dropWhile_front h.allDigits hrest]
    · rfl
    · intro _ heq
      exact hzero (List.cons.inj heq).1

/-- A point and the digits behind it are read when no digit follows them; where no point is written,
none may follow. -/
theorem fractionDigits?_front {fraction rest : List Char} (h : AllDigits fraction)
    (hrest : Text.EndsAt Char.isDigit rest) (hpoint : ∀ c ∈ rest.head?, c ≠ '.') :
    fractionDigits? (pointed fraction ++ rest) = some (fraction, rest) := by
  unfold pointed
  split
  · rename_i hnone
    rw [List.nil_append, hnone, fractionDigits?]
    rintro others rfl
    exact hpoint '.' rfl rfl
  · rename_i hsome
    rw [List.cons_append, fractionDigits?, Text.takeWhile_front h hrest,
      Text.dropWhile_front h hrest, if_neg (by simpa using hsome)]

/-- A power of ten is read when no number goes on behind it. -/
theorem power?_front (power : Option Int) {rest : List Char} (hrest : EndsNumber rest) :
    power? (powered power ++ rest) = some (power, rest) := by
  cases power with
  | none =>
    rcases rest with _ | ⟨c, rest⟩
    · rfl
    · obtain ⟨-, -, hsmall, hgreat⟩ := hrest c rfl
      simp [powered, power?, hsmall, hgreat]
  | some power =>
    have hdigits := allDigits_toDigits power.natAbs
    have htake := Text.takeWhile_front hdigits hrest.endsAt
    have hdrop := Text.dropWhile_front hdigits hrest.endsAt
    have hsigned : power? (powered (some power) ++ rest) =
        some (some (if power < 0 then -(power.natAbs : Int) else power.natAbs), rest) := by
      by_cases hnegative : power < 0
      · simp [powered, power?, hnegative, htake, hdrop, digitsValue_toDigits]
      · simp [powered, power?, hnegative, htake, hdrop, digitsValue_toDigits]
    rw [hsigned]
    congr 3
    split <;> omega

/-- A power of ten ends the digits in front of it, and where there is none the rest does. -/
theorem endsAt_powered (power : Option Int) {rest : List Char} (hrest : EndsNumber rest) :
    Text.EndsAt Char.isDigit (powered power ++ rest) := by
  cases power with
  | none => exact hrest.endsAt
  | some power => exact (Text.endsAt_cons _ _ _).2 (by decide)

/-- A fraction ends the digits in front of it, and where there is none the rest does. -/
theorem endsAt_pointed (fraction : List Char) {rest : List Char}
    (hrest : Text.EndsAt Char.isDigit rest) :
    Text.EndsAt Char.isDigit (pointed fraction ++ rest) := by
  unfold pointed
  split
  · exact hrest
  · exact (Text.endsAt_cons _ _ _).2 (by decide)

/-- A minus sign is seen, and what stands behind it is left, when no other follows it. -/
theorem minus_front (negative : Bool) {body : List Char} (h : body.head? ≠ some '-') :
    let cs := (if negative then ['-'] else []) ++ body
    (cs.head? == some '-') = negative ∧ (if negative then cs.tail else cs) = body := by
  cases negative
  · exact ⟨beq_eq_false_iff_ne.2 h, rfl⟩
  · exact ⟨rfl, rfl⟩

/-- A number is read part by part, in front of everything that does not go on with it. -/
theorem number?_characters (parts : NumberParts) {rest : List Char} (hrest : EndsNumber rest) :
    number? (parts.characters ++ rest) = parts.value?.map fun n => (.number n, rest) := by
  obtain ⟨negative, whole, fraction, power, hwhole, hfraction⟩ := parts
  have hpowered := endsAt_powered power hrest
  have hpoint : ∀ c ∈ (powered power ++ rest).head?, c ≠ '.' := by
    cases power with
    | none => exact fun c hc => (hrest c hc).2.1
    | some power =>
      intro c hc
      obtain rfl : 'e' = c := Option.some.inj hc
      decide
  have hdigit : (whole ++ (pointed fraction ++ (powered power ++ rest))).head? ≠ some '-' := by
    rcases whole with _ | ⟨first, others⟩
    · cases hwhole
    · intro hminus
      obtain rfl : first = '-' := Option.some.inj hminus
      exact absurd (hwhole.allDigits '-' List.mem_cons_self) (by decide)
  obtain ⟨hnegative, hbody⟩ := minus_front negative hdigit
  have hcharacters : NumberParts.characters ⟨negative, whole, fraction, power, hwhole, hfraction⟩ ++
      rest = (if negative then ['-'] else []) ++
        (whole ++ (pointed fraction ++ (powered power ++ rest))) := by
    simp [NumberParts.characters, NumberParts.magnitude]
  rw [hcharacters, number?]
  simp only [hnegative, hbody]
  rw [wholeDigits?_front hwhole (endsAt_pointed fraction hpowered)]
  simp only [Option.bind_eq_bind, Option.bind_some]
  rw [fractionDigits?_front hfraction hpowered hpoint]
  simp only [Option.bind_some]
  rw [power?_front power hrest]
  simp only [Option.bind_some, NumberParts.value?]
  cases Number.ofParts? negative whole fraction power <;> rfl

/-! ### Writing -/

/-- The decimal length of a number is that of its digits. -/
theorem decimalLength_eq_length_toDigits (n : Nat) :
    decimalLength n = (Nat.toDigits 10 n).length := by
  fun_induction decimalLength n with
  | case1 n h => rw [Nat.toDigits_of_lt_base h, List.length_singleton]
  | case2 n h ih =>
    have hsplit := Nat.toDigits_append_toDigits (b := 10) (n := n / 10) (d := n % 10)
      (by decide) (by omega) (Nat.mod_lt n (by decide))
    rw [Nat.div_add_mod] at hsplit
    rw [← hsplit, List.length_append, ih, Nat.toDigits_of_lt_base (Nat.mod_lt n (by decide)),
      List.length_singleton]

/-- The digits of a whole number, with its sign, have it as their value. -/
theorem ofParts?_toDigits {value : Int} (lower : -2 ^ 63 ≤ value) (upper : value < 2 ^ 64) :
    Number.ofParts? (decide (value < 0)) (Nat.toDigits 10 value.natAbs) [] none =
      some (.integer value lower upper) := by
  have hsigned : (if decide (value < 0) = true then -(value.natAbs : Int) else value.natAbs) =
      value := by
    by_cases hnegative : value < 0
    · rw [if_pos (decide_eq_true hnegative)]
      omega
    · rw [if_neg (by simpa using hnegative)]
      omega
  have hzero : (decide (value < 0) && value == 0) = false := by
    rw [Bool.and_eq_false_imp, decide_eq_true_eq, beq_eq_false_iff_ne]
    omega
  have hinteger : Number.ofInt? value = some (.integer value lower upper) :=
    dif_pos ⟨lower, upper⟩
  unfold Number.ofParts?
  simp only [digitsValue_toDigits, hsigned, hzero, hinteger]
  rfl

/-- Parts that show a decimal other than a whole number have the number as their value that the
decimal is rounded to. -/
theorem NumberParts.value?_of_real (parts : NumberParts)
    (hreal : parts.fraction ≠ [] ∨ parts.power ≠ none) {x : Binary64} (hfinite : x.isFinite = true)
    (hx : Binary64.ofDecimal parts.negative (digitsValue (parts.whole ++ parts.fraction))
      (parts.power.getD 0 - parts.fraction.length) = x) :
    parts.value? = some (.real x hfinite) := by
  have hnot : (parts.fraction.isEmpty && parts.power.isNone) = false := by
    rcases hreal with h | h
    · simp [h]
    · simp [Option.isNone_eq_false_iff, Option.isSome_iff_ne_none.2 h]
  unfold NumberParts.value? Number.ofParts?
  simp only [hnot, Bool.false_and]
  simp [hx, hfinite]

/-- A decimal that is written out in full is written in parts; a whole number has a zero behind the
point. -/
theorem exists_parts_of_plain (negative : Bool) {d : Decimal}
    (hd : d.significand = 0 → d.exponent ≤ 0) {x : Binary64} (hfinite : x.isFinite = true)
    (hx : Binary64.ofDecimal negative d.significand d.exponent = x) :
    ∃ parts : NumberParts, parts.negative = negative ∧
      (Layout.plainText ".0" d).toList = parts.magnitude ∧
      parts.value? = some (.real x hfinite) := by
  obtain ⟨whole, fraction, htext, hwhole, hfraction, hvalue⟩ := Layout.plainText_toList ".0" hd
  have hvalue := (hvalue negative).trans hx
  by_cases hnone : fraction = []
  · subst hnone
    refine ⟨⟨negative, whole, ['0'], none, hwhole, allDigits_zeros 1⟩, rfl, ?_,
      NumberParts.value?_of_real _ (.inl (by simp)) hfinite ?_⟩
    · simp [htext, NumberParts.magnitude, pointed, powered]
    · have hzero := Binary64.ofDecimal_mul_pow negative (digitsValue whole) 1 0
      rw [← hvalue, List.append_nil]
      simpa [digitsValue_append, digitsValue] using hzero
  · refine ⟨⟨negative, whole, fraction, none, hwhole, hfraction⟩, rfl, ?_,
      NumberParts.value?_of_real _ (.inl hnone) hfinite ?_⟩
    · simp [htext, NumberParts.magnitude, pointed, powered, hnone]
    · rw [← hvalue]
      simp

/-- A decimal that is written with a power of ten is written in parts. -/
theorem exists_parts_of_powered (negative : Bool) (d : Decimal) {x : Binary64}
    (hfinite : x.isFinite = true)
    (hx : Binary64.ofDecimal negative d.significand d.exponent = x) :
    ∃ parts : NumberParts, parts.negative = negative ∧
      (Layout.poweredText d).toList = parts.magnitude ∧
      parts.value? = some (.real x hfinite) := by
  have hdigits := isWhole_toDigits d.significand
  have hlength := decimalLength_eq_length_toDigits d.significand
  refine ⟨⟨negative, (Nat.toDigits 10 d.significand).take 1, (Nat.toDigits 10 d.significand).drop 1,
    some d.leadingExponent, hdigits.take (by decide),
    fun c hc => hdigits.allDigits c (List.mem_of_mem_drop hc)⟩, rfl, ?_,
    NumberParts.value?_of_real _ (.inr (by simp)) hfinite ?_⟩
  · have hone : (Nat.toDigits 10 d.significand).drop 1 = [] ↔
        (Nat.toDigits 10 d.significand).length = 1 := by
      have := List.length_pos_iff.2 hdigits.ne_nil
      rw [List.drop_eq_nil_iff]
      omega
    unfold Layout.poweredText NumberParts.magnitude pointed powered
    simp only [hone]
    split <;> split <;> simp_all
  · rw [← hx]
    congr 1
    · show digitsValue (List.take 1 _ ++ List.drop 1 _) = _
      rw [List.take_append_drop, digitsValue_toDigits]
    · have := List.length_pos_iff.2 hdigits.ne_nil
      simp only [Option.getD_some, Decimal.leadingExponent, hlength, List.length_drop]
      omega

/-- The text of every number consists of parts that have the number as their value. -/
theorem Number.exists_parts (n : Number) :
    ∃ parts : NumberParts, n.text.toList = parts.characters ∧ parts.value? = some n := by
  rcases n with ⟨value, lower, upper⟩ | ⟨⟨negative, rank, hrank⟩ | _ | _, hfinite⟩
  · refine ⟨⟨decide (value < 0), Nat.toDigits 10 value.natAbs, [], none, isWhole_toDigits _,
      by simp [AllDigits]⟩, ?_, ?_⟩
    · by_cases hnegative : value < 0 <;>
        simp [Number.text, NumberParts.characters, NumberParts.magnitude, pointed, powered,
          hnegative]
    · exact ofParts?_toDigits lower upper
  · have hzero := Binary64.shortest_exponent_of_zero .even hrank
    have hreads := Binary64.ofDecimal_shortest .even hrank negative
    obtain ⟨parts, hsign, htext, hvalue⟩ : ∃ parts : NumberParts, parts.negative = negative ∧
        (Layout.json.magnitude rank).toList = parts.magnitude ∧
        parts.value? = some (.real (.finite negative rank hrank) hfinite) := by
      unfold Layout.magnitude
      simp only
      split
      · exact exists_parts_of_plain negative hzero hfinite hreads
      · exact exists_parts_of_powered negative _ hfinite hreads
    refine ⟨parts, ?_, hvalue⟩
    rw [Number.text, Layout.finite, String.toList_append, htext, NumberParts.characters, hsign]
    cases negative <;> rfl
  · cases hfinite
  · cases hfinite

/-- **The text of a number is read as the number.** -/
theorem number?_text (n : Number) {rest : List Char} (hrest : EndsNumber rest) :
    number? (n.text.toList ++ rest) = some (.number n, rest) := by
  obtain ⟨parts, htext, hvalue⟩ := n.exists_parts
  rw [htext, number?_characters parts hrest, hvalue]
  rfl

end Json

end Eligibility

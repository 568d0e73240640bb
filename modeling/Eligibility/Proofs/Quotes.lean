import Eligibility.Proofs.Faults
import Eligibility.Proofs.Tiling

/-!
# Cutting texts out of their quotes

The content of a text token is what is left without its first and last byte. Bytes are counted, but
a text consists of characters, so there is content only where both cuts fall between characters. The
lexer makes no other tokens. A parser also takes tokens that come from elsewhere, and it goes on
behind no text that it would have to cut inside a character.

* **Cuts** (`Token.IsCuttable`): both cuts of a text fall on boundaries of characters in its UTF-8
  form. A text has content exactly when it is cuttable, and the content is what stands between the
  cuts (`Token.content?_eq_some_iff`, `Token.content?_eq_none_iff`).
* **Calls** (`parse_cuts_texts`): a parser fails for want of boundaries exactly when a text that is
  not cuttable is among the tokens it has taken, as it is in `parse_cuts_character`.
-/

namespace Eligibility

/-! ### Cuts -/

/-- The places of a text are counted in the bytes of its UTF-8 form. -/
theorem byteLength_toList (text : String) : byteLength text.toList = text.utf8ByteSize := by
  have hbytes : ∀ cs : List Char, byteLength cs = (String.ofList cs).utf8ByteSize := by
    intro cs
    induction cs with
    | nil => rfl
    | cons c cs ih =>
      rw [String.ofList_cons, String.utf8ByteSize_append, String.utf8ByteSize_singleton,
        byteLength_cons, ih]
  rw [hbytes, String.ofList_toList]

/-- One byte is one character. -/
theorem eq_singleton_of_byteLength {cs : List Char} (h : byteLength cs = 1) :
    ∃ c, cs = [c] ∧ c.utf8Size = 1 := by
  rcases cs with _ | ⟨c, cs⟩
  · cases h
  · have hc := c.utf8Size_pos
    rw [byteLength_cons] at h
    obtain rfl : cs = [] := by
      by_contra hne
      have := byteLength_pos hne
      omega
    exact ⟨c, rfl, h⟩

/-- A place is a boundary of characters when the text can be split there. -/
theorem isValid_iff {text : String} {place : Nat} :
    (⟨place⟩ : String.Pos.Raw).IsValid text ↔
      ∃ front back, text = front ++ back ∧ front.utf8ByteSize = place := by
  rw [String.Pos.Raw.isValid_iff_exists_append]
  constructor
  · rintro ⟨front, back, htext, hplace⟩
    exact ⟨front, back, htext, (congrArg String.Pos.Raw.byteIdx hplace).symm⟩
  · rintro ⟨front, back, htext, rfl⟩
    exact ⟨front, back, htext, rfl⟩

namespace Token

/-- Without its first and last byte the text of a token is still made of whole characters, or it has
fewer than two bytes and keeps them. -/
def IsCuttable (token : Token) : Prop :=
  2 ≤ token.text.utf8ByteSize →
    (⟨1⟩ : String.Pos.Raw).IsValid token.text ∧
      (⟨token.text.utf8ByteSize - 1⟩ : String.Pos.Raw).IsValid token.text

/-- What is left of two bytes or more stands between two characters of one byte. -/
theorem withoutQuotes?_eq_some_iff {cs body : List Char} (h : 2 ≤ byteLength cs) :
    withoutQuotes? cs = some body ↔
      ∃ first last, cs = first :: (body ++ [last]) ∧ first.utf8Size = 1 ∧ last.utf8Size = 1 := by
  constructor
  · intro hbody
    unfold withoutQuotes? at hbody
    rw [if_neg (by omega)] at hbody
    rcases cs with _ | ⟨first, rest⟩
    · simp at h
    split at hbody
    · rename_i hends
      simp only [List.head?_cons, Option.all_some, beq_iff_eq, Bool.and_eq_true] at hends
      obtain ⟨hfirst, hlast⟩ := hends
      obtain rfl | ⟨middle, last, rfl⟩ := List.eq_nil_or_concat' rest
      · -- one character of one byte is too short
        simp [hfirst] at h
      · rw [← List.cons_append, List.getLast?_concat, Option.all_some, beq_iff_eq] at hlast
        rw [List.tail_cons, List.dropLast_concat, Option.some.injEq] at hbody
        exact ⟨first, last, by rw [hbody], hfirst, hlast⟩
    · cases hbody
  · rintro ⟨first, last, rfl, hfirst, hlast⟩
    exact withoutQuotes?_quoted hfirst hlast body

/-- The content of a text of two bytes or more stands between one byte and another; a shorter text
is its own content. -/
theorem content?_eq_some_iff {token : Token} (hkind : token.kind = .text) {content : String} :
    token.content? = some content ↔
      token.text.utf8ByteSize < 2 ∧ content = token.text ∨
        ∃ first last, token.text = first ++ content ++ last ∧ first.utf8ByteSize = 1 ∧
          last.utf8ByteSize = 1 := by
  have hcontent : token.content? = (withoutQuotes? token.text.toList).map String.ofList := by
    rw [content?, hkind]
  rw [hcontent]
  by_cases hshort : token.text.utf8ByteSize < 2
  · rw [withoutQuotes?, byteLength_toList, if_pos hshort, Option.map_some, String.ofList_toList,
      Option.some.injEq]
    constructor
    · rintro rfl
      exact .inl ⟨hshort, rfl⟩
    · rintro (⟨-, rfl⟩ | ⟨first, last, htext, hfirst, hlast⟩)
      · rfl
      · rw [htext, String.utf8ByteSize_append, String.utf8ByteSize_append] at hshort
        omega
  · have hlong : 2 ≤ byteLength token.text.toList := by
      rw [byteLength_toList]
      exact Nat.le_of_not_lt hshort
    rw [Option.map_eq_some_iff]
    constructor
    · rintro ⟨body, hbody, rfl⟩
      obtain ⟨first, last, htext, hfirst, hlast⟩ := (withoutQuotes?_eq_some_iff hlong).1 hbody
      refine .inr ⟨.singleton first, .singleton last, ?_, ?_, ?_⟩
      · rw [← String.toList_inj, htext]
        simp
      · rw [String.utf8ByteSize_singleton, hfirst]
      · rw [String.utf8ByteSize_singleton, hlast]
    · rintro (⟨h, -⟩ | ⟨first, last, htext, hfirst, hlast⟩)
      · exact absurd h hshort
      · rw [← byteLength_toList] at hfirst hlast
        obtain ⟨c, hc, hfirst⟩ := eq_singleton_of_byteLength hfirst
        obtain ⟨d, hd, hlast⟩ := eq_singleton_of_byteLength hlast
        refine ⟨content.toList, (withoutQuotes?_eq_some_iff hlong).2 ⟨c, d, ?_, hfirst, hlast⟩,
          String.ofList_toList⟩
        rw [htext, String.toList_append, String.toList_append, hc, hd, List.append_assoc]
        rfl

/-- A text has content when its cuts fall on boundaries. -/
theorem isCuttable_iff {token : Token} (hkind : token.kind = .text) :
    token.IsCuttable ↔ ∃ content, token.content? = some content := by
  simp only [content?_eq_some_iff hkind]
  constructor
  · intro h
    by_cases hshort : token.text.utf8ByteSize < 2
    · exact ⟨_, .inl ⟨hshort, rfl⟩⟩
    obtain ⟨hone, hend⟩ := h (Nat.le_of_not_lt hshort)
    obtain ⟨first, back, htext, hfirst⟩ := isValid_iff.1 hone
    obtain ⟨front, last, htext', hfront⟩ := isValid_iff.1 hend
    have hlast : last.utf8ByteSize = 1 := by
      have hsize := congrArg String.utf8ByteSize htext'
      rw [String.utf8ByteSize_append] at hsize
      omega
    obtain ⟨c, hc, -⟩ := eq_singleton_of_byteLength ((byteLength_toList first).trans hfirst)
    -- as there are two bytes, the first character is in front of the second cut too
    rcases hchars : front.toList with _ | ⟨other, middle⟩
    · have hnone := byteLength_toList front
      rw [hchars, byteLength_nil] at hnone
      omega
    · have hsplit : c :: back.toList = other :: (middle ++ last.toList) := by
        rw [← List.cons_append, ← hchars, ← List.singleton_append, ← hc, ← String.toList_append,
          ← String.toList_append, ← htext, htext']
      obtain ⟨rfl, -⟩ := List.cons.inj hsplit
      refine ⟨String.ofList middle, .inr ⟨first, last, ?_, hfirst, hlast⟩⟩
      rw [htext', ← String.toList_inj]
      simp [hchars, hc]
  · rintro ⟨content, ⟨hshort, -⟩ | ⟨first, last, htext, hfirst, hlast⟩⟩ hlong
    · omega
    · have hsize : token.text.utf8ByteSize = (first ++ content).utf8ByteSize + 1 := by
        rw [htext, String.utf8ByteSize_append, hlast]
      refine ⟨isValid_iff.2 ⟨first, content ++ last, ?_, hfirst⟩,
        isValid_iff.2 ⟨first ++ content, last, htext, ?_⟩⟩
      · rw [htext, String.append_assoc]
      · rw [hsize, Nat.add_sub_cancel]

/-- A text has no content when one of its cuts falls inside a character. -/
theorem content?_eq_none_iff {token : Token} (hkind : token.kind = .text) :
    token.content? = none ↔ ¬ token.IsCuttable := by
  rw [isCuttable_iff hkind]
  cases token.content? <;> simp

/-- The lexer makes no text that cannot be cut. -/
theorem isCuttable_of_tokenize {text : String} {tokens : List Token}
    (h : tokenize text = .ok tokens) {token : Token} (htoken : token ∈ tokens)
    (hkind : token.kind = .text) : token.IsCuttable := by
  obtain ⟨⟨rest, hfits⟩, -⟩ := isFormed_of_tokenize h token htoken
  rw [hkind] at hfits
  generalize hcs : token.text.toList = cs at hfits
  cases hfits with
  | text hquote _ => exact (isCuttable_iff hkind).2 ⟨_, content?_of_quoted hkind hquote.symm hcs⟩

end Token

namespace Parser

open Grammar TokenReader

/-- **A parser fails for want of boundaries exactly at a text that cannot be cut.** A fresh parser
complains of the quotes of a token exactly when it has taken this token, which is a text, and one of
its cuts falls inside a character. Of any other text it takes the content, which stands between the
first byte and the last. And it has no such complaint about the tokens of a text. -/
theorem parse_cuts_texts (mode : ParseMode) (tokens : List Token) :
    let parsed := ({ tokens, mode } : Parser).parse
    (∀ found, parsed.1 = .error (.brokenText found) ↔
      found ∈ tokens.take parsed.2.consumed ∧ found.kind = .text ∧ ¬ found.IsCuttable) ∧
    (∀ token : Token, token.kind = .text → ∀ content, token.content? = some content ↔
      token.text.utf8ByteSize < 2 ∧ content = token.text ∨
        ∃ first last, token.text = first ++ content ++ last ∧ first.utf8ByteSize = 1 ∧
          last.utf8ByteSize = 1) ∧
    ∀ text, tokenize text = .ok tokens → ∀ found, parsed.1 ≠ .error (.brokenText found) := by
  intro parsed
  have hbroken : ∀ found, parsed.1 = .error (.brokenText found) →
      found ∈ tokens.take parsed.2.consumed ∧ found.kind = .text ∧ ¬ found.IsCuttable := by
    intro found hfound
    have hblames := blames_of_parse (by rintro rfl; cases hfound) hfound
    generalize tokens.take parsed.2.consumed = taken at hblames ⊢
    generalize tokens.drop parsed.2.consumed = left at hblames
    cases hblames with
    | within h =>
      cases h with
      | brokenText front hkind hcontent =>
        exact ⟨List.mem_append_right front List.mem_cons_self, hkind,
          (Token.content?_eq_none_iff hkind).1 hcontent⟩
  refine ⟨fun found => ⟨hbroken found, ?_⟩, fun token hkind content =>
    Token.content?_eq_some_iff hkind, fun text htext found hfound => ?_⟩
  · rintro ⟨hfound, hkind, hcut⟩
    exact parse_eq_brokenText hfound hkind ((Token.content?_eq_none_iff hkind).2 hcut)
  · obtain ⟨hmem, hkind, hcut⟩ := hbroken found hfound
    exact hcut (Token.isCuttable_of_tokenize htext (List.mem_of_mem_take hmem) hkind)

/-- A parser fails at once at a text in front that cannot be cut. -/
theorem parse_of_uncuttable {mode : ParseMode} {found : Token} (hkind : found.kind = .text)
    (hcut : ¬ found.IsCuttable) (rest : List Token) :
    ({ tokens := found :: rest, mode } : Parser).parse.1 = .error (.brokenText found) := by
  have hcontent := (Token.content?_eq_none_iff hkind).2 hcut
  have hprimary : ∀ inner?, (primary inner?).run ⟨found :: rest, 0⟩ =
      (.error (.brokenText found), ⟨rest, 0⟩) := by
    intro inner?
    rw [primary, run_bind, run_next_cons]
    simp only [hkind, reduceCtorEq, if_false]
    rw [run_bind, operandOf, hkind, textOf, hcontent]
    rfl
  have hrun : (wholeRule mode maxNesting).run ⟨[found] ++ rest, 0⟩ =
      (.error (.brokenText found), ⟨rest, 0⟩) := by
    rw [List.singleton_append, wholeRule, run_bind, expression_eq, disjunction, chain, run_bind,
      chain, run_bind, comparison, run_bind, hprimary]
  have hparse := parse_of_run (List.cons_ne_nil found rest) hrun
  exact congrArg Prod.fst hparse

/-- A text of one character of two bytes cannot be cut, as both cuts would fall inside it. A parser
that is given such a text alone fails. -/
theorem parse_cuts_character :
    let found : Token := ⟨.text, "\u00e9", 0⟩
    ¬ found.IsCuttable ∧
      ∀ mode, ({ tokens := [found], mode } : Parser).parse.1 = .error (.brokenText found) := by
  intro found
  have hcut : ¬ found.IsCuttable := fun h => absurd (h (by decide)).1 (by decide)
  exact ⟨hcut, fun mode => parse_of_uncuttable rfl hcut []⟩

end Parser

end Eligibility

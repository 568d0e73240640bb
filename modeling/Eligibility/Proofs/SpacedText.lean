import Eligibility.Proofs.Surroundings
import Eligibility.Proofs.Tiling

/-!
# Texts with blanks between them

Blanks keep texts apart: whatever stands behind them, the tokens in front are read as they were, and
reading goes on behind them as at the start of a text.

* **Places** (`Lexer.next_shift`, `Lexer.tokens_shift`): a lexer further on in a text reads the
  same, a fault included, only at places further on.
* **Behind blanks** (`tokenize_append`): behind a text that is read and blanks, the tokens of any
  other text follow, or its fault does.
* **Single tokens** (`tokenize_token`): the text of a token of a text is read as that token alone. A
  token that was followed by other characters than the end of a text did not need them.
* **Respaced texts** (`Spaced`, `tokenize_of_spaced`): the texts of the tokens with any blanks
  between them are read as tokens of the same kinds and texts.

`tokenize_respaced` puts all this together.
-/

namespace Eligibility

open Text

/-- The fault so many bytes further on. -/
def UnexpectedCharacter.shift (offset : Nat) (e : UnexpectedCharacter) : UnexpectedCharacter :=
  { e with position := e.position + offset }

namespace Lexer

/-! ### Places -/

/-- The lexer so many bytes further on in a text. -/
def shift (offset : Nat) (lexer : Lexer) : Lexer :=
  { lexer with position := lexer.position + offset }

/-- Blanks are skipped alike wherever the text starts. -/
theorem skipBlanks_shift (lexer : Lexer) (offset : Nat) :
    (lexer.shift offset).skipBlanks = lexer.skipBlanks.shift offset := by
  simp only [skipBlanks, shift, Nat.add_right_comm]

/-- So many bytes further on, the same is read. -/
theorem next_shift (lexer : Lexer) (offset : Nat) :
    (lexer.shift offset).next =
      (lexer.next.1.map fun found =>
          (found.map (Token.shift offset)).mapError (UnexpectedCharacter.shift offset),
        lexer.next.2.shift offset) := by
  unfold next
  rw [skipBlanks_shift]
  generalize lexer.skipBlanks = lexer
  rcases lexer with ⟨_ | ⟨c, rest⟩, position⟩
  · rfl
  · simp only [shift]
    cases lexeme? (c :: rest) with
    | none =>
      simp [atEnd, Except.map, Except.mapError, UnexpectedCharacter.shift, Nat.add_right_comm]
    | some l => simp [behind, Except.map, Except.mapError, Token.shift, Nat.add_right_comm]

/-- So many bytes further on, the same tokens are collected, or the same fault is met. -/
theorem collect_shift (done : List Token) (lexer : Lexer) (offset : Nat) :
    collect (done.map (Token.shift offset)) (lexer.shift offset) =
      ((collect done lexer).map (List.map (Token.shift offset))).mapError
        (UnexpectedCharacter.shift offset) := by
  fun_induction collect done lexer with
  | case1 done lexer after hnext =>
    have hshifted : (lexer.shift offset).next = (none, after.shift offset) := by
      rw [next_shift, hnext]
      rfl
    rw [collect_of_next_none hshifted, ← List.map_reverse]
    rfl
  | case2 done lexer e after hnext =>
    have hshifted : (lexer.shift offset).next =
        (some (.error (e.shift offset)), after.shift offset) := by
      rw [next_shift, hnext]
      rfl
    rw [collect_of_next_error hshifted]
    rfl
  | case3 done lexer token after hnext ih =>
    have hshifted : (lexer.shift offset).next =
        (some (.ok (token.shift offset)), after.shift offset) := by
      rw [next_shift, hnext]
      rfl
    rw [collect_of_next_ok hshifted, ← List.map_cons, ih]

/-- **Places do not count.** What is left is read further on as it is read at the start. -/
theorem tokens_shift (lexer : Lexer) (offset : Nat) :
    (lexer.shift offset).tokens =
      (lexer.tokens.map (List.map (Token.shift offset))).mapError
        (UnexpectedCharacter.shift offset) :=
  collect_shift [] lexer offset

/-! ### Behind blanks -/

/-- Blanks in front of what is left only count for places. -/
theorem collect_of_blanks {front : List Char} (h : ∀ c ∈ front, isBlank c = true)
    (done : List Token) (back : List Char) (position : Nat) :
    collect done ⟨front ++ back, position⟩ =
      collect done ⟨back, position + byteLength front⟩ := by
  have hnext := next_of_blanks h back position
  rcases hback : next ⟨back, position + byteLength front⟩ with ⟨_ | (e | token), after⟩
  · rw [collect_of_next_none (hnext.trans hback), collect_of_next_none hback]
  · rw [collect_of_next_error (hnext.trans hback), collect_of_next_error hback]
  · rw [collect_of_next_ok (hnext.trans hback), collect_of_next_ok hback]

end Lexer

/-- No blank belongs to a token in front of it. -/
theorem Lexeme.endsAt_extendsToken {gap : String} (hne : gap ≠ "") (hgap : isAllBlank gap = true)
    (back : List Char) : EndsAt extendsToken (gap.toList ++ back) := by
  obtain ⟨c, others, hcs⟩ := List.exists_cons_of_ne_nil (mt String.toList_eq_nil_iff.1 hne)
  have hblank : isBlank c = true := List.all_eq_true.1 hgap c (by simp [hcs])
  have hmarks : c ≠ '=' ∧ c ≠ '.' := by
    constructor <;> rintro rfl <;> exact absurd hblank (by decide)
  rw [hcs, List.cons_append, endsAt_cons]
  simp [extendsToken, isWord_of_isBlank hblank, hmarks]

/-- **Blanks keep texts apart.** Behind a text that is read and blanks, the tokens of another text
follow those of the first, or the fault of the other text is met. -/
theorem tokenize_append {text gap : String} {tokens : List Token} (h : tokenize text = .ok tokens)
    (hne : gap ≠ "") (hgap : isAllBlank gap = true) (behind : String) :
    tokenize (text ++ gap ++ behind) =
      match tokenize behind with
      | .ok others => .ok (tokens ++ others.map (Token.shift (byteLength (text ++ gap).toList)))
      | .error e => .error (e.shift (byteLength (text ++ gap).toList)) := by
  obtain ⟨last, hreads, hlast⟩ := Lexer.tokens_eq_ok_iff.1 h
  have hblanks : ∀ c ∈ last.rest ++ gap.toList, isBlank c = true :=
    List.forall_mem_append.2 ⟨hlast, List.all_eq_true.1 hgap⟩
  -- the run over the first text stops in front of its blanks, and those behind it join them
  have hfront := hreads.append_right (Lexeme.endsAt_extendsToken hne hgap behind.toList) 0
  have hplace : last.position + byteLength (last.rest ++ gap.toList) =
      0 + byteLength (text ++ gap).toList := by
    have hend : last.position + byteLength last.rest = 0 + byteLength text.toList :=
      hreads.position_add
    rw [byteLength_append, ← Nat.add_assoc, hend, String.toList_append, byteLength_append,
      Nat.add_assoc]
  have hsame : tokens.map (Token.shift 0) = tokens := List.map_id' tokens
  calc tokenize (text ++ gap ++ behind)
      = Lexer.collect [] ⟨text.toList ++ (gap.toList ++ behind.toList), 0⟩ := by
        rw [tokenize, Lexer.ofText, Lexer.tokens, String.toList_append, String.toList_append,
          List.append_assoc]
    _ = Lexer.collect tokens.reverse ⟨last.rest ++ (gap.toList ++ behind.toList),
          last.position⟩ := by
        have hcollect := hfront.collect_eq []
        rwa [hsame, List.append_nil] at hcollect
    _ = Lexer.collect tokens.reverse ((Lexer.ofText behind).shift
          (byteLength (text ++ gap).toList)) := by
        rw [← List.append_assoc, Lexer.collect_of_blanks hblanks, hplace]
        rfl
    _ = _ := by
        rw [Lexer.collect_eq, Lexer.tokens_shift, List.reverse_reverse]
        show _ = match (Lexer.ofText behind).tokens with
          | .ok others => _
          | .error e => _
        cases (Lexer.ofText behind).tokens <;> rfl

/-! ### Single tokens -/

/-- What fits in front of some characters fits at the end of a text, unless it is a keyword that was
taken as a name. -/
theorem Lexeme.Fits.alone {kind : Token.Kind} {cs rest : List Char} (h : Fits kind cs rest)
    (hname : kind = .name → connective? cs = none) : Fits kind cs [] := by
  cases h with
  | leftParen => exact .leftParen []
  | rightParen => exact .rightParen []
  | comparator _ => exact .comparator (by simp)
  | connective hword hkeyword _ => exact .connective hword hkeyword (endsAt_nil _)
  | name hword _ _ => exact .name hword (.inl (hname rfl)) (endsAt_nil _)
  | number hwhole hne hfraction _ _ => exact .number hwhole hne hfraction (endsAt_nil _) (by simp)
  | text hquote hbody => exact .text hquote hbody

/-- **A token is read alone as it is read in its text.** -/
theorem tokenize_token {text : String} {tokens : List Token} (h : tokenize text = .ok tokens) :
    ∀ token ∈ tokens, tokenize token.text = .ok [⟨token.kind, token.text, 0⟩] := by
  intro token htoken
  obtain ⟨⟨rest, hfits⟩, hname⟩ := isFormed_of_tokenize h token htoken
  have hreads := Lexer.Reads.one (hfits.alone hname) 0
  rw [List.append_nil, String.ofList_toList] at hreads
  exact Lexer.tokens_eq_ok_iff.2 ⟨_, hreads, List.forall_mem_nil _⟩

/-! ### Respaced texts -/

/-- Tokens of one kind and one text, wherever they stand. -/
def Token.IsSame (a b : Token) : Prop := a.kind = b.kind ∧ a.text = b.text

/-- These texts in a row, with blanks between them; there can be more blanks at the end. -/
inductive Spaced : List String → String → Prop
  | nil : Spaced [] ""
  | last (text : String) : Spaced [text] text
  | cons {text gap joined : String} {texts : List String} (hne : gap ≠ "")
      (hgap : isAllBlank gap = true) (hrest : Spaced texts joined) :
      Spaced (text :: texts) (text ++ gap ++ joined)

/-- The same blanks between any two of the texts are blanks between them. -/
theorem spaced_intercalate {gap : String} (hne : gap ≠ "") (hgap : isAllBlank gap = true)
    (texts : List String) : Spaced texts (gap.intercalate texts) := by
  induction texts with
  | nil => exact .nil
  | cons text texts ih =>
    cases texts with
    | nil =>
      rw [String.intercalate_singleton]
      exact .last text
    | cons next texts =>
      rw [String.intercalate_cons_cons]
      exact .cons hne hgap ih

/-- **Blanks between tokens do not count.** Tokens of which each is read alone are read again, one
after the other, from their texts with any blanks between them. -/
theorem tokenize_of_spaced {tokens : List Token} {joined : String}
    (h : Spaced (tokens.map Token.text) joined)
    (halone : ∀ token ∈ tokens, tokenize token.text = .ok [⟨token.kind, token.text, 0⟩]) :
    ∃ others, tokenize joined = .ok others ∧
      List.Forall₂ Token.IsSame tokens others := by
  generalize htexts : tokens.map Token.text = texts at h
  induction h generalizing tokens with
  | nil =>
    obtain rfl := List.map_eq_nil_iff.1 htexts
    exact ⟨[], Lexer.tokens_eq_ok_iff.2 ⟨_, .done _, List.forall_mem_nil _⟩, .nil⟩
  | last text =>
    obtain ⟨token, rfl, rfl⟩ := List.map_eq_singleton_iff.1 htexts
    exact ⟨_, halone token List.mem_cons_self, .cons ⟨rfl, rfl⟩ .nil⟩
  | @cons text gap joined texts hne hgap _ ih =>
    obtain ⟨token, rest, rfl, rfl, hrest⟩ := List.map_eq_cons_iff.1 htexts
    obtain ⟨htoken, halone⟩ := List.forall_mem_cons.1 halone
    obtain ⟨others, hothers, halike⟩ := ih halone hrest
    have hjoined := tokenize_append htoken hne hgap joined
    rw [hothers] at hjoined
    exact ⟨_, hjoined, .cons ⟨rfl, rfl⟩ (List.forall₂_map_right_iff.2 halike)⟩

/-- **Texts are read part by part.** Behind a text that is read and blanks, the tokens of any other
text follow as many bytes further on as there are in front of it, or its fault is met so far on.
Each token of the text is read alone as it was read there, so that their texts with any blanks
between them are read as tokens of the same kinds and texts. -/
theorem tokenize_respaced {text : String} {tokens : List Token} (h : tokenize text = .ok tokens) :
    (∀ gap behind : String, gap ≠ "" → isAllBlank gap = true →
      tokenize (text ++ gap ++ behind) =
        match tokenize behind with
        | .ok others => .ok (tokens ++ others.map (Token.shift (byteLength (text ++ gap).toList)))
        | .error e => .error (e.shift (byteLength (text ++ gap).toList))) ∧
    (∀ token ∈ tokens, tokenize token.text = .ok [⟨token.kind, token.text, 0⟩]) ∧
    ∀ joined, Spaced (tokens.map Token.text) joined →
      ∃ others, tokenize joined = .ok others ∧
        List.Forall₂ Token.IsSame tokens others :=
  ⟨fun _ behind hne hgap => tokenize_append h hne hgap behind, tokenize_token h,
    fun _ hjoined => tokenize_of_spaced hjoined (tokenize_token h)⟩

/-- A keyword right behind a number, and a no-break space of two bytes in front of a text that is
refused at its second character. -/
theorem tokenize_respaced_of_keyword_behind_number :
    let tokens : List Token := [⟨.number, "1.5", 0⟩, ⟨.connective .or, "oR", 3⟩]
    tokenize "1.5oR" = .ok tokens ∧
      tokenize "1.5oR\u00a0y$" = .error ⟨8, '$'⟩ ∧
      tokenize "oR" = .ok [⟨.connective .or, "oR", 0⟩] ∧
      ∃ others, tokenize "1.5 \t oR" = .ok others ∧
        List.Forall₂ Token.IsSame tokens others := by
  intro tokens
  have htokens : tokenize "1.5oR" = .ok tokens :=
    Lexer.tokens_eq_ok_iff.2 ⟨⟨[], 5⟩, .token rfl (.token rfl (.done _)), by simp⟩
  have hfault : tokenize "y$" = .error ⟨1, '$'⟩ :=
    Lexer.tokens_eq_error_iff.2 ⟨_, ⟨['$'], 1⟩, _, .token rfl (.done _), rfl⟩
  obtain ⟨hbehind, halone, hspaced⟩ := tokenize_respaced htokens
  refine ⟨htokens, ?_, halone ⟨.connective .or, "oR", 3⟩ (by simp [tokens]), hspaced _ ?_⟩
  · have hgap := hbehind "\u00a0" "y$" (by decide) (by decide)
    rw [hfault] at hgap
    exact hgap
  · exact @spaced_intercalate " \t " (by decide) (by decide) _

end Eligibility

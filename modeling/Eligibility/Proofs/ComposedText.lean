import Eligibility.Proofs.RuleText
import Eligibility.Proofs.Surroundings

/-!
# Rules put together as texts

Rules can be joined without reading them: their texts are put in parentheses, with the keyword of a
connective between them. What is read from the whole is the join of what is read from the texts.

* **One text** (`readsAs_group`): a text in parentheses is read as its condition wherever it stands.
  Behind the text comes a parenthesis, which belongs to none of its tokens, and the parenthesis in
  front takes one of those that the parser may open.
* **Many texts** (`ofText_composedText`): with a keyword between them, in any case, they are read as
  the join of their conditions from the left.
-/

namespace Eligibility

open Text

namespace Condition

/-- Texts in parentheses, with a keyword between them. -/
def composedText (keyword : String) (texts : List String) : String :=
  (" " ++ keyword ++ " ").intercalate (texts.map fun text => "(" ++ text ++ ")")

/-- **Parentheses change nothing.** A text that opens one parenthesis less than the parser may is
read in parentheses as its condition, in front of anything. -/
theorem readsAs_group {mode : ParseMode} {text : String} {tokens : List Token}
    {condition : Condition} (h : ofText mode text = .ok condition)
    (htokens : tokenize text = .ok tokens)
    (hnested : Grammar.NestedWithin (maxNesting - 1 : Nat) tokens) :
    ReadsAs mode .comparison ("(" ++ text ++ ")") condition := by
  intro back _ position
  have htext : ("(" ++ text ++ ")").toList ++ back = '(' :: (text.toList ++ ')' :: back) := by
    simp
  have hstop : EndsAt Lexeme.extendsToken (')' :: back) := (endsAt_cons _ _ _).2 (by decide)
  obtain ⟨last, hreads, hblank⟩ := Lexer.tokens_eq_ok_iff.1 htokens
  have hopening := Lexer.Reads.one (.leftParen (text.toList ++ ')' :: back)) position
  have hinner := hreads.append_right hstop (position + byteLength ['('])
  rw [Lexer.ofText, Nat.zero_add] at hinner
  -- what is left of the text are blanks, and the parenthesis stands behind these
  have hclosing := Lexer.Reads.of_blanks hblank (List.cons_ne_nil _ _)
    (Lexer.Reads.one (.rightParen back) (last.position + (position + byteLength ['(']) +
      byteLength last.rest))
  obtain ⟨_, hsame, hderives, -⟩ := ofText_eq_ok_iff.1 h
  obtain rfl := Except.ok.inj (htokens.symm.trans hsame)
  have hwithin : Grammar.DerivesWithin mode (maxNesting - 1) .disjunction tokens condition :=
    ⟨hderives, hnested⟩
  rw [htext]
  exact ⟨_, _, hopening.append (hinner.append hclosing), (hwithin.shift _).group rfl rfl⟩

/-- **Rules can be joined as texts.** From any texts, of which there is one, conditions are read one
by one, and none of the texts opens more than 255 parentheses inside each other. Then from the texts
in parentheses, with the keyword of a connective between them in any case, the join of these
conditions is read. -/
theorem ofText_composedText {mode : ParseMode} {keyword : String} {connective : Connective}
    {texts : List String} {conditions : List Condition}
    (hkeyword : Connective.ofKeyword keyword = .ok connective) (hne : texts ≠ [])
    (htexts : texts.map (ofText mode) = conditions.map .ok)
    (hnested : ∀ text ∈ texts, ∃ tokens, tokenize text = .ok tokens ∧
      Grammar.NestedWithin (maxNesting - 1 : Nat) tokens) :
    ∃ joined, joinAll? connective conditions = some joined ∧
      ofText mode (composedText keyword texts) = .ok joined := by
  have hread : List.Forall₂ (fun text condition => ofText mode text = .ok condition)
      texts conditions := by
    rw [← List.forall₂_eq_eq_eq, List.forall₂_map_left_iff, List.forall₂_map_right_iff] at htexts
    exact htexts
  have hparts : List.Forall₂ (ReadsAs mode .comparison)
      (texts.map fun text => "(" ++ text ++ ")") conditions := by
    rw [List.forall₂_map_left_iff]
    refine ((List.forall₂_and_left texts conditions).2 ⟨hnested, hread⟩).imp ?_
    rintro text condition ⟨⟨tokens, htokens, hdeep⟩, htext⟩
    exact readsAs_group htext htokens hdeep
  obtain ⟨first, rest, rfl⟩ := List.exists_cons_of_ne_nil hne
  rw [List.map_cons, List.forall₂_cons_left_iff] at hparts
  obtain ⟨condition, others, hfirst, hrest, rfl⟩ := hparts
  exact ⟨_, rfl, ((hfirst.raise _).intercalate hkeyword hrest).ofText⟩

/-- A text that holds a closing parenthesis, and one that is in parentheses already, with the
keyword written in mixed case. -/
theorem ofText_composedText_of_parentheses :
    let left : Condition := .compare "a" .equal (.text ")")
    let right : Condition := .join .and (name "b") (name "c")
    ofText .lenient "(a = ')') oR ((b AND c))" = .ok (join .or left right) := by
  intro left right
  have hkeyword : Connective.ofKeyword "oR" = .ok .or :=
    Connective.ofKeyword_eq_ok_iff.2 (by decide)
  have hwritable : ∀ c ∈ [left, right], c.IsWritable := by decide
  have hlow : ∀ c ∈ [left, right], c.height ≤ maxNesting - 1 := by decide
  have htexts : ([left, right].map ruleText).map (ofText .lenient) = [left, right].map .ok := by
    rw [List.map_map]
    apply List.map_congr_left
    intro c hc
    exact ofText_ruleText_of_height_le (hwritable c hc) (Nat.le_succ_of_le (hlow c hc))
  have hnested : ∀ text ∈ [left, right].map ruleText, ∃ tokens, tokenize text = .ok tokens ∧
      Grammar.NestedWithin (maxNesting - 1 : Nat) tokens := by
    rw [List.forall_mem_map]
    intro c hc
    obtain ⟨tokens, htokens, hspells⟩ := tokenize_ruleText (hwritable c hc)
    exact ⟨tokens, htokens, (hspells.nestedWithin_iff _).2 (Int.ofNat_le.2 (hlow c hc))⟩
  obtain ⟨joined, hjoined, hread⟩ :=
    ofText_composedText hkeyword (List.cons_ne_nil _ _) htexts hnested
  obtain rfl : join .or left right = joined := Option.some.inj hjoined
  exact hread

end Condition

end Eligibility

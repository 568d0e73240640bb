import Eligibility.Proofs.JoinedConditions
import Eligibility.Proofs.RuleText
import Eligibility.Proofs.SpacedText

/-!
# Alternatives without parentheses

`OR` binds weakest, so two rules can be joined by writing it between their texts. What is read is
not the join of the two conditions: the alternatives of the second rule are joined one by one to
what stands in front of them. It means what the join means.

* **Derivations** (`Derives.alternatives`): by induction on the derivation of the second rule, along
  its alternatives. Each of them is joined to a condition that is a bracketing of all that stands in
  front of it, so that both rules together are a bracketing of the first one and the alternatives of
  the second.
* **Texts** (`ofText_alternatives`): the keyword between blanks is read as one token whatever stands
  around it (`tokenize_of_keyword`). What is read has the leaves of both rules, and the meaning of
  their join, since all bracketings of the same conditions mean the same.
-/

namespace Eligibility

open Text

namespace Grammar

/-- **Alternatives in a row.** Behind `OR`, the alternatives of a rule are joined one by one to the
rule in front. -/
theorem Derives.alternatives {mode : ParseMode} {first second : List Token} {joint : Token}
    {left right : Condition} (hleft : Derives mode .disjunction first left)
    (hjoint : joint.kind = .connective .or) (hright : Derives mode .disjunction second right) :
    ∃ joined parts, Derives mode .disjunction (first ++ joint :: second) joined ∧
      Condition.Bracketing .or parts right ∧ Condition.Bracketing .or (left :: parts) joined := by
  generalize hlevel : Level.disjunction = level at hright
  induction hright with
  | @ofConjunction tokens condition h =>
    refine ⟨.join .or left condition, [condition], .or hleft hjoint h, .part condition, ?_⟩
    exact (Condition.Bracketing.part left).join (.part condition)
  | @or front back keyword alternatives last _ hkeyword hlast ih =>
    obtain ⟨joined, parts, hjoined, hparts, hall⟩ := ih hlevel
    refine ⟨.join .or joined last, parts ++ [last], ?_, hparts.join (.part last),
      hall.join (.part last)⟩
    have htokens : first ++ joint :: (front ++ keyword :: back) =
        (first ++ joint :: front) ++ keyword :: back := by
      rw [List.append_assoc, List.cons_append]
    rw [htokens]
    exact .or hjoined hkeyword hlast
  | _ => cases hlevel

/-- The same, when the parentheses of both rules are within those that may be opened. -/
theorem DerivesWithin.alternatives {mode : ParseMode} {allowance : Nat}
    {first second : List Token} {joint : Token} {left right : Condition}
    (hleft : DerivesWithin mode allowance .disjunction first left)
    (hjoint : joint.kind = .connective .or)
    (hright : DerivesWithin mode allowance .disjunction second right) :
    ∃ joined parts,
      DerivesWithin mode allowance .disjunction (first ++ joint :: second) joined ∧
        Condition.Bracketing .or parts right ∧ Condition.Bracketing .or (left :: parts) joined := by
  obtain ⟨joined, parts, hjoined, hparts, hall⟩ := hleft.1.alternatives hjoint hright.1
  exact ⟨joined, parts, ⟨hjoined, nestedWithin_joint hleft hjoint hright⟩, hparts, hall⟩

end Grammar

/-! ### Texts -/

/-- Going further on twice is going further on once. -/
theorem Token.shift_comp_shift (offset other : Nat) :
    shift offset ∘ shift other = shift (other + offset) := by
  funext token
  rw [Function.comp_apply, shift, shift, shift, Nat.add_assoc]

/-- The keyword of a connective, in any case, is a token of its own. -/
theorem tokenize_of_keyword {keyword : String} {connective : Connective}
    (h : Connective.ofKeyword keyword = .ok connective) :
    tokenize keyword = .ok [⟨.connective connective, keyword, 0⟩] := by
  have hfits : Lexeme.Fits (.connective connective) keyword.toList [] := by
    apply (fits_of_ofKeyword h []).alone
    intro hname
    cases hname
  have hreads := Lexer.Reads.one hfits 0
  rw [List.append_nil, String.ofList_toList] at hreads
  exact Lexer.tokens_eq_ok_iff.2 ⟨_, hreads, List.forall_mem_nil _⟩

/-- Two texts with a keyword between them are read as the tokens of both with the keyword between
them. -/
theorem tokenize_joined {first second keyword : String} {connective : Connective}
    {front back : List Token} (hkeyword : Connective.ofKeyword keyword = .ok connective)
    (hfront : tokenize first = .ok front) (hback : tokenize second = .ok back) :
    ∃ joint offset, joint.kind = .connective connective ∧
      tokenize (first ++ " " ++ (keyword ++ " " ++ second)) =
        .ok (front ++ joint :: back.map (Token.shift offset)) := by
  -- both times a blank stands behind what is read first, so that its tokens stay as they are
  have hne : " " ≠ "" := by decide
  have hblank : isAllBlank " " = true := by decide
  have hbehind := tokenize_append (tokenize_of_keyword hkeyword) hne hblank second
  rw [hback] at hbehind
  have hall := tokenize_append hfront hne hblank (keyword ++ " " ++ second)
  rw [hbehind] at hall
  simp only [List.singleton_append, List.map_cons, List.map_map, Token.shift_comp_shift] at hall
  exact ⟨_, _, rfl, hall⟩

namespace Condition

/-- **Rules can be joined by `OR` without parentheses.** From two texts, conditions are read. Then
from the first text, `OR` and the second text a condition is read that has the leaves of both in
their order, and for every record it has the value of the join of the two, or none for the same
reason. -/
theorem ofText_alternatives {mode : ParseMode} {first second : String} {left right : Condition}
    (hleft : ofText mode first = .ok left) (hright : ofText mode second = .ok right) :
    ∃ joined, ofText mode (first ++ " OR " ++ second) = .ok joined ∧
      joined.leaves = left.leaves ++ right.leaves ∧
      ∀ record, joined.evaluate record = (join .or left right).evaluate record := by
  obtain ⟨front, hfront, hleftWithin⟩ := ofText_eq_ok_iff.1 hleft
  obtain ⟨back, hback, hrightWithin⟩ := ofText_eq_ok_iff.1 hright
  obtain ⟨joint, offset, hjoint, htokens⟩ :=
    tokenize_joined (Connective.ofKeyword_keyword .or) hfront hback
  obtain ⟨joined, parts, hjoined, hparts, hall⟩ :=
    hleftWithin.alternatives hjoint (hrightWithin.shift offset)
  have htext : first ++ " OR " ++ second = first ++ " " ++ ("OR" ++ " " ++ second) := by
    simp only [String.append_assoc]
    rfl
  -- the join of the two is a bracketing of the same conditions
  have hjoin : Bracketing .or (left :: parts) (join .or left right) :=
    (Bracketing.part left).join hparts
  refine ⟨joined, ?_, ?_, fun record => ?_⟩
  · rw [htext]
    exact ofText_eq_ok_iff.2 ⟨_, htokens, hjoined⟩
  · rw [hall.leaves_eq, ← hjoin.leaves_eq]
    rfl
  · rw [evaluate_eq_meaning, evaluate_eq_meaning, hall.meaning_eq, hjoin.meaning_eq]

/-- The rules `a = 'b'` and `c = 'd' OR vip`. The alternatives of the second one are joined to the
first one by one, so that the tree is another one than that of the join; both complain about the
same bare name. -/
theorem ofText_alternatives_of_chain :
    let first : Condition := .compare "a" .equal (.text "b")
    let second : Condition := .compare "c" .equal (.text "d")
    let chain : Condition := join .or second (name "vip")
    ofText .lenient "a = 'b'" = .ok first ∧ ofText .lenient "c = 'd' OR vip" = .ok chain ∧
      ∃ joined, ofText .lenient "a = 'b' OR c = 'd' OR vip" = .ok joined ∧
        joined ≠ join .or first chain ∧
        joined.leaves = (join .or first chain).leaves ∧
        joined.evaluate [] = .error (.bareOperand (.name "vip")) := by
  intro first second chain
  have hplain : ∀ c ∈ [first, second, name "vip"], c.IsWritable ∧ c.height ≤ maxNesting := by
    decide
  obtain ⟨hfirstPlain, hrestPlain⟩ := List.forall_mem_cons.1 hplain
  have hfirst : ofText .lenient first.ruleText = .ok first :=
    ofText_ruleText_of_height_le hfirstPlain.1 hfirstPlain.2
  have hchain : ofText .lenient (disjunctionText second [name "vip"]) = .ok chain :=
    ofText_disjunctionText hrestPlain
  have hall : ofText .lenient (disjunctionText first [second, name "vip"]) =
      .ok (join .or (join .or first second) (name "vip")) :=
    ofText_disjunctionText hplain
  obtain ⟨joined, hjoined, hleaves, hvalue⟩ := ofText_alternatives hfirst hchain
  refine ⟨hfirst, hchain, joined, hjoined, ?_, hleaves, ?_⟩
  · rw [← Except.ok.inj (hall.symm.trans hjoined)]
    decide
  · rw [hvalue, evaluate_eq_meaning]
    rfl

end Condition

end Eligibility

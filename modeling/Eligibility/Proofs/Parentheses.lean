import Eligibility.Proofs.Faults

/-!
# Parentheses and their partners

Parentheses belong together when the tokens between them are balanced. A parser does not look for
partners: it blames a closing parenthesis behind a complete rule, and an opening one when no closing
one stands behind the rule that it has read inside.

* **Balance** (`Balanced`): rules are balanced (`Derives.balanced`), and what stands behind balanced
  tokens is closed with them or without them (`Balanced.hasClosing_append_iff`).
* **A closing parenthesis** that is blamed has no partner, since a rule stands in front of it.
* **An opening parenthesis** that is blamed has its partner, if any, among the tokens that the
  parser has left, and these do not begin with it (`parse_blames_parenthesis`). So it lacks a
  partner where no tokens are left. In front of others it is blamed all the same
  (`parse_of_unclosed`), and may be closed (`parse_blames_closed_parenthesis`).
-/

namespace Eligibility

namespace Grammar

open TokenReader

/-! ### Balanced tokens -/

/-- As many parentheses are closed as are opened, and no front closes more than it opens. -/
structure Balanced (tokens : List Token) : Prop where
  openParens_eq : openParens tokens = 0
  openParens_nonneg : ∀ front back, tokens = front ++ back → 0 ≤ openParens front

variable {front back tokens : List Token}

/-- Without tokens nothing is out of balance. -/
theorem balanced_nil : Balanced [] := by
  refine ⟨rfl, fun front back h => ?_⟩
  obtain ⟨rfl, -⟩ := List.append_eq_nil_iff.1 h.symm
  exact Int.le_refl 0

/-- Balanced tokens behind balanced tokens are balanced. -/
theorem Balanced.append (hfront : Balanced front) (hback : Balanced back) :
    Balanced (front ++ back) := by
  refine ⟨by rw [openParens_append, hfront.openParens_eq, hback.openParens_eq]; rfl, ?_⟩
  intro first rest h
  obtain ⟨inner, hfirst, hinner⟩ | ⟨outer, houter, -⟩ := List.append_eq_append_iff.1 h
  · rw [hfirst, openParens_append, hfront.openParens_eq, Int.zero_add]
    exact hback.openParens_nonneg inner rest hinner
  · exact hfront.openParens_nonneg first outer houter

/-- Behind balanced tokens, what makes them balanced with them is balanced. -/
theorem Balanced.of_append (hfront : Balanced front) (h : Balanced (front ++ back)) :
    Balanced back := by
  have hopen : ∀ tokens, openParens (front ++ tokens) = openParens tokens := by
    intro tokens
    rw [openParens_append, hfront.openParens_eq, Int.zero_add]
  refine ⟨(hopen back).symm.trans h.openParens_eq, fun first rest heq => ?_⟩
  rw [← hopen first]
  exact h.openParens_nonneg _ rest (by rw [heq, List.append_assoc])

/-- A token that is no parenthesis is balanced. -/
theorem balanced_singleton {token : Token} (h : opens token = 0) : Balanced [token] := by
  refine ⟨by simp [h], fun first rest heq => ?_⟩
  rcases first with _ | ⟨other, first⟩
  · exact Int.le_refl 0
  · obtain ⟨rfl, hrest⟩ := List.cons.inj heq
    obtain ⟨rfl, -⟩ := List.append_eq_nil_iff.1 hrest.symm
    simp [h]

/-- Balanced tokens in parentheses are balanced. -/
theorem Balanced.group {opening closing : Token} (hopening : opening.kind = .leftParen)
    (h : Balanced tokens) (hclosing : closing.kind = .rightParen) :
    Balanced (opening :: (tokens ++ [closing])) := by
  have hall : openParens (opening :: (tokens ++ [closing])) = 0 := by
    simp [opens_of_leftParen hopening, opens_of_rightParen hclosing, h.openParens_eq]
  refine ⟨hall, fun first rest heq => ?_⟩
  rcases first with _ | ⟨other, first⟩
  · exact Int.le_refl 0
  obtain ⟨rfl, hrest⟩ := List.cons.inj heq
  obtain ⟨inner, rfl, hinner⟩ | ⟨outer, houter, -⟩ := List.append_eq_append_iff.1 hrest
  · rcases inner with _ | ⟨last, inner⟩
    · simp [opens_of_leftParen hopening, h.openParens_eq]
    · obtain ⟨rfl, hnil⟩ := List.cons.inj hinner
      obtain ⟨rfl, -⟩ := List.append_eq_nil_iff.1 hnil.symm
      exact Int.le_of_eq hall.symm
  · have hnonneg := h.openParens_nonneg first outer houter
    rw [openParens_cons, opens_of_leftParen hopening]
    omega

/-- A rule is balanced. -/
theorem Derives.balanced {mode : ParseMode} {level : Level} {condition : Condition}
    (h : Derives mode level tokens condition) : Balanced tokens := by
  induction h with
  | ofConjunction _ ih => exact ih
  | ofComparison _ ih => exact ih
  | or _ hjoint _ ihl ihr | and _ hjoint _ ihl ihr =>
    exact ihl.append ((balanced_singleton (opens_of_connective hjoint)).append ihr)
  | compare hfield hsymbol hside =>
    exact (balanced_singleton (opens_of_name hfield)).append
      ((balanced_singleton (opens_of_comparator hsymbol)).append
        (balanced_singleton (opens_of_denotes hside)))
  | group hopening _ hclosing ih => exact ih.group hopening hclosing
  | bare _ hdenotes => exact balanced_singleton (opens_of_denotes hdenotes)

/-! ### Partners -/

/-- Among these tokens, behind an opening parenthesis, stands the closing one that belongs to it. -/
def HasClosing (back : List Token) : Prop :=
  ∃ inside closing rest, back = inside ++ closing :: rest ∧ Balanced inside ∧
    closing.kind = .rightParen

/-- Among these tokens, in front of a closing parenthesis, stands the opening one that belongs to
it. -/
def HasOpening (front : List Token) : Prop :=
  ∃ before opening inside, front = before ++ opening :: inside ∧ opening.kind = .leftParen ∧
    Balanced inside

/-- Where there are no tokens nothing is closed. -/
theorem not_hasClosing_nil : ¬ HasClosing [] := by
  rintro ⟨inside, closing, rest, h, -⟩
  simp at h

/-- In balanced tokens every opening parenthesis has found its partner. -/
theorem Balanced.not_hasOpening (h : Balanced front) : ¬ HasOpening front := by
  rintro ⟨before, opening, inside, rfl, hopening, hinside⟩
  have hbefore := h.openParens_nonneg before _ rfl
  have hall := h.openParens_eq
  rw [openParens_append, openParens_cons, opens_of_leftParen hopening,
    hinside.openParens_eq] at hall
  omega

/-- Balanced tokens close nothing that was opened in front of them, and keep nothing from being
closed behind them. -/
theorem Balanced.hasClosing_append_iff (hfront : Balanced front) :
    HasClosing (front ++ back) ↔ HasClosing back := by
  constructor
  · rintro ⟨inside, closing, rest, heq, hinside, hclosing⟩
    obtain ⟨between, rfl, hback⟩ | ⟨outer, hfront', hrest⟩ := List.append_eq_append_iff.1 heq
    · exact ⟨between, closing, rest, hback, hfront.of_append hinside, hclosing⟩
    · rcases outer with _ | ⟨other, outer⟩
      · exact ⟨[], closing, rest, hrest.symm, balanced_nil, hclosing⟩
      · -- the closing parenthesis would be one too many among the balanced tokens
        obtain ⟨rfl, -⟩ := List.cons.inj hrest
        have hnonneg := hfront.openParens_nonneg (inside ++ [closing]) outer (by simp [hfront'])
        rw [openParens_append, hinside.openParens_eq, openParens_cons,
          opens_of_rightParen hclosing] at hnonneg
        simp at hnonneg
  · rintro ⟨inside, closing, rest, rfl, hinside, hclosing⟩
    exact ⟨front ++ inside, closing, rest, by rw [List.append_assoc], hfront.append hinside,
      hclosing⟩

/-! ### Parentheses that are not closed where they should be -/

/-- The parenthesis at the front is blamed when the rule inside it ends in front of something else
than a closing one. -/
theorem wholeRule_of_unclosed {mode : ParseMode} {allowance depth : Nat} {opening : Token}
    {inside left : List Token} {condition : Condition} (hopening : opening.kind = .leftParen)
    (hinside : DerivesWithin mode allowance .disjunction inside condition)
    (hcomparator : NoComparator left)
    (hconnective : ∀ token ∈ left.head?, ∀ connective, token.kind ≠ .connective connective)
    (hclosing : ∀ token ∈ left.head?, token.kind ≠ .rightParen) :
    (wholeRule mode (allowance + 1)).run ⟨opening :: (inside ++ left), depth⟩ =
      (.error (.unclosedParen opening.position), ⟨left, depth⟩) := by
  have hinner : (expression mode allowance).run ⟨inside ++ left, depth + 1⟩ =
      (.ok condition, ⟨left, depth + 1⟩) := by
    rw [expression_eq, reads_of_derives hinside.1 allowance hinside.2 (depth + 1) left hcomparator
      fun token htoken => hconnective token htoken .and]
    exact chainFrom_of_end (fun token htoken => hconnective token htoken .or) _ _
  have hprimary : (primary (inner? mode (allowance + 1))).run ⟨opening :: (inside ++ left), depth⟩ =
      (.error (.unclosedParen opening.position), ⟨left, depth⟩) := by
    rw [inner?, primary, run_bind, run_next_cons]
    simp only [if_pos hopening]
    rw [run_bind, run_nested]
    simp only [hinner]
    rw [run_bind, closeParen_of_other hclosing]
    rfl
  rw [wholeRule, run_bind, expression_eq, disjunction, chain, run_bind, chain, run_bind, comparison,
    run_bind, hprimary]

end Grammar

namespace Parser

open Grammar

/-- At this place stands this token, between these, and no other token has this place. -/
structure StandsAlone (tokens : List Token) (position : Nat) (front : List Token) (token : Token)
    (back : List Token) : Prop where
  tokens_eq : tokens = front ++ token :: back
  position_eq : token.position = position
  position_ne : ∀ other ∈ front ++ back, other.position ≠ position

/-- Where all places differ, each token stands alone. -/
theorem standsAlone_of_pairwise {front back : List Token} {token : Token}
    (h : (front ++ token :: back).Pairwise fun first second => first.position ≠ second.position) :
    StandsAlone (front ++ token :: back) token.position front token back := by
  obtain ⟨-, hback, hfront⟩ := List.pairwise_append.1 h
  obtain ⟨hback, -⟩ := List.pairwise_cons.1 hback
  refine ⟨rfl, rfl, fun other hother => ?_⟩
  obtain hother | hother := List.mem_append.1 hother
  · exact hfront other hother token List.mem_cons_self
  · exact (hback other hother).symm

/-- A fresh parser blames the parenthesis at the front when the rule inside it ends in front of
something else than a closing one, and it stops there. -/
theorem parse_of_unclosed {mode : ParseMode} {opening : Token} {inside left : List Token}
    {condition : Condition} (hopening : opening.kind = .leftParen)
    (hinside : Derives mode .disjunction inside condition)
    (hnested : NestedWithin maxNesting (opening :: inside)) (hcomparator : NoComparator left)
    (hconnective : ∀ token ∈ left.head?, ∀ connective, token.kind ≠ .connective connective)
    (hclosing : ∀ token ∈ left.head?, token.kind ≠ .rightParen) :
    ({ tokens := opening :: (inside ++ left), mode } : Parser).parse =
      (.error (.unclosedParen opening.position),
        { tokens := opening :: (inside ++ left), consumed := (opening :: inside).length,
          mode }) := by
  rw [nestedWithin_cons, opens_of_leftParen hopening] at hnested
  have hrun : (wholeRule mode maxNesting).run ⟨(opening :: inside) ++ left, 0⟩ =
      (.error (.unclosedParen opening.position), ⟨left, 0⟩) :=
    wholeRule_of_unclosed hopening ⟨hinside, hnested.2⟩ hcomparator hconnective hclosing
  exact parse_of_run (List.cons_ne_nil _ _) hrun

/-- **What the blame for a parenthesis means**, where no two tokens have the same place. When a fresh
parser blames a closing parenthesis, the one at that place has no partner. When it blames an opening
one, behind the one at that place stand a rule and then the tokens that the parser has left, which
do not begin with a closing parenthesis; so its partner is missing exactly when it is missing among
the tokens left. -/
theorem parse_blames_parenthesis (mode : ParseMode) (tokens : List Token)
    (hplaces : tokens.Pairwise fun first second => first.position ≠ second.position)
    (position : Nat) :
    let parsed := ({ tokens, mode } : Parser).parse
    let left := tokens.drop parsed.2.consumed
    (parsed.1 = .error (.unmatchedParen position) →
      ∃ front closing back, StandsAlone tokens position front closing back ∧
        closing.kind = .rightParen ∧ ¬ HasOpening front) ∧
    (parsed.1 = .error (.unclosedParen position) →
      ∃ front opening inside condition,
        StandsAlone tokens position front opening (inside ++ left) ∧ opening.kind = .leftParen ∧
          Derives mode .disjunction inside condition ∧
          (∀ token ∈ left.head?, token.kind ≠ .rightParen) ∧
          (HasClosing (inside ++ left) ↔ HasClosing left)) := by
  intro parsed left
  have hblames : ∀ e, e ≠ .empty → parsed.1 = .error e →
      BlamesWhole mode (tokens.take parsed.2.consumed) left e := by
    intro e hne he
    refine blames_of_parse ?_ he
    rintro rfl
    exact hne (Except.error.inj he).symm
  have hsplit : tokens = tokens.take parsed.2.consumed ++ left :=
    (List.take_append_drop parsed.2.consumed tokens).symm
  generalize tokens.take parsed.2.consumed = taken at hblames hsplit
  generalize left = left at hblames hsplit ⊢
  subst hsplit
  constructor
  · intro he
    cases hblames _ (by simp) he with
    | within h => cases h
    | unmatchedParen htaken hclosing =>
      exact ⟨taken, _, _, standsAlone_of_pairwise hplaces, hclosing, htaken.balanced.not_hasOpening⟩
  · intro he
    cases hblames _ (by simp) he with
    | within h =>
      cases h with
      | unclosedParen _ hopening hinside hleft =>
        rw [List.append_assoc, List.cons_append] at hplaces ⊢
        exact ⟨_, _, _, _, standsAlone_of_pairwise hplaces, hopening, hinside, hleft,
          hinside.balanced.hasClosing_append_iff⟩

/-- The tokens of `(a = b (c = d)`. The first parenthesis is blamed, and no partner of it is there:
the closing one belongs to the second. -/
theorem parse_blames_parenthesis_of_two_opened :
    let first : List Token := [⟨.name, "a", 1⟩, ⟨.comparator .equal, "=", 3⟩, ⟨.name, "b", 5⟩]
    let second : List Token := [⟨.name, "c", 8⟩, ⟨.comparator .equal, "=", 10⟩, ⟨.name, "d", 12⟩]
    let left : List Token := ⟨.leftParen, "(", 7⟩ :: (second ++ [⟨.rightParen, ")", 13⟩])
    let tokens : List Token := ⟨.leftParen, "(", 0⟩ :: (first ++ left)
    ({ tokens } : Parser).parse.1 = .error (.unclosedParen 0) ∧
      ∃ front opening back, StandsAlone tokens 0 front opening back ∧
        opening.kind = .leftParen ∧ ¬ HasClosing back := by
  intro first second left tokens
  have hfirst : Derives .lenient .disjunction first (.compare "a" .equal (.text "b")) :=
    (Derives.compare rfl rfl (.name rfl)).raise .disjunction
  have hsecond : Derives .lenient .disjunction second (.compare "c" .equal (.text "d")) :=
    (Derives.compare rfl rfl (.name rfl)).raise .disjunction
  have hparse : ({ tokens } : Parser).parse = (.error (.unclosedParen 0), _) :=
    parse_of_unclosed rfl hfirst (by simp [first, opens, maxNesting])
      (noComparator_of_kind rfl _) (by simp [left]) (by simp [left])
  have hleft : ¬ HasClosing left := by
    have hiff : HasClosing (left ++ []) ↔ HasClosing [] :=
      (hsecond.balanced.group rfl rfl).hasClosing_append_iff
    rw [List.append_nil] at hiff
    exact fun h => not_hasClosing_nil (hiff.1 h)
  obtain ⟨-, hunclosed⟩ := parse_blames_parenthesis .lenient tokens (by decide) 0
  rw [hparse] at hunclosed
  obtain ⟨front, opening, inside, -, halone, hopening, -, -, hiff⟩ := hunclosed rfl
  exact ⟨congrArg Prod.fst hparse, front, opening, _, halone, hopening, fun h => hleft (hiff.1 h)⟩

/-- The tokens of `(a = b c)`. The parenthesis is blamed for the name behind the comparison, and its
partner is there. -/
theorem parse_blames_closed_parenthesis :
    let inside : List Token := [⟨.name, "a", 1⟩, ⟨.comparator .equal, "=", 3⟩, ⟨.name, "b", 5⟩]
    let left : List Token := [⟨.name, "c", 7⟩, ⟨.rightParen, ")", 8⟩]
    let tokens : List Token := ⟨.leftParen, "(", 0⟩ :: (inside ++ left)
    (tokens.Pairwise fun first second => first.position ≠ second.position) ∧
      (∀ mode, ({ tokens, mode } : Parser).parse.1 = .error (.unclosedParen 0)) ∧
      HasClosing (inside ++ left) := by
  intro inside left tokens
  have hinside : ∀ mode, Derives mode .disjunction inside (.compare "a" .equal (.text "b")) :=
    fun mode => (Derives.compare rfl rfl (.name rfl)).raise .disjunction
  refine ⟨by decide, fun mode => ?_, ?_⟩
  · have hparse : ({ tokens, mode } : Parser).parse = (.error (.unclosedParen 0), _) :=
      parse_of_unclosed rfl (hinside mode) (by simp [inside, opens, maxNesting])
        (noComparator_of_kind rfl _) (by simp [left]) (by simp [left])
    exact congrArg Prod.fst hparse
  · rw [(hinside .lenient).balanced.hasClosing_append_iff]
    exact ⟨[⟨.name, "c", 7⟩], ⟨.rightParen, ")", 8⟩, [], rfl, balanced_singleton rfl, rfl⟩

end Parser

end Eligibility

import Eligibility.Condition.Parser

/-!
# The grammar of rules

What a rule is can be said without a parser. `Token.Denotes` is what a token stands for as an
operand, `Derives` is the grammar, with left recursion for the two connectives and one clause for
each form of a comparison, and `NestedWithin` bounds the open parentheses as a property of the
tokens alone.

* **Quoted texts** (`Token.denotes_iff_of_quoted`): a text between quotes stands for what is
  between them.
* **Parentheses** (`nestedWithin_cons`, `nestedWithin_append`): how the bound is shared out among
  tokens in a row; `Derives.openParens_eq_zero`, that a derivation closes what it opens.
-/

namespace Eligibility

/-! ### What tokens stand for -/

/-- What a token stands for as an operand. -/
inductive Token.Denotes : Token → Operand → Prop
  /-- A name is itself. -/
  | name {token : Token} (hkind : token.kind = .name) : Denotes token (.name token.text)
  /-- A number is a finite one. -/
  | number {token : Token} {x : Binary64} (hkind : token.kind = .number)
      (hvalue : Binary64.finiteOfChars? token.text.toList = some x) :
      Denotes token (.literal (.number x))
  /-- A text is what stands between its quotes. -/
  | text {token : Token} {content : String} (hkind : token.kind = .text)
      (hcontent : token.content? = some content) : Denotes token (.literal (.text content))

/-- What an operand is on the right side of a comparison, where a name is a text. -/
def Operand.asLiteral : Operand → Literal
  | .name word => .text word
  | .literal value => value

/-- The content of a text between quotes is the text between them. -/
theorem Token.content?_of_quoted {token : Token} {quote : Char} {body : List Char}
    (hkind : token.kind = .text) (hquote : quote = '\'' ∨ quote = '"')
    (htext : token.text.toList = quote :: (body ++ [quote])) :
    token.content? = some (String.ofList body) := by
  have hsize : quote.utf8Size = 1 := by rcases hquote with rfl | rfl <;> decide
  rw [content?, hkind, htext]
  simp [withoutQuotes?_quoted hsize hsize]

/-- A text between quotes is the text between them, and nothing else. -/
theorem Token.denotes_iff_of_quoted {token : Token} {quote : Char} {body : List Char}
    (hkind : token.kind = .text) (hquote : quote = '\'' ∨ quote = '"')
    (htext : token.text.toList = quote :: (body ++ [quote])) (operand : Operand) :
    token.Denotes operand ↔ operand = .literal (.text (String.ofList body)) := by
  have hcontent := content?_of_quoted hkind hquote htext
  constructor
  · rintro (h | ⟨h, _⟩ | ⟨_, h⟩)
    · rw [hkind] at h; cases h
    · rw [hkind] at h; cases h
    · rw [hcontent, Option.some.injEq] at h
      rw [h]
  · rintro rfl
    exact .text hkind hcontent

namespace Grammar

/-! ### Derivations -/

/-- The levels of the grammar. -/
inductive Level where
  /-- Conjunctions with `OR` between them. -/
  | disjunction
  /-- Comparisons with `AND` between them. -/
  | conjunction
  /-- A comparison, a rule in parentheses or a bare operand. -/
  | comparison
deriving DecidableEq, Repr

/-- The tokens from which a condition is derived at a level. -/
inductive Derives (mode : ParseMode) : Level → List Token → Condition → Prop
  | ofConjunction {tokens : List Token} {condition : Condition}
      (h : Derives mode .conjunction tokens condition) :
      Derives mode .disjunction tokens condition
  | or {first second : List Token} {joint : Token} {left right : Condition}
      (hleft : Derives mode .disjunction first left) (hjoint : joint.kind = .connective .or)
      (hright : Derives mode .conjunction second right) :
      Derives mode .disjunction (first ++ joint :: second) (.join .or left right)
  | ofComparison {tokens : List Token} {condition : Condition}
      (h : Derives mode .comparison tokens condition) :
      Derives mode .conjunction tokens condition
  | and {first second : List Token} {joint : Token} {left right : Condition}
      (hleft : Derives mode .conjunction first left) (hjoint : joint.kind = .connective .and)
      (hright : Derives mode .comparison second right) :
      Derives mode .conjunction (first ++ joint :: second) (.join .and left right)
  | compare {field symbol side : Token} {comparator : Comparator} {operand : Operand}
      (hfield : field.kind = .name) (hsymbol : symbol.kind = .comparator comparator)
      (hside : side.Denotes operand) :
      Derives mode .comparison [field, symbol, side]
        (.compare field.text comparator operand.asLiteral)
  | group {opening closing : Token} {tokens : List Token} {condition : Condition}
      (hopening : opening.kind = .leftParen) (h : Derives mode .disjunction tokens condition)
      (hclosing : closing.kind = .rightParen) :
      Derives mode .comparison (opening :: (tokens ++ [closing])) condition
  | bare {token : Token} {operand : Operand} (hmode : mode = .lenient)
      (h : token.Denotes operand) : Derives mode .comparison [token] (.leaf (.operand operand))

/-- The level at which conditions are joined by a connective. -/
def Level.joinedBy : Connective → Level
  | .and => .conjunction
  | .or => .disjunction

/-- A comparison stands at every level. -/
theorem Derives.raise {mode : ParseMode} {tokens : List Token} {condition : Condition}
    (h : Derives mode .comparison tokens condition) (level : Level) :
    Derives mode level tokens condition := by
  cases level with
  | disjunction => exact .ofConjunction (.ofComparison h)
  | conjunction => exact .ofComparison h
  | comparison => exact h

/-- What is derived at any level is a rule. -/
theorem Derives.disjunction {mode : ParseMode} {level : Level} {tokens : List Token}
    {condition : Condition} (h : Derives mode level tokens condition) :
    Derives mode .disjunction tokens condition := by
  cases level with
  | disjunction => exact h
  | conjunction => exact .ofConjunction h
  | comparison => exact h.raise .disjunction

/-- One more comparison behind the keyword of a connective is joined to all that stands before. -/
theorem Derives.joined {mode : ParseMode} {connective : Connective} {first second : List Token}
    {joint : Token} {left right : Condition}
    (hleft : Derives mode (.joinedBy connective) first left)
    (hjoint : joint.kind = .connective connective)
    (hright : Derives mode .comparison second right) :
    Derives mode (.joinedBy connective) (first ++ joint :: second)
      (.join connective left right) := by
  cases connective with
  | and => exact .and hleft hjoint hright
  | or => exact .or hleft hjoint (.ofComparison hright)

/-- Nothing is derived from no tokens. -/
theorem Derives.ne_nil {mode : ParseMode} {level : Level} {tokens : List Token}
    {condition : Condition} (h : Derives mode level tokens condition) : tokens ≠ [] := by
  induction h with
  | ofConjunction _ ih => exact ih
  | ofComparison _ ih => exact ih
  | _ => simp

/-! ### Parentheses -/

/-- By how much a token changes the number of open parentheses. -/
def opens (token : Token) : Int :=
  if token.kind = .leftParen then 1 else if token.kind = .rightParen then -1 else 0

/-- The number of parentheses that are open behind these tokens. -/
def openParens (tokens : List Token) : Int := (tokens.map opens).sum

/-- No token lies inside more than `limit` open parentheses. -/
def NestedWithin (limit : Int) (tokens : List Token) : Prop :=
  ∀ front token back, tokens = front ++ token :: back → openParens front ≤ limit

@[simp] theorem openParens_nil : openParens [] = 0 := rfl

@[simp] theorem openParens_cons (token : Token) (tokens : List Token) :
    openParens (token :: tokens) = opens token + openParens tokens := by
  simp [openParens]

/-- Parentheses that are opened and closed in a row add up. -/
@[simp] theorem openParens_append (front back : List Token) :
    openParens (front ++ back) = openParens front + openParens back := by
  simp [openParens]

/-- A left parenthesis opens one. -/
theorem opens_of_leftParen {token : Token} (h : token.kind = .leftParen) : opens token = 1 := by
  simp [opens, h]

/-- A right parenthesis closes one. -/
theorem opens_of_rightParen {token : Token} (h : token.kind = .rightParen) :
    opens token = -1 := by
  simp [opens, h]

/-- A connective is no parenthesis. -/
theorem opens_of_connective {token : Token} {connective : Connective}
    (h : token.kind = .connective connective) : opens token = 0 := by
  simp [opens, h]

/-- A comparator is no parenthesis. -/
theorem opens_of_comparator {token : Token} {comparator : Comparator}
    (h : token.kind = .comparator comparator) : opens token = 0 := by
  simp [opens, h]

/-- A name is no parenthesis. -/
theorem opens_of_name {token : Token} (h : token.kind = .name) : opens token = 0 := by
  simp [opens, h]

/-- What denotes an operand is no parenthesis. -/
theorem opens_of_denotes {token : Token} {operand : Operand} (h : token.Denotes operand) :
    opens token = 0 := by
  cases h <;> simp [opens, *]

/-- Without tokens nothing is nested. -/
@[simp] theorem nestedWithin_nil (limit : Int) : NestedWithin limit [] := by
  intro front token back h
  simp at h

/-- One token behind the other: what the first one opens is no longer allowed for the rest. -/
@[simp] theorem nestedWithin_cons (limit : Int) (token : Token) (tokens : List Token) :
    NestedWithin limit (token :: tokens) ↔
      0 ≤ limit ∧ NestedWithin (limit - opens token) tokens := by
  constructor
  · intro h
    refine ⟨h [] token tokens rfl, fun front next back heq => ?_⟩
    have := h (token :: front) next back (by rw [heq, List.cons_append])
    rw [openParens_cons] at this
    omega
  · rintro ⟨hlimit, h⟩ front next back heq
    rcases front with _ | ⟨first, front⟩
    · exact hlimit
    · rw [List.cons_append, List.cons.injEq] at heq
      have := h front next back heq.2
      rw [openParens_cons, ← heq.1]
      omega

/-- Tokens behind others: what the others leave open is no longer allowed. -/
@[simp] theorem nestedWithin_append (limit : Int) (front back : List Token) :
    NestedWithin limit (front ++ back) ↔
      NestedWithin limit front ∧ NestedWithin (limit - openParens front) back := by
  induction front generalizing limit with
  | nil => simp
  | cons token front ih =>
    rw [List.cons_append, nestedWithin_cons, ih, nestedWithin_cons, openParens_cons, and_assoc,
      Int.sub_sub]

/-- Fewer open parentheses than tokens. -/
theorem nestedWithin_length (tokens : List Token) : NestedWithin tokens.length tokens := by
  have hle : ∀ front : List Token, openParens front ≤ front.length := by
    intro front
    induction front with
    | nil => simp
    | cons token front ih =>
      have : opens token ≤ 1 := by
        unfold opens
        split
        · omega
        · split <;> omega
      rw [openParens_cons, List.length_cons]
      omega
  rintro front token back rfl
  have := hle front
  rw [List.length_append]
  omega

/-- A derivation closes what it opens. -/
theorem Derives.openParens_eq_zero {mode : ParseMode} {level : Level} {tokens : List Token}
    {condition : Condition} (h : Derives mode level tokens condition) : openParens tokens = 0 := by
  induction h with
  | ofConjunction _ ih => exact ih
  | ofComparison _ ih => exact ih
  | or _ hjoint _ ihl ihr => simp [ihl, ihr, opens_of_connective hjoint]
  | and _ hjoint _ ihl ihr => simp [ihl, ihr, opens_of_connective hjoint]
  | compare hfield hsymbol hside =>
    simp [opens_of_name hfield, opens_of_comparator hsymbol, opens_of_denotes hside]
  | group hopening _ hclosing ih =>
    simp [ih, opens_of_leftParen hopening, opens_of_rightParen hclosing]
  | bare _ h => simp [opens_of_denotes h]

end Grammar

end Eligibility

import Eligibility.Condition.Evaluator
import Eligibility.Condition.Parser
import Eligibility.Text.Shown
import Eligibility.Token.Lexer

/-!
# Named rules

A rule has a name, the text it was written as and the condition read from that text. Name and text
must not be blank. The text of a rule can be replaced; when the new text cannot be read the rule
stays as it is.

Rules are stored as JSON objects, or as arrays of their three parts.

Main statements: `create_eq_ok_iff` and `setExpression_eq_ok_iff`, when a rule is made or changed
and what it then is.
-/

namespace Eligibility

/-- Why rules could not be made, joined or evaluated. -/
inductive RuleError where
  /-- The text holds a character at which no token can start. -/
  | unreadable (error : UnexpectedCharacter)
  /-- The tokens of the text are no rule. -/
  | ungrammatical (error : ParseError)
  /-- There is no such connective. -/
  | unknownConnective (error : UnknownConnective)
  /-- There is no answer for a record. -/
  | unanswered (error : EvaluationError)

/-- What is said about rules that could not be made, joined or evaluated. -/
def RuleError.message : RuleError → String
  | unreadable error => "Failed to create rule: " ++ error.message
  | ungrammatical error => "Failed to create rule: " ++ error.message
  | unknownConnective error => error.message
  | unanswered error => "Failed to evaluate rule: " ++ error.message

/-- The condition that a rule text says. -/
def Condition.ofText (mode : ParseMode) (text : String) : Except RuleError Condition :=
  match tokenize text with
  | .error e => .error (.unreadable e)
  | .ok tokens => (Condition.ofTokens mode tokens).mapError .ungrammatical

/-- Joins two conditions by the connective that a text names. -/
def Condition.joinNamed (name : String) (left right : Condition) : Except RuleError Condition :=
  match Connective.ofKeyword name with
  | .error e => .error (.unknownConnective e)
  | .ok connective => .ok (.join connective left right)

/-- Why a catalog of rules did not do what it was asked to. -/
inductive CatalogError where
  /-- A name is blank. -/
  | emptyName
  /-- A text is blank. -/
  | emptyExpression
  /-- There is a rule of this name already. -/
  | duplicate (name : String)
  /-- There is no rule of this name. -/
  | notFound (name : String)
  /-- No rules were named. -/
  | noRules
  /-- A rule could not be made or evaluated. -/
  | rule (error : RuleError)

/-- What is said when a catalog did not do what it was asked to. -/
def CatalogError.message : CatalogError → String
  | emptyName => "Name must be a non-empty string."
  | emptyExpression => "Expression must be a non-empty string."
  | duplicate name => "Rule with this name already exists: " ++ name
  | notFound name => "Rule not found: " ++ name
  | noRules => "At least one rule is required"
  | rule error => error.message

/-- A named rule. -/
structure Rule where
  name : String
  /-- The text of the rule. -/
  expression : String
  /-- What the text says. -/
  condition : Condition
deriving DecidableEq, Repr

namespace Rule

/-- The condition that a rule text says; the text must not be blank. -/
def conditionOf (mode : ParseMode) (expression : String) : Except CatalogError Condition :=
  if Text.isAllBlank expression then .error .emptyExpression
  else (Condition.ofText mode expression).mapError .rule

/-- Makes a rule. -/
def create (name expression : String) (mode : ParseMode) : Except CatalogError Rule :=
  if Text.isAllBlank name then .error .emptyName
  else (conditionOf mode expression).map fun condition => ⟨name, expression, condition⟩

/-- The rule with another text. -/
def setExpression (rule : Rule) (expression : String) (mode : ParseMode) :
    Except CatalogError Rule :=
  (conditionOf mode expression).map fun condition =>
    { rule with expression := expression, condition := condition }

/-- A rule as it is stored. -/
def toJson (rule : Rule) : Json :=
  .object [("name", .text rule.name), ("expression", .text rule.expression),
    ("ast", rule.condition.toCanonical)]

end Rule

/-! ### Reading stored rules -/

/-- Why a JSON value is no stored rule. -/
inductive StoredRuleError where
  /-- Something else was found than what was expected. -/
  | unexpected (found : Json) (expected : String)
  /-- A member is missing. -/
  | missingField (name : String)
  /-- An array has fewer than three items. -/
  | tooShort (length : Nat)
  /-- An array has more than three items. -/
  | tooLong (length : Nat)
  /-- The condition cannot be read. -/
  | condition (error : CanonicalError)

/-- How messages show what was found. -/
def Json.shownKind : Json → String
  | .null => "null"
  | .boolean value => "boolean `" ++ (if value then "true" else "false") ++ "`"
  | .number (.integer value lower upper) =>
    "integer `" ++ (Json.Number.integer value lower upper).text ++ "`"
  | .number (.real value finite) =>
    "floating point `" ++ (Json.Number.real value finite).text ++ "`"
  | .text value => "string " ++ Text.shown value
  | .array _ => "sequence"
  | .object _ => "map"

/-- What is said about a JSON value that is no stored rule. -/
def StoredRuleError.message : StoredRuleError → String
  | unexpected found expected => "invalid type: " ++ found.shownKind ++ ", expected " ++ expected
  | missingField name => "missing field `" ++ name ++ "`"
  | tooShort length =>
    "invalid length " ++ Text.decimal length ++ ", expected struct Rule with 3 elements"
  | tooLong length =>
    "invalid length " ++ Text.decimal length ++ ", expected fewer elements in array"
  | condition error => error.documentMessage

namespace Rule

/-- A string of a stored rule. -/
def storedText : Json → Except StoredRuleError String
  | .text value => .ok value
  | found => .error (.unexpected found "a string")

/-- The condition of a stored rule. -/
def storedCondition (value : Json) : Except StoredRuleError Condition :=
  (Condition.ofCanonical value).mapError .condition

/-- A member of a stored rule, if it is there. -/
def storedMember? (read : Json → Except StoredRuleError α) (members : Json.Members)
    (name : String) : Except StoredRuleError (Option α) :=
  match Json.member? members name with
  | none => .ok none
  | some value => (read value).map some

/-- A member that was looked for and has to be there. -/
def requireField (name : String) : Option α → Except StoredRuleError α
  | some value => .ok value
  | none => .error (.missingField name)

/-- The rule stored as an object. The members are read in the order of their names, and then those
that are missing are looked for in the order of the parts of a rule. -/
def ofMembers (members : Json.Members) : Except StoredRuleError Rule := do
  let condition? ← storedMember? storedCondition members "ast"
  let expression? ← storedMember? storedText members "expression"
  let name? ← storedMember? storedText members "name"
  return ⟨← requireField "name" name?, ← requireField "expression" expression?,
    ← requireField "ast" condition?⟩

/-- The rule stored as an array of its parts. -/
def ofItems : List Json → Except StoredRuleError Rule
  | [] => .error (.tooShort 0)
  | name :: items => do
    let name ← storedText name
    match items with
    | [] => .error (.tooShort 1)
    | expression :: items =>
      let expression ← storedText expression
      match items with
      | [] => .error (.tooShort 2)
      | condition :: items =>
        let condition ← storedCondition condition
        if items.isEmpty then return ⟨name, expression, condition⟩
        else .error (.tooLong (items.length + 3))

/-- The rule that a JSON value holds. -/
def ofJson : Json → Except StoredRuleError Rule
  | .object members => ofMembers members
  | .array items => ofItems items
  | found => .error (.unexpected found "struct Rule")

end Rule

/-! ### Making and changing rules -/

namespace Rule

/-- A text that is not blank has the condition that is read from it, and a blank one has none. -/
theorem conditionOf_eq_ok_iff {mode : ParseMode} {expression : String} {condition : Condition} :
    conditionOf mode expression = .ok condition ↔
      Text.isAllBlank expression = false ∧ Condition.ofText mode expression = .ok condition := by
  unfold conditionOf
  split
  · rename_i h
    simp [h]
  · rename_i h
    rcases Condition.ofText mode expression with e | read
    · constructor
      · intro hok
        cases hok
      · rintro ⟨-, hok⟩
        cases hok
    · show (Except.ok read : Except CatalogError Condition) = .ok condition ↔ _
      simp [h]

/-- A rule is made when neither its name nor its text is blank and the text can be read. -/
theorem create_eq_ok_iff {name expression : String} {mode : ParseMode} {rule : Rule} :
    create name expression mode = .ok rule ↔
      Text.isAllBlank name = false ∧ conditionOf mode expression = .ok rule.condition ∧
        rule.name = name ∧ rule.expression = expression := by
  obtain ⟨ruleName, ruleExpression, condition⟩ := rule
  unfold create
  split
  · rename_i h
    simp [h]
  · rename_i h
    cases conditionOf mode expression <;> simp [Except.map, h]
    constructor
    · rintro ⟨rfl, rfl, rfl⟩; exact ⟨rfl, rfl, rfl⟩
    · rintro ⟨rfl, rfl, rfl⟩; exact ⟨rfl, rfl, rfl⟩

/-- A rule is changed when the new text can be read; its name stays. -/
theorem setExpression_eq_ok_iff {rule changed : Rule} {expression : String} {mode : ParseMode} :
    rule.setExpression expression mode = .ok changed ↔
      conditionOf mode expression = .ok changed.condition ∧ changed.name = rule.name ∧
        changed.expression = expression := by
  obtain ⟨changedName, changedExpression, condition⟩ := changed
  unfold setExpression
  cases conditionOf mode expression <;> simp [Except.map]
  constructor
  · rintro ⟨rfl, rfl, rfl⟩; exact ⟨rfl, rfl, rfl⟩
  · rintro ⟨rfl, rfl, rfl⟩; exact ⟨rfl, rfl, rfl⟩

end Rule

end Eligibility

import Eligibility.Condition.Basic
import Eligibility.Json.Place
import Eligibility.Json.Text

/-!
# The canonical form

Conditions are stored and exchanged as JSON objects. A join has the type `operator` and the members
`operator`, `left` and `right`; a leaf has the type `operand` and a member `operand`, which holds
`field`, `op` and `value` for a comparison, `identifier` for a bare name and `value` for a bare
literal.

Documents come from outside, so reading one checks everything: names have to be names, texts must
not hold both kinds of quotes, and of several faults the first one on the way down and from left to
right is reported. Members that are not named here are ignored.
-/

namespace Eligibility

/-- What is wrong with the form of a node. -/
inductive Malformation where
  /-- The node is not an object. -/
  | notAnObject
  /-- The node lacks a member. -/
  | missing (member : String)
  /-- The member `operand` is not an object. -/
  | operandNotAnObject
  /-- The member `operator` is not a string. -/
  | operatorNotText
  /-- The member `op` is not a string. -/
  | comparatorNotText
  /-- The member `field` is not a name. -/
  | invalidField (found : Json)
  /-- The member `identifier` is not a name. -/
  | invalidName (found : Json)
  /-- The text of a literal holds both kinds of quotes. -/
  | mixedQuotes (found : Json)
  /-- A literal is neither a number nor a string. -/
  | invalidLiteral (found : Json)
deriving Repr

/-- Why a JSON value is not a condition. -/
inductive CanonicalError where
  /-- The type of a node is neither of the two. -/
  | unknownType (found : String)
  /-- No comparator has this symbol. -/
  | unsupportedComparator (symbol : String)
  /-- No connective has exactly this keyword. -/
  | unsupportedConnective (keyword : String)
  /-- A node has not the form of its type. -/
  | malformed (malformation : Malformation)
deriving Repr

/-- What is said about the form of a node. -/
def Malformation.message : Malformation → String
  | notAnObject => "node must be an object"
  | missing member => "missing '" ++ member ++ "'"
  | operandNotAnObject => "'operand' must be an object"
  | operatorNotText => "'operator' must be a string"
  | comparatorNotText => "'op' must be a string"
  | invalidField found => "invalid field name " ++ found.compact
  | invalidName found => "invalid identifier " ++ found.compact
  | mixedQuotes found => "text literal " ++ found.compact ++ " uses both quote characters"
  | invalidLiteral found => "literal must be a number or string, got " ++ found.compact

/-- What is said about a JSON value that is not a condition. -/
def CanonicalError.message : CanonicalError → String
  | unknownType found => "Unknown node type: " ++ found
  | unsupportedComparator symbol => "Unsupported operator: " ++ symbol
  | unsupportedConnective keyword => "Unsupported logical operator: " ++ keyword
  | malformed malformation => "Malformed node: " ++ malformation.message

/-- What is said about a document, or a part of one, that is not a condition. -/
def CanonicalError.documentMessage (error : CanonicalError) : String :=
  Json.faultText error.message

/-! ### Writing -/

/-- The member `operand` of a leaf. -/
def Leaf.canonicalMembers : Leaf → Json.Members
  | .comparison c =>
    [("field", .text c.field), ("op", .text c.comparator.symbol), ("value", c.literal.toJson)]
  | .operand (.name text) => [("identifier", .text text)]
  | .operand (.literal value) => [("value", value.toJson)]

/-- The canonical form of a condition. -/
def Condition.toCanonical : Condition → Json
  | .leaf l => .object [("operand", .object l.canonicalMembers), ("type", .text "operand")]
  | .join connective left right =>
    .object [("left", left.toCanonical), ("operator", .text connective.keyword),
      ("right", right.toCanonical), ("type", .text "operator")]

/-! ### Reading -/

/-- Does a text hold both kinds of quotes? -/
def hasMixedQuotes (text : String) : Bool := text.toList.contains '\'' && text.toList.contains '"'

namespace Canonical

/-- The member of a node that must be there. -/
def require (members : Json.Members) (name : String) : Except CanonicalError Json :=
  match Json.member? members name with
  | some value => .ok value
  | none => .error (.malformed (.missing name))

/-- The literal that a member holds. -/
def literal : Json → Except CanonicalError Literal
  | .number value => .ok (.number value.toBinary64)
  | .text value =>
    if hasMixedQuotes value then .error (.malformed (.mixedQuotes (.text value)))
    else .ok (.text value)
  | found => .error (.malformed (.invalidLiteral found))

/-- The name that a member holds. -/
def name (malformation : Json → Malformation) (found : Json) : Except CanonicalError String :=
  match found.asText? with
  | some text => if Text.isName text then .ok text else .error (.malformed (malformation found))
  | none => .error (.malformed (malformation found))

/-- The comparator that a member holds. -/
def comparator (found : Json) : Except CanonicalError Comparator :=
  match found.asText? with
  | none => .error (.malformed .comparatorNotText)
  | some symbol =>
    match Comparator.ofSymbol? symbol with
    | some c => .ok c
    | none => .error (.unsupportedComparator symbol)

/-- The connective that a member holds. -/
def connective (found : Json) : Except CanonicalError Connective :=
  match found.asText? with
  | none => .error (.malformed .operatorNotText)
  | some keyword =>
    match Connective.ofExactKeyword? keyword with
    | some c => .ok c
    | none => .error (.unsupportedConnective keyword)

/-- The leaf that the member `operand` holds: a comparison if there is a field, else a name if there
is one, else a literal. -/
def leaf (members : Json.Members) : Except CanonicalError Leaf :=
  match Json.member? members "field" with
  | some field => do
    let field ← name .invalidField field
    let comparator ← comparator (← require members "op")
    let literal ← literal (← require members "value")
    return .comparison ⟨field, comparator, literal⟩
  | none =>
    match Json.member? members "identifier" with
    | some identifier => do
      return .operand (.name (← name .invalidName identifier))
    | none => do
      return .operand (.literal (← literal (← require members "value")))

/-- The two types of nodes. -/
inductive NodeType where
  | operand
  | operator
deriving DecidableEq, Repr

/-- The type that a node states. -/
def nodeType (members : Json.Members) : Except CanonicalError NodeType :=
  match Json.member? members "type" with
  | some (.text found) =>
    if found = "operand" then .ok .operand
    else if found = "operator" then .ok .operator
    else .error (.unknownType found)
  | some found => .error (.unknownType found.compact)
  | none => .error (.unknownType "<missing>")

end Canonical

namespace Condition

/-- The condition that a JSON value holds. -/
def ofCanonical (value : Json) : Except CanonicalError Condition :=
  match value with
  | .object members =>
    match Canonical.nodeType members with
    | .error e => .error e
    | .ok .operand =>
      match Canonical.require members "operand" with
      | .error e => .error e
      | .ok (.object operand) => (Canonical.leaf operand).map .leaf
      | .ok _ => .error (.malformed .operandNotAnObject)
    | .ok .operator =>
      match (Canonical.require members "operator").bind Canonical.connective with
      | .error e => .error e
      | .ok connective =>
        match _hleft : Json.member? members "left" with
        | none => .error (.malformed (.missing "left"))
        | some left =>
          match ofCanonical left with
          | .error e => .error e
          | .ok left =>
            match _hright : Json.member? members "right" with
            | none => .error (.malformed (.missing "right"))
            | some right => (ofCanonical right).map (.join connective left)
  | _ => .error (.malformed .notAnObject)
termination_by sizeOf value
decreasing_by
  · exact Json.sizeOf_member? _hleft
  · exact Json.sizeOf_member? _hright

end Condition

end Eligibility

import Eligibility.Json.Reader
import Eligibility.Rule

/-!
# Requests

What the command line can be asked for: to check one rule, to join several, and to evaluate a
record. Rules are given as texts and as documents in canonical form; the texts come first. The
connective is read before any rule, the rules before the record, and the first fault is the answer.
-/

namespace Eligibility

/-- Why a request has no answer. -/
inductive RequestError where
  /-- A rule could not be made, joined or evaluated. -/
  | rule (error : RuleError)
  /-- A document is not JSON. -/
  | invalidJson
  /-- The input is not a record. -/
  | record (error : RecordError)
  /-- There is no input. -/
  | noInput
  /-- No rules were given. -/
  | noRules

/-- What is said when a request has no answer. Behind `Invalid JSON: ` it is the JSON library that
says what is wrong with a document, and where. Its words are not modelled, and the text for
`invalidJson` only stands in their place. -/
def RequestError.message : RequestError → String
  | rule error => error.message
  | invalidJson => "Invalid JSON: the text is not a JSON document"
  | record error => error.message
  | noInput => "No input provided. Use --input or pipe JSON to stdin."
  | noRules => "At least one --rule or --ast is required"

/-- The rules that a request is about. -/
structure RuleSources where
  /-- Rules given as texts. -/
  texts : List String := []
  /-- Rules given as documents in canonical form. -/
  documents : List String := []
  /-- The name of the connective that joins them. -/
  connective : String
  /-- Are operands that are compared with nothing refused? -/
  strict : Bool := false
deriving DecidableEq, Repr

namespace Request

/-- The conditions of rules given as texts. -/
def ofTexts (mode : ParseMode) : List String → Except RequestError (List Condition)
  | [] => .ok []
  | text :: rest =>
    match Condition.ofText mode text with
    | .error e => .error (.rule e)
    | .ok condition => (ofTexts mode rest).map (condition :: ·)

/-- The condition of a rule given as a document. -/
def ofDocument (document : String) : Except RequestError Condition :=
  match Json.ofText? document with
  | none => .error .invalidJson
  | some value =>
    (Condition.ofCanonical value).mapError fun e => .rule (.unanswered (.undecodable e))

/-- The conditions of rules given as documents. -/
def ofDocuments : List String → Except RequestError (List Condition)
  | [] => .ok []
  | document :: rest =>
    match ofDocument document with
    | .error e => .error e
    | .ok condition => (ofDocuments rest).map (condition :: ·)

/-- The conditions of all rules of a request, of which there must be one. -/
def conditions (sources : RuleSources) : Except RequestError (List Condition) :=
  match ofTexts (.ofStrict sources.strict) sources.texts with
  | .error e => .error e
  | .ok fromTexts =>
    match ofDocuments sources.documents with
    | .error e => .error e
    | .ok fromDocuments =>
      if (fromTexts ++ fromDocuments).isEmpty then .error .noRules
      else .ok (fromTexts ++ fromDocuments)

/-- The rules of a request, joined. -/
def joined (sources : RuleSources) : Except RequestError Condition :=
  match Connective.ofKeyword sources.connective with
  | .error e => .error (.rule (.unknownConnective e))
  | .ok connective =>
    match conditions sources with
    | .error e => .error e
    | .ok conditions =>
      match Condition.joinAll? connective conditions with
      | none => .error .noRules
      | some condition => .ok condition

/-- Checks a rule; the answer is its canonical form unless only its form was to be checked. -/
def check (text : String) (strict syntaxOnly : Bool) : Except RequestError (Option Json) :=
  match Condition.ofText (.ofStrict strict) text with
  | .error e => .error (.rule e)
  | .ok condition => .ok (if syntaxOnly then none else some condition.toCanonical)

/-- Joins rules; the answer is the canonical form. -/
def combine (sources : RuleSources) : Except RequestError Json :=
  (joined sources).map Condition.toCanonical

/-- The record that an input holds. -/
def recordOf : Option String → Except RequestError Record
  | none => .error .noInput
  | some input =>
    match Json.ofText? input with
    | none => .error .invalidJson
    | some value => (Record.ofJson value).mapError .record

/-- Are the rules, joined, true of the record that the input holds? -/
def evaluate (sources : RuleSources) (input : Option String) : Except RequestError Bool :=
  match joined sources with
  | .error e => .error e
  | .ok condition =>
    match recordOf input with
    | .error e => .error e
    | .ok record => (condition.evaluate record).mapError fun e => .rule (.unanswered e)

/-- The answer to an evaluation as it is printed. -/
def eligibility (eligible : Bool) : Json := .object [("eligible", .boolean eligible)]

end Request

end Eligibility

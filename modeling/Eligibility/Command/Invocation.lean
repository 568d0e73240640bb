import Eligibility.Command.Arguments
import Eligibility.Command.Request
import Eligibility.Settings

/-!
# Invocations

An invocation is what a command line asks for once its arguments are understood. Running one gives
an exit code, what is printed, and what is said about a failure. Options of the command line come
before the settings; strictness can be asked for by either.
-/

namespace Eligibility.Command

/-- The rules named on a command line. -/
structure Sources where
  texts : List String
  documents : List String
  connective : Option String
deriving DecidableEq, Repr

/-- What is asked for. -/
inductive Task where
  | check (text : String) (pretty syntaxOnly : Bool)
  | combine (sources : Sources) (pretty : Bool)
  | evaluate (sources : Sources) (input : Option String)
deriving DecidableEq, Repr

/-- A task, and whether it was asked to be strict. -/
structure Invocation where
  task : Task
  strict : Bool
deriving DecidableEq, Repr

/-- The name and version of the program. -/
def versionText : String := "rule 0.1.0"

/-- A short account of what can be asked for. -/
def helpText : String :=
  "Parse, combine and evaluate eligibility rules\n\n" ++
  "Usage: rule [--log-level X] [--strict] COMMAND\n\n" ++
  "Commands:\n" ++
  "  check RULE [-p|--pretty] [--syntax-only]\n" ++
  "  combine [-r|--rule R]... [-a|--ast A]... [-o|--operator O] [-p|--pretty]\n" ++
  "  eval [-r|--rule R]... [-a|--ast A]... [-o|--operator O] [-i|--input J]\n"

/-! ### Levels -/

/-- The options that may be given before and after the command. -/
def sharedOptions : List OptionSpec :=
  [⟨none, "log-level", .single⟩, ⟨none, "strict", .flag⟩, ⟨some 'h', "help", .help⟩]

/-- The options that name rules. -/
def sourceOptions : List OptionSpec :=
  [⟨some 'r', "rule", .repeated⟩, ⟨some 'a', "ast", .repeated⟩, ⟨some 'o', "operator", .single⟩]

/-- The option for indented output. -/
def prettyOption : OptionSpec := ⟨some 'p', "pretty", .flag⟩

/-- The level in front of the command. -/
def topLevel : Level where
  options := ⟨some 'V', "version", .version⟩ :: sharedOptions
  positionals := 0
  commands := ["check", "combine", "eval", "help"]

/-- The level of the command `check`. -/
def checkLevel : Level where
  options := prettyOption :: ⟨none, "syntax-only", .flag⟩ :: sharedOptions
  positionals := 1
  commands := []

/-- The level of the command `combine`. -/
def combineLevel : Level where
  options := prettyOption :: sourceOptions ++ sharedOptions
  positionals := 0
  commands := []

/-- The level of the command `eval`. -/
def evaluateLevel : Level where
  options := ⟨some 'i', "input", .single⟩ :: sourceOptions ++ sharedOptions
  positionals := 0
  commands := []

/-! ### Understanding arguments -/

/-- The rules that were named. -/
def sourcesOf (found : Matches) : Sources where
  texts := found.values "rule"
  documents := found.values "ast"
  connective := found.value? "operator"

/-- The task of the command `check`; it has to name a rule. -/
def checkTask (found : Matches) : Except Stop Task :=
  match found.positionals with
  | [text] => .ok (.check text (found.has "pretty") (found.has "syntax-only"))
  | _ => .error .usage

/-- Reads the arguments behind a command, of which `task` makes the task. -/
def invocationAt (level : Level) (task : Matches → Except Stop Task) (strict : Bool)
    (arguments : List String) : Except Stop Invocation :=
  match level.read arguments with
  | .error stop => .error stop
  | .ok found => (task found).map fun task => ⟨task, strict || found.has "strict"⟩

/-- Help may be asked for on the whole or on one command. -/
def helpStop : List String → Stop
  | [] => .help
  | [command] => if topLevel.commands.contains command then .help else .usage
  | _ => .usage

/-- What a command line asks for. -/
def invocationOf (arguments : List String) : Except Stop Invocation :=
  match topLevel.read arguments with
  | .error stop => .error stop
  | .ok found =>
    let strict := found.has "strict"
    match found.command with
    | some ("check", rest) => invocationAt checkLevel checkTask strict rest
    | some ("combine", rest) =>
      invocationAt combineLevel
        (fun found => .ok (.combine (sourcesOf found) (found.has "pretty"))) strict rest
    | some ("eval", rest) =>
      invocationAt evaluateLevel
        (fun found => .ok (.evaluate (sourcesOf found) (found.value? "input"))) strict rest
    | some (_, rest) => .error (helpStop rest)
    | none => .error .usage

/-! ### Running -/

/-- What a run of the program leaves behind. -/
structure Outcome where
  code : Nat
  output : String := ""
  complaint : String := ""
deriving DecidableEq, Repr

/-- A line of text. -/
def line (text : String) : String := text ++ "\n"

/-- The outcome of a request that was answered, or not. -/
def Outcome.ofAnswer : Except RequestError String → Outcome
  | .ok answer => { code := 0, output := line answer }
  | .error e => { code := 1, complaint := line e.message }

/-- The outcome when no command is run. -/
def Outcome.ofStop : Stop → Outcome
  | .usage => { code := 2, complaint := line "error: the arguments are not understood" }
  | .help => { code := 0, output := helpText }
  | .version => { code := 0, output := line versionText }

/-- A JSON value as it is printed. -/
def printed (pretty : Bool) (value : Json) : String :=
  if pretty then value.pretty else value.compact

/-- The rules of a request; a connective that is not named comes from the settings. -/
def requestSources (settings : Settings) (strict : Bool) (sources : Sources) : RuleSources where
  texts := sources.texts
  documents := sources.documents
  connective := sources.connective.getD settings.connective.keyword
  strict := strict

/-- The answer to a task. `input` is what is read when the task names no record of its own. -/
def answer (settings : Settings) (strict : Bool) (input : Option String) :
    Task → Except RequestError String
  | .check text pretty syntaxOnly =>
    (Request.check text strict syntaxOnly).map fun
      | none => "Syntax is valid"
      | some value => printed pretty value
  | .combine sources pretty =>
    (Request.combine (requestSources settings strict sources)).map (printed pretty)
  | .evaluate sources named =>
    (Request.evaluate (requestSources settings strict sources) (named <|> input)).map
      fun eligible => (Request.eligibility eligible).compact

/-- Does a task read its record from the standard input? -/
def Task.readsInput : Task → Bool
  | .evaluate _ none => true
  | _ => false

/-- Runs what a command line asks for. -/
def Invocation.run (invocation : Invocation) (settings : Settings) (input : Option String) :
    Outcome :=
  let strict := invocation.strict || settings.parseMode == .strict
  .ofAnswer (answer settings strict input invocation.task)

/-- Runs a command line with the variables and the standard input given. -/
def run (arguments : List String) (lookUp : String → Option String) (input : Option String) :
    Outcome :=
  match invocationOf arguments with
  | .error stop => .ofStop stop
  | .ok invocation => invocation.run (Settings.ofVariables lookUp) input

end Eligibility.Command

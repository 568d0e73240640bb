import Eligibility.Condition.ParseMode
import Eligibility.Connective

/-!
# Settings

What a catalog of rules and the command line start from: how strict rules are read, how several
rules are joined, and how much is logged. Settings come from named variables; a variable that is not
set, or that holds no value of its kind, leaves the default in place.
-/

namespace Eligibility

/-- The settings of a catalog and of the command line. -/
structure Settings where
  /-- What becomes of operands that are compared with nothing. -/
  parseMode : ParseMode := .lenient
  /-- How several rules are joined before they are evaluated. -/
  connective : Connective := .or
  /-- Which messages are logged. -/
  logLevel : String := "info"
deriving DecidableEq, Repr

namespace Settings

/-- The variable of the parse mode. -/
def parseModeVariable : String := "RULE_PARSE_MODE"

/-- The variable of the connective. -/
def connectiveVariable : String := "RULE_COMBINE_OPERATOR"

/-- The variable of the log level. -/
def logLevelVariable : String := "RULE_LOG"

/-- The value that a variable holds, or the default. -/
def valueOr (default : α) (read : String → Except ε α) : Option String → α
  | none => default
  | some raw => (read raw).toOption.getD default

/-- The log level that the variables hold. -/
def logLevelOf (lookUp : String → Option String) : String :=
  (lookUp logLevelVariable).getD ({} : Settings).logLevel

/-- The settings that the variables hold. -/
def ofVariables (lookUp : String → Option String) : Settings where
  parseMode := valueOr ({} : Settings).parseMode ParseMode.ofLabel (lookUp parseModeVariable)
  connective :=
    valueOr ({} : Settings).connective Connective.ofKeyword (lookUp connectiveVariable)
  logLevel := logLevelOf lookUp

end Settings

end Eligibility

import Eligibility.Binary64.Layout
import Eligibility.Condition.Basic

/-!
# Rule text

A condition is written with every join in parentheses, so that no precedence has to be known to read
it. The language has no escapes: a text is put between single quotes, or between double quotes when
it holds a single one. A text that holds both has no written form that can be read.
-/

namespace Eligibility

/-- A literal in rule text. -/
def Literal.ruleText : Literal → String
  | .number value => value.text
  | .text value =>
    if value.toList.contains '\'' then "\"" ++ value ++ "\"" else "'" ++ value ++ "'"

/-- A name or literal in rule text. -/
def Operand.ruleText : Operand → String
  | .name text => text
  | .literal value => value.ruleText

/-- A leaf in rule text. -/
def Leaf.ruleText : Leaf → String
  | .comparison c => c.field ++ " " ++ c.comparator.symbol ++ " " ++ c.literal.ruleText
  | .operand o => o.ruleText

/-- A condition in rule text. -/
def Condition.ruleText : Condition → String
  | .leaf l => l.ruleText
  | .join connective left right =>
    "(" ++ left.ruleText ++ " " ++ connective.keyword ++ " " ++ right.ruleText ++ ")"

end Eligibility

/-!
# Comparison symbols

The six ways in which a rule compares the value of a field with a literal.

Main statements: `ofSymbol?_symbol` and `symbol_of_ofSymbol?`, that a symbol names one comparator
and each comparator has one symbol.
-/

namespace Eligibility

/-- A comparison of a value with a literal. -/
inductive Comparator where
  | greater
  | less
  | equal
  | notEqual
  | greaterEqual
  | lessEqual
deriving DecidableEq, Repr, Inhabited

namespace Comparator

/-- All comparators. -/
def all : List Comparator := [greater, less, equal, notEqual, greaterEqual, lessEqual]

/-- How a comparator is written. -/
def symbol : Comparator → String
  | greater => ">"
  | less => "<"
  | equal => "="
  | notEqual => "!="
  | greaterEqual => ">="
  | lessEqual => "<="

/-- The comparator that is written like this. -/
def ofSymbol? (text : String) : Option Comparator := all.find? fun c => c.symbol == text

/-- Does a comparator hold of a value that stands so to a literal? -/
def holds : Comparator → Ordering → Bool
  | greater, order => order == .gt
  | less, order => order == .lt
  | equal, order => order == .eq
  | notEqual, order => order != .eq
  | greaterEqual, order => order != .lt
  | lessEqual, order => order != .gt

/-- Does a comparator hold of a value that cannot be ordered against the literal? Only inequality
does. -/
def holdsUnordered (c : Comparator) : Bool := c == notEqual

/-- The comparator that says the same with the two sides exchanged. -/
def mirrored : Comparator → Comparator
  | greater => less
  | less => greater
  | equal => equal
  | notEqual => notEqual
  | greaterEqual => lessEqual
  | lessEqual => greaterEqual

/-- The symbol of a comparator names it. -/
@[simp] theorem ofSymbol?_symbol (c : Comparator) : ofSymbol? c.symbol = some c := by
  cases c <;> decide

/-- A comparator is named by no other symbol than its own. -/
theorem symbol_of_ofSymbol? {text : String} {c : Comparator} (h : ofSymbol? text = some c) :
    c.symbol = text := by
  simpa using List.find?_some h

/-- A comparator says of two sides what the mirrored one says of them exchanged. -/
theorem holds_mirrored (c : Comparator) (order : Ordering) :
    c.mirrored.holds order = c.holds order.swap := by
  cases c <;> cases order <;> rfl

end Comparator

end Eligibility

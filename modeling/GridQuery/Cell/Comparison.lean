import GridQuery.Column.Kind

/-!
# Comparisons

The seven ways a condition compares a cell with a value, and which of them a family allows.

## Main definitions

* `Comparison`, `Comparison.symbol`: The comparisons and how they are written.
* `Family.supports`: The comparisons of a family.
-/

namespace GridQuery

/-- The ways a condition compares a cell with a value. -/
inductive Comparison
  | equal | unequal | greater | greaterEqual | less | lessEqual | like
  deriving DecidableEq, Repr

namespace Comparison

/-- How a comparison is written. -/
def symbol : Comparison → String
  | .equal => "="
  | .unequal => "!="
  | .greater => ">"
  | .greaterEqual => ">="
  | .less => "<"
  | .lessEqual => "<="
  | .like => "like"

def all : List Comparison :=
  [.equal, .unequal, .greater, .greaterEqual, .less, .lessEqual, .like]

/-- The comparison with a symbol. -/
def ofSymbol? (symbol : String) : Option Comparison :=
  all.find? fun c => c.symbol == symbol

/-- The comparisons by order. -/
def isOrdering : Comparison → Bool
  | .greater | .greaterEqual | .less | .lessEqual => true
  | _ => false

end Comparison

/-- The comparisons that a family allows. -/
def Family.supports : Family → Comparison → Bool
  | .text, c => c == .equal || c == .unequal || c == .like
  | .ordered, c => c != .like
  | .list, c | .bool, c => c == .equal || c == .unequal

end GridQuery

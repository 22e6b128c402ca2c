namespace Rover

inductive Value
  | number (n : Int)
  | text (s : String)
  | nothing
  deriving DecidableEq

namespace Value

inductive Kind
  | number | text | nothing
  deriving DecidableEq

def kind : Value → Kind
  | .number _ => .number
  | .text _ => .text
  | .nothing => .nothing

def order? : Value → Value → Option Ordering
  | .number m, .number n => some (compare m n)
  | .text s, .text t => some (compare s t)
  | _, _ => none

end Value

inductive Comparison
  | equal | notEqual | greater | less | greaterEqual | lessEqual
  deriving DecidableEq

namespace Comparison

def symbol : Comparison → String
  | .equal => "=="
  | .notEqual => "!="
  | .greater => ">"
  | .less => "<"
  | .greaterEqual => ">="
  | .lessEqual => "<="

/-- Every comparison, in the order in which a reader tries their symbols. -/
def all : List Comparison :=
  [.equal, .notEqual, .greater, .less, .greaterEqual, .lessEqual]

def ofSymbol? (s : String) : Option Comparison :=
  all.find? (·.symbol == s)

def accepts : Comparison → Ordering → Bool
  | .equal, o => o.isEq
  | .notEqual, o => o.isNe
  | .greater, o => o.isGT
  | .less, o => o.isLT
  | .greaterEqual, o => o.isGE
  | .lessEqual, o => o.isLE

/-- The outcome of a comparison; `none` if it asks for an order that the values
do not have. -/
def test? (comparison : Comparison) (left right : Value) : Option Bool :=
  match comparison with
  | .equal => some (left == right)
  | .notEqual => some (left != right)
  | _ => (left.order? right).map comparison.accepts

end Comparison

end Rover

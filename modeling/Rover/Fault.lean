import Rover.Text.Quoted
import Rover.Text.Numeral
import Rover.Value

namespace Rover

inductive SectorField
  | executions | memory | battery | map
  deriving DecidableEq

def SectorField.name : SectorField → String
  | .executions => "executions"
  | .memory => "memory"
  | .battery => "battery"
  | .map => "map"

inductive Fault
  | endOfInput
  | missingSector (level : Int)
  | missingField (field : SectorField)
  | noPosition
  | outOfRange
  | notAssignable
  | notAnAddress
  | incomparable (comparison : Comparison) (left right : Value.Kind)
  | tooFewParts (count : Nat)
  | tooManyParts
  | notANumber (text : String)
  | tooManyDigits (count : Nat)
  | notShowable
  | countTooLarge
  | outOfMemory
  | bonusTooLarge
  deriving DecidableEq

namespace Fault

def kindName : Value.Kind → String
  | .number => "int"
  | .text => "str"
  | .nothing => "NoneType"

/-- The number of characters of a refused number that a message shows, quotes
included. -/
def shownLength : Nat := 200

def message : Fault → String
  | .endOfInput => "EOF when reading a line"
  | .missingSector level => Numeral.write level
  | .missingField field => "'" ++ field.name ++ "'"
  | .noPosition => "'NoneType' object is not subscriptable"
  | .outOfRange => "list index out of range"
  | .notAssignable => "list assignment index out of range"
  | .incomparable comparison left right =>
    "'" ++ comparison.symbol ++ "' not supported between instances of '" ++
      kindName left ++ "' and '" ++ kindName right ++ "'"
  | .tooFewParts count =>
    "not enough values to unpack (expected 8, got " ++
      Numeral.write count ++ ")"
  | .tooManyParts => "too many values to unpack (expected 8)"
  | .notANumber text =>
    "invalid literal for int() with base 10: " ++
      String.ofList ((Text.quoted text.toList).take shownLength)
  | .tooManyDigits count =>
    "Exceeds the limit (4300 digits) for integer string conversion: value has " ++
      Numeral.write count ++
      " digits; use sys.set_int_max_str_digits() to increase the limit"
  | .notShowable =>
    "Exceeds the limit (4300 digits) for integer string conversion; " ++
      "use sys.set_int_max_str_digits() to increase the limit"
  | .notAnAddress | .countTooLarge =>
    "cannot fit 'int' into an index-sized integer"
  | .outOfMemory => ""
  | .bonusTooLarge => "int too large to convert to float"

end Fault

def Numeral.readOrFault (text : String) : Except Fault Int :=
  match Numeral.read text.toList with
  | .ok n => .ok n
  | .error .malformed => .error (.notANumber text)
  | .error (.tooLong count) => .error (.tooManyDigits count)

end Rover

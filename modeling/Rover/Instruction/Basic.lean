import Rover.Grid
import Rover.Mission
import Rover.Text.Quoted
import Rover.Value

namespace Rover

namespace Direction

def word : Direction → String
  | .north => "mvn"
  | .east => "mve"
  | .south => "mvs"
  | .west => "mvw"

def all : List Direction :=
  [.north, .east, .south, .west]

def ofWord? (s : String) : Option Direction :=
  all.find? (·.word == s)

end Direction

inductive Command
  | move (direction : Direction)
  | observe
  | collect
  | deliver
  | finish
  deriving DecidableEq

namespace Command

def word : Command → String
  | .move direction => direction.word
  | .observe => "obs"
  | .collect => "clt"
  | .deliver => "drp"
  | .finish => "end"

def all : List Command :=
  Direction.all.map .move ++ [.observe, .collect, .deliver, .finish]

def ofWord? (s : String) : Option Command :=
  all.find? (·.word == s)

end Command

inductive Gauge
  | battery | memory | executions | level | block
  deriving DecidableEq

namespace Gauge

def name : Gauge → String
  | .battery => "BATTERY"
  | .memory => "MEMORY"
  | .executions => "EXECUTIONS"
  | .level => "LEVEL"
  | .block => "CURRENT_BLOCK"

def all : List Gauge :=
  [.battery, .memory, .executions, .level, .block]

/-- The capital of a character, as far as it is a letter from A to Z: besides
the plain small letters these are the dotless i and the long s. -/
def capital (c : Char) : Char :=
  if c = 'ı' then 'I' else if c = 'ſ' then 'S' else c.toUpper

def ofText? (cs : List Char) : Option Gauge :=
  all.find? (·.name.toList == cs.map capital)

def reading (m : Mission) : Gauge → Value
  | .battery => .number m.battery
  | .memory => .number m.memory
  | .executions => .number m.executions
  | .level => .number m.level
  | .block => .text (Cell.mark (Ansi.strip m.block))

end Gauge

inductive Operand
  | gauge (gauge : Gauge)
  | ahead (direction : Direction)
  | number (n : Int)
  | text (s : String)
  deriving DecidableEq

def Operand.ofText (cs : List Char) : Operand :=
  match Gauge.ofText? cs, Direction.ofWord? (String.ofList cs),
    Numeral.read cs with
  | some g, _, _ => .gauge g
  | none, some d, _ => .ahead d
  | none, none, .ok n => .number n
  | none, none, .error _ => .text (String.ofList (Text.dropQuotes cs))

/-- A condition without a comparison decides nothing. -/
structure Condition where
  left : Operand
  comparison : Option Comparison
  right : Operand
  deriving DecidableEq

inductive Instruction
  | command (command : Command)
  | branch (condition : Condition) (yes no : Instruction)
  /-- Runs its body `count` times, with a pause after each instruction. -/
  | loop (count : Except Fault Int) (body : List Instruction)
  /-- Runs its body `count` times without pauses. -/
  | burst (count : Except Fault Int) (body : List Instruction)
  | skip
  | unknown

end Rover

import Rover.Message
import Rover.Mission
import Rover.Text.Blank

namespace Rover

inductive Platform
  | unix | windows
  deriving DecidableEq

inductive Prompt
  | operatorName
  | refresher
  | anyKey
  | scriptLine (number : Nat)
  | nextSector
  | custom (text : String)
  deriving DecidableEq

def Prompt.render : Prompt → String
  | .operatorName => Voice.title.render "Operator name: "
  | .refresher =>
    Voice.operator.render "Do you need a control refresher? (y/n) "
  | .anyKey => Voice.suggestion.render "Press any key to continue"
  | .scriptLine number => Numeral.write number ++ ": "
  | .nextSector => Voice.operator.render "Proceed to next sector? (y/n): "
  | .custom text => text

inductive Event
  | say (message : Message)
  | mapRow (cells : List Cell)
  | barFrame (color : Style) (filled : Nat)
  | newline
  | pause (micros : Int)
  /-- A tenth of a second in front of a locked keyboard. -/
  | wait
  | clear (platform : Platform)
  | flush
  | discardKey
  | ask (prompt : Prompt)
  | draw (possibilities : Nat)
  deriving DecidableEq

structure Entry where
  event : Event
  mission : Mission
  deriving DecidableEq

def Cell.styles (c : Cell) : List Style :=
  match c.terrain with
  | .base => [.cyan]
  | .sample => [.green]
  | .rover => [.yellow, .bright]
  | .obstacle => [.red, .bright]
  | .uncharted => [.blue, .bright]
  | .charger => [.gray, .dim]
  | .beacon => [.cyan, .bright]
  | .path => [.lightWhite, .dim]
  | .other => []

def Cell.paint (c : Cell) : String :=
  match c.styles with
  | [] => c
  | styles => Voice.codes styles ++ c ++ Style.reset.code

/-- A row of the map: a space after each cell, and none at the end. -/
def Grid.rowText (cells : List Cell) : String :=
  String.ofList
    (Text.skipBlanksEnd (cells.flatMap fun c => c.paint.toList ++ [' ']))

def barLength : Nat := 20

def barText (color : Style) (filled : Nat) : String :=
  color.code ++ "\r[" ++ String.ofList (List.replicate filled '#') ++
    String.ofList (List.replicate (barLength - filled) ' ') ++ "]"

def Event.written? : Event → Option String
  | .say message => some (message.render ++ "\n")
  | .mapRow cells => some (Grid.rowText cells ++ "\n")
  | .barFrame color filled => some (barText color filled)
  | .newline => some "\n"
  | _ => none

end Rover

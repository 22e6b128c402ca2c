import Rover.Ansi

namespace Rover

inductive Voice
  | success | warning | error | title | text | dim | terminal | suggestion |
    hint | terminalDim
  | operator | system | mission
  deriving DecidableEq

namespace Voice

def lead : Voice → List Style
  | .success => [.green, .bright]
  | .warning => [.yellow, .bright]
  | .error => [.red, .bright]
  | .title => [.white, .bright]
  | .text => [.white]
  | .dim => [.gray]
  | .terminal => [.cyan]
  | .suggestion => [.blue]
  | .hint => [.white, .dim]
  | .terminalDim => [.cyan, .dim]
  | .operator => [.magenta, .bright]
  | .system => [.lightYellow, .bright]
  | .mission => [.lightBlue, .bright]

def label : Voice → String
  | .operator => "Operator: "
  | .system => "System: "
  | .mission => "Mission Control: "
  | _ => ""

def tone : Voice → List Style
  | .operator => [.normal, .lightWhite]
  | .system => [.dim, .lightYellow]
  | .mission => [.normal, .lightCyan]
  | _ => []

def codes (styles : List Style) : String :=
  styles.foldr (fun style rest => style.code ++ rest) ""

def render (voice : Voice) (message : String) : String :=
  codes voice.lead ++ voice.label ++ codes voice.tone ++ message ++
    Style.reset.code

end Voice

end Rover

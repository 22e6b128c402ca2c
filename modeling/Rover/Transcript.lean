import Rover.Event

namespace Rover

inductive Effect
  | output (text : String)
  | other (event : Event)
  deriving DecidableEq

/-- From outside, waiting for the keyboard is a pause like any other. -/
def Effect.ofEvent (event : Event) : Effect :=
  match event, event.written? with
  | _, some text => .output text
  | .wait, none => .other (.pause 100000)
  | event, none => .other event

def Effect.cons : Effect → List Effect → List Effect
  | .output s, .output t :: rest => .output (s ++ t) :: rest
  | effect, rest => effect :: rest

def transcript (events : List Event) : List Effect :=
  events.foldr (fun event rest => (Effect.ofEvent event).cons rest) []

end Rover

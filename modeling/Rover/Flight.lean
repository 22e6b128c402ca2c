import Rover.Atlas
import Rover.Event

/-!
A flight is a computation on the world: the mission, the console with its queues
and log, and the atlas.  It ends with a value or with a halt, and either way the
world it leaves is kept.
-/

namespace Rover

structure Console where
  inputs : List String := []
  /-- Lots to be drawn; an empty queue gives zeros. -/
  draws : List Nat := []
  /-- Keys pressed and not yet read, on a platform that reads them one by
  one. -/
  pendingKeys : Nat := 0
  platform : Platform := .unix
  /-- The number of pauses until the keyboard is unlocked from outside; zero if
  it never is. -/
  unlockIn : Nat := 0
  /-- What happened so far, the latest first. -/
  log : List Entry := []

structure World where
  mission : Mission := {}
  console : Console := {}
  atlas : Atlas

/-- Why a flight ends early: the program exits, something goes wrong, or it
would wait for ever. -/
inductive Halt
  | exit
  | fault (cause : Fault)
  | stalled
  deriving DecidableEq

abbrev Flight := EStateM Halt World

namespace Flight

def mission : Flight Mission := fun w =>
  .ok w.mission w

def update (f : Mission → Mission) : Flight Unit := fun w =>
  .ok () { w with mission := f w.mission }

def exit {α : Type} : Flight α :=
  throw .exit

def fail {α : Type} (cause : Fault) : Flight α :=
  throw (.fault cause)

def ofExcept {α : Type} : Except Fault α → Flight α
  | .ok a => pure a
  | .error cause => fail cause

def ofOption {α : Type} (cause : Fault) : Option α → Flight α
  | some a => pure a
  | none => fail cause

def record (event : Event) : Flight Unit := fun w =>
  .ok () { w with console.log := ⟨event, w.mission⟩ :: w.console.log }

def say (message : Message) : Flight Unit :=
  if message.isShowable then record (.say message) else fail .notShowable

def tell (voice : Voice) (text : String) : Flight Unit :=
  say (.story voice text)

def countDown (w : World) : World :=
  match w.console.unlockIn with
  | 0 => w
  | 1 => { w with console.unlockIn := 0, mission.locked := false }
  | n + 2 => { w with console.unlockIn := n + 1 }

def pause (micros : Int) : Flight Unit := do
  record (.pause micros)
  modify countDown

def millis (ms : Int) : Flight Unit :=
  pause (1000 * ms)

def draw (n : Nat) : Flight Nat := do
  record (.draw n)
  fun w =>
    match w.console.draws with
    | [] => .ok 0 w
    | lot :: rest => .ok (lot % n) { w with console.draws := rest }

def clearScreen : Flight Unit := do
  record (.clear (← get).console.platform)

def discardKeys : Flight Unit := do
  (List.replicate (← get).console.pendingKeys Event.discardKey).forM record
  modify fun w => { w with console.pendingKeys := 0 }

def flush : Flight Unit := do
  match (← get).console.platform with
  | .unix => record .flush
  | .windows => discardKeys

def lock : Flight Unit := do
  update ({ · with locked := true })
  flush

def unlock : Flight Unit :=
  update ({ · with locked := false })

def loadBar (color : Style) (ms : Int) : Flight Unit := do
  lock
  (List.range barLength).forM fun i => do
    record (.barFrame color (i + 1))
    pause (50 * ms)
  record .newline
  unlock

def ask (prompt : Prompt) : Flight String := do
  record (.ask prompt)
  fun w =>
    match w.console.inputs with
    | [] => .error (.fault .endOfInput) w
    | line :: rest => .ok line { w with console.inputs := rest }

def awaitUnlock : (patience : Nat) → Flight Unit
  | 0 => do
    if (← mission).locked then throw .stalled
  | patience + 1 => do
    if (← mission).locked then
      record .wait
      modify countDown
      awaitUnlock patience

/-- Asks once the keyboard is unlocked, and after what was typed ahead is
gone. -/
def prompt (question : Prompt) : Flight String := do
  awaitUnlock (← get).console.unlockIn
  flush
  ask question

end Flight

end Rover

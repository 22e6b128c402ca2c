import Rover.Execution
import Rover.Sector

/-!
Scripts.  The player writes a script line by line up to `end`; it is run if it
fits the memory, and the player then writes the next one.  Every script takes at
least one line from the console, which bounds their number.
-/

namespace Rover

open Flight

def lastLine : String := "end"

def scriptLength : List String → Nat
  | [] => 0
  | line :: rest => line.length + scriptLength rest

theorem scriptLength_append (script more : List String) :
    scriptLength (script ++ more) =
      scriptLength script + scriptLength more := by
  induction script with
  | nil => rw [List.nil_append, scriptLength, Nat.zero_add]
  | cons line rest ih =>
    rw [List.cons_append, scriptLength, scriptLength, ih, Nat.add_assoc]

def Mission.sizeOfScript (m : Mission) (script : List String) : Int :=
  scriptLength script * m.charSize

def Mission.Fits (m : Mission) (script : List String) : Prop :=
  m.sizeOfScript script ≤ m.remaining

instance (m : Mission) (script : List String) : Decidable (m.Fits script) :=
  inferInstanceAs (Decidable (_ ≤ _))

/-- Reads at most `limit` lines, numbered from `number` on, up to the last
line. -/
def readLines : (limit number : Nat) → Flight (List String)
  | 0, _ => throw .stalled
  | limit + 1, number => do
    let line ← prompt (.scriptLine number)
    update fun m => { m with scriptSize := m.sizeOf line }
    if line = lastLine then return [line]
    return line :: (← readLines limit (number + 1))

def readScript : Flight (List String) := do
  readLines ((← get).console.inputs.length + 1) 1

def runPowered (compose : Flight Unit) (line : String) : Flight Unit := do
  (Instruction.parse line).run (startSector compose)
  millis 300
  if (← mission).battery ≤ 0 then stopWith .powerDepleted

def runLine (compose : Flight Unit) (line : String) : Flight Unit := do
  runPowered compose line
  if (← mission).executions ≤ 0 then stopWith .executionLimit

def compileScript (script : List String) : Flight Int := do
  say .compiling
  loadBar .yellow 1000
  let size := (← mission).sizeOfScript script
  update fun m =>
    { m with scriptSize := size, executions := m.executions - 1 }
  return size

def loadScript (script : List String) : Flight Unit := do
  let size ← compileScript script
  update fun m => { m with remaining := m.remaining - size }
  say (.scriptLoaded size)
  millis 1000

def rejectScript (script : List String) : Flight Unit := do
  let size ← compileScript script
  let available := (← mission).remaining
  say .memoryOverflow
  say (.memoryShortage size available)
  millis 3000

/-- Executes a script; `compose` is how the player writes the next one. -/
def executeScript (compose : Flight Unit) (script : List String) :
    Flight Unit := do
  if (← mission).Fits script then
    loadScript script
    script.forM (runLine compose)
    if 0 < (← mission).executions then compose
  else
    rejectScript script
    compose

def composeWithin : (limit : Nat) → Flight Unit
  | 0 => throw .stalled
  | limit + 1 => do
    executeScript (composeWithin limit) (← readScript)

/-- Writes and executes scripts until the mission ends. -/
def compose : Flight Unit := do
  composeWithin ((← get).console.inputs.length + 1)

end Rover

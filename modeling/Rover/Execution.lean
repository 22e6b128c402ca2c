import Rover.Command
import Rover.Display
import Rover.Encounter
import Rover.Instruction.Reader

namespace Rover

open Flight

def Operand.value (m : Mission) : Operand → Except Fault Value
  | .gauge g => .ok (g.reading m)
  | .ahead d => m.lookAhead d
  | .number n => .ok (.number n)
  | .text s => .ok (.text s)

/-- The outcome of a condition, if it decides anything.  Both operands are read
in any case, the left one first. -/
def Condition.decide (m : Mission) (condition : Condition) :
    Except Fault (Option Bool) :=
  do
  let left ← condition.left.value m
  let right ← condition.right.value m
  match condition.comparison with
  | none => return none
  | some comparison =>
    match comparison.test? left right with
    | some outcome => return some outcome
    | none => throw (.incomparable comparison left.kind right.kind)

/-- The number of instructions that an address space can hold, at eight bytes
each. -/
def instructionSpace : Nat := 0x1000000000000000

/-- How often a loop over `size` instructions runs.  Its count must be an
address, and the instructions of all rounds must fit the address space. -/
def loopRounds (size : Nat) (count : Int) : Except Fault Nat :=
  if !isAddress count then .error .countTooLarge
  else if instructionSpace ≤ count * size then .error .outOfMemory
  else .ok (if size = 0 then 0 else count.toNat)

def Flight.repeated (body : Flight Unit) : Nat → Flight Unit
  | 0 => pure ()
  | n + 1 => do
    body
    repeated body n

def settle : Flight Unit := do
  encounter (← mission).ground
  showMap

namespace Instruction

mutual

/-- Runs an instruction; `advance` is how the mission goes on after a
delivery. -/
def run (advance : Flight Unit) : Instruction → Flight Unit
  | .command c => do
    c.run advance
    settle
  | .branch condition yes no => do
    match ← ofExcept (condition.decide (← mission)) with
    | none => pure ()
    | some true =>
      yes.run advance
      millis 500
    | some false =>
      no.run advance
      millis 500
  | .loop count body => do
    let rounds ← ofExcept (count.bind (loopRounds body.length))
    repeated (runEach advance (millis 500) body) rounds
  | .burst count body => do
    let rounds ← ofExcept count
    repeated (runEach advance (pure ()) body) rounds.toNat
  | .skip => pure ()
  | .unknown => settle

def runEach (advance after : Flight Unit) : List Instruction → Flight Unit
  | [] => pure ()
  | i :: rest => do
    i.run advance
    after
    runEach advance after rest

end

end Instruction

end Rover

import Rover.Execution
import Rover.Proofs.Actions

/-!
One induction for all instructions.  An assertion endures if it survives each
command and whatever the ground does; it then survives every instruction,
however deep its branches and loops are.
-/

namespace Rover

open Flight

structure Endures (advance : Flight Unit) (inv : World → Prop)
    (halted : Halt → World → Prop) :
    Prop where
  steady : Steady inv
  exit : ∀ w, inv w → halted .exit w
  spend : ∀ w, inv w →
    inv (w.alter fun m => { m with battery := m.battery - m.moveCost })
  drive : ∀ direction w, inv w →
    (Rover.drive direction).Yields w (fun _ => inv) halted
  collect : ∀ w, inv w → Rover.collect.Yields w (fun _ => inv) halted
  deliver : ∀ w, inv w → w.mission.AtBase →
    (Rover.deliver advance).Yields w (fun _ _ => False) halted
  explore : ∀ w, inv w → w.mission.ground = .uncharted →
    Rover.explore.Yields w (fun _ => inv) halted
  recharge : ∀ w, inv w → w.mission.ground = .charger →
    Rover.recharge.Yields w (fun _ => inv) halted
  display : ∀ w, inv w → showMap.Yields w (fun _ => inv) halted
  condition : ∀ (c : Condition) w cause, inv w →
    c.decide w.mission = .error cause → halted (.fault cause) w

namespace Instruction

mutual

/-- Every count of an instruction that cannot be read stands for a fault in
`faults`. -/
def Counted (faults : Fault → Prop) : Instruction → Prop
  | .branch _ yes no => yes.Counted faults ∧ no.Counted faults
  | .loop count body | .burst count body =>
    (∀ cause, count = .error cause → faults cause) ∧ AllCounted faults body
  | .command _ | .skip | .unknown => True

def AllCounted (faults : Fault → Prop) : List Instruction → Prop
  | [] => True
  | i :: rest => i.Counted faults ∧ AllCounted faults rest

end

mutual

theorem counted_of_forall {faults : Fault → Prop} (h : ∀ cause, faults cause) :
    ∀ i : Instruction, i.Counted faults
  | .command _ => trivial
  | .branch _ yes no => ⟨counted_of_forall h yes, counted_of_forall h no⟩
  | .loop _ body => ⟨fun cause _ => h cause, allCounted_of_forall h body⟩
  | .burst _ body => ⟨fun cause _ => h cause, allCounted_of_forall h body⟩
  | .skip => trivial
  | .unknown => trivial

theorem allCounted_of_forall {faults : Fault → Prop}
    (h : ∀ cause, faults cause) :
    ∀ body : List Instruction, AllCounted faults body
  | [] => trivial
  | i :: rest => ⟨counted_of_forall h i, allCounted_of_forall h rest⟩

end

end Instruction

theorem repeated_yields
    {body : Flight Unit} {inv : World → Prop} {halted : Halt → World → Prop}
    (hbody : ∀ w, inv w → body.Yields w (fun _ => inv) halted) (rounds : Nat)
    {w : World} (hw : inv w) :
    (repeated body rounds).Yields w (fun _ => inv) halted := by
  induction rounds generalizing w with
  | zero => exact (yields_pure _).2 hw
  | succ rounds ih =>
    rw [repeated]
    exact (hbody w hw).bind fun _ w' hw' => ih hw'

theorem loopRounds_error {size : Nat} {count : Int} {cause : Fault}
    (h : loopRounds size count = .error cause) :
    cause = .countTooLarge ∨ cause = .outOfMemory := by
  unfold loopRounds at h
  split at h
  · cases h
    exact Or.inl rfl
  · split at h
    · cases h
      exact Or.inr rfl
    · cases h

theorem loopRounds_of_fits {size n : Nat} (hsize : 0 < size)
    (hfits : n * size < instructionSpace) :
    loopRounds size n = .ok n := by
  have hn : n < instructionSpace :=
    Nat.lt_of_le_of_lt (Nat.le_mul_of_pos_right n hsize) hfits
  have hlower : -(addressSpace : Int) ≤ n := by
    unfold addressSpace
    omega
  have hupper : (n : Int) < addressSpace := by
    unfold addressSpace
    unfold instructionSpace at hn
    omega
  have haddress : isAddress n = true := by
    rw [isAddress, Bool.and_eq_true]
    exact ⟨decide_eq_true hlower, decide_eq_true hupper⟩
  have hroom : ¬(instructionSpace : Int) ≤ n * size := by
    rw [← Int.natCast_mul]
    omega
  rw [loopRounds, haddress, if_neg (by simp), if_neg hroom,
    if_neg (Nat.ne_of_gt hsize), Int.toNat_natCast]

/-- A turn: a command, or none if the word was not understood, and whatever the
ground does then. -/
def turn (advance : Flight Unit) : Option Command → Flight Unit
  | some c => do
    c.run advance
    settle
  | none => settle

/-- An assertion that survives every turn and the pauses between them. -/
structure Turnwise (advance : Flight Unit) (inv : World → Prop)
    (halted : Halt → World → Prop) :
    Prop where
  steady : Steady inv
  turn : ∀ deed w, inv w →
    (Rover.turn advance deed).Yields w (fun _ => inv) halted
  condition : ∀ (c : Condition) w cause, inv w →
    c.decide w.mission = .error cause → halted (.fault cause) w

def Endures.RefusesCount (faults : Fault → Prop) (cause : Fault) : Prop :=
  faults cause ∨ cause = .countTooLarge ∨ cause = .outOfMemory

namespace Turnwise

variable {advance : Flight Unit} {inv : World → Prop}
  {halted : Halt → World → Prop}
  {faults : Fault → Prop}

mutual

theorem run (h : Turnwise advance inv halted)
    (hcount : ∀ cause w, Endures.RefusesCount faults cause → inv w →
      halted (.fault cause) w) :
    ∀ (i : Instruction) (w : World), i.Counted faults → inv w →
      (i.run advance).Yields w (fun _ => inv) halted
  | .command c, w, _, hw => by
    rw [Instruction.run]
    exact h.turn (some c) w hw
  | .branch condition yes no, w, hi, hw => by
    have hpause : ∀ w', inv w' → (millis 500).Yields w' (fun _ => inv) halted :=
      fun w' hw' => (quiet_millis _).yields fun _ w'' h' => h.steady _ _ h' hw'
    rw [Instruction.run, yields_bind, yields_mission, yields_bind]
    refine yields_ofExcept (fun outcome _ => ?_) fun cause hcause =>
      h.condition condition w cause hw hcause
    cases outcome with
    | none => exact (yields_pure _).2 hw
    | some outcome =>
      cases outcome with
      | true =>
        exact (run h hcount yes w hi.1 hw).bind fun _ w' hw' => hpause w' hw'
      | false =>
        exact (run h hcount no w hi.2 hw).bind fun _ w' hw' => hpause w' hw'
  | .loop count body, w, hi, hw => by
    have hround : ∀ w, inv w → (Instruction.runEach advance
          (millis 500) body).Yields w (fun _ => inv) halted :=
      fun w hw => runEach h hcount body w _ hi.2
        (fun w hw => (quiet_millis _).yields fun _ w' h' => h.steady _ _ h' hw)
        hw
    rw [Instruction.run, yields_bind]
    refine yields_ofExcept (fun rounds _ => repeated_yields hround rounds hw)
      fun cause hcause => ?_
    refine hcount cause w ?_ hw
    cases count with
    | error refusal =>
      cases hcause
      exact Or.inl (hi.1 cause rfl)
    | ok n => exact Or.inr (loopRounds_error hcause)
  | .burst count body, w, hi, hw => by
    have hround : ∀ w, inv w → (Instruction.runEach advance
          (pure ()) body).Yields w (fun _ => inv) halted :=
      fun w hw => runEach h hcount body w _ hi.2
          (fun w hw => (yields_pure _).2 hw) hw
    rw [Instruction.run, yields_bind]
    refine yields_ofExcept (fun rounds _ => repeated_yields hround _ hw)
      fun cause hcause => ?_
    exact hcount cause w (Or.inl (hi.1 cause hcause)) hw
  | .skip, w, _, hw => by
    rw [Instruction.run]
    exact (yields_pure _).2 hw
  | .unknown, w, _, hw => by
    rw [Instruction.run]
    exact h.turn none w hw

theorem runEach (h : Turnwise advance inv halted)
    (hcount : ∀ cause w, Endures.RefusesCount faults cause → inv w →
      halted (.fault cause) w) :
    ∀ (body : List Instruction) (w : World) (after : Flight Unit),
      Instruction.AllCounted faults body →
      (∀ w, inv w → after.Yields w (fun _ => inv) halted) → inv w →
      (Instruction.runEach advance after body).Yields w (fun _ => inv) halted
  | [], w, _, _, _, hw => by
    rw [Instruction.runEach]
    exact (yields_pure _).2 hw
  | i :: rest, w, after, hbody, hafter, hw => by
    rw [Instruction.runEach]
    refine (run h hcount i w hbody.1 hw).bind fun _ w₁ hw₁ => ?_
    refine (hafter w₁ hw₁).bind fun _ w₂ hw₂ => ?_
    exact runEach h hcount rest w₂ after hbody.2 hafter hw₂

end

end Turnwise

namespace Endures

variable {advance : Flight Unit} {inv : World → Prop}
  {halted : Halt → World → Prop}
  {faults : Fault → Prop}

theorem command (h : Endures advance inv halted) (c : Command) {w : World}
    (hw : inv w) :
    (c.run advance).Yields w (fun _ => inv) halted := by
  unfold Command.run
  rw [yields_bind, yields_update]
  have hspent := h.spend w hw
  cases c with
  | move direction => exact h.drive direction _ hspent
  | observe => exact quiet_observe.yields fun _ _ hw' => h.steady _ _ hw' hspent
  | collect => exact h.collect _ hspent
  | deliver =>
    by_cases hbase : w.mission.AtBase
    · exact (h.deliver _ hspent hbase).of_never
    · exact deliver_elsewhere hbase fun w' hw' => h.steady _ w' hw' hspent
  | finish => exact (yields_pure _).2 hspent

theorem encounter (h : Endures advance inv halted) {w : World} (hw : inv w) :
    (Rover.encounter w.mission.ground).Yields w (fun _ => inv) halted := by
  cases hground : w.mission.ground with
  | uncharted => exact h.explore w hw hground
  | charger => exact h.recharge w hw hground
  | obstacle =>
    exact closing_crash.yields fun w' hw' => h.exit w' (h.steady _ _ hw' hw)
  | _ => exact (yields_pure _).2 hw

theorem settle (h : Endures advance inv halted) {w : World} (hw : inv w) :
    Rover.settle.Yields w (fun _ => inv) halted := by
  rw [Rover.settle, yields_bind, yields_mission]
  exact (h.encounter hw).bind fun _ w' hw' => h.display w' hw'

theorem ofFamily {ι : Type} {family : ι → World → Prop}
    (h : ∀ i, Endures advance (family i) halted) :
    Endures advance (fun w => ∃ i, family i w) halted := by
  have hsome : ∀ {x : Flight Unit} {w : World} (i : ι),
      x.Yields w (fun _ => family i) halted →
      x.Yields w (fun _ w' => ∃ i, family i w') halted :=
    fun i hx => hx.imp fun _ _ hw => ⟨i, hw⟩
  constructor
  case steady => exact fun w w' hw' ⟨i, hw⟩ => ⟨i, (h i).steady w w' hw' hw⟩
  case exit => exact fun w ⟨i, hw⟩ => (h i).exit w hw
  case spend => exact fun w ⟨i, hw⟩ => ⟨i, (h i).spend w hw⟩
  case drive =>
    exact fun direction w ⟨i, hw⟩ => hsome i ((h i).drive direction w hw)
  case collect => exact fun w ⟨i, hw⟩ => hsome i ((h i).collect w hw)
  case deliver => exact fun w ⟨i, hw⟩ => (h i).deliver w hw
  case explore =>
    exact fun w ⟨i, hw⟩ hground => hsome i ((h i).explore w hw hground)
  case recharge =>
    exact fun w ⟨i, hw⟩ hground => hsome i ((h i).recharge w hw hground)
  case display => exact fun w ⟨i, hw⟩ => hsome i ((h i).display w hw)
  case condition => exact fun c w cause ⟨i, hw⟩ => (h i).condition c w cause hw

theorem unlocked (h : Endures advance inv halted) :
    Endures advance (fun w => inv w ∧ w.mission.locked = false) halted := by
  have hsteady : Steady fun w => w.mission.locked = false :=
    fun _ _ h => h.unlocked
  have hboth : ∀ {x : Flight Unit} {w : World},
      x.Yields w (fun _ => inv) halted →
      x.Yields w (fun _ w' => w'.mission.locked = false) (fun _ _ => True) →
      x.Yields w (fun _ w' => inv w' ∧ w'.mission.locked = false) halted :=
    fun hx hx' => (hx.and hx').mono (fun _ _ h => h) fun _ _ h => h.1
  constructor
  case steady =>
    exact fun w w' hw' hw => ⟨h.steady w w' hw' hw.1, hw'.unlocked hw.2⟩
  case exit => exact fun w hw => h.exit w hw.1
  case spend => exact fun w hw => ⟨h.spend w hw.1, hw.2⟩
  case drive =>
    intro direction w hw
    apply hboth (h.drive direction w hw.1)
    exact drive_frame hsteady (fun w _ _ _ hw => hw) (fun _ hw => hw) hw.2
      (fun _ _ => trivial) fun _ _ _ => trivial
  case collect =>
    intro w hw
    apply hboth (h.collect w hw.1)
    exact collect_keeps hsteady hw.2 (fun w _ _ hw _ _ _ => hw)
      (fun _ _ _ => trivial) fun _ _ _ _ _ _ _ => trivial
  case deliver => exact fun w hw => h.deliver w hw.1
  case explore =>
    intro w hw hground
    apply hboth (h.explore w hw.1 hground)
    exact explore_keeps hsteady hw.2 (fun w _ _ hw _ _ => hw) (fun w hw => hw)
      (fun w _ hw _ => hw) (fun _ _ => trivial) (fun _ _ _ => trivial)
      (fun _ _ _ _ _ _ => trivial) fun _ _ _ => trivial
  case recharge =>
    intro w hw hground
    apply hboth (h.recharge w hw.1 hground)
    exact recharge_keeps hsteady hw.2 (fun w hw => hw) fun _ _ _ => trivial
  case display =>
    intro w hw
    apply hboth (h.display w hw.1)
    exact showMap_yields (fun w' h => h.unlocked hw.2) fun _ _ _ => trivial
  case condition => exact fun c w cause hw => h.condition c w cause hw.1

theorem turnwise (h : Endures advance inv halted) :
    Turnwise advance inv halted where
  steady := h.steady
  turn deed w hw := by
    cases deed with
    | none => exact h.settle hw
    | some c => exact (h.command c hw).bind fun _ w' hw' => h.settle hw'
  condition := h.condition

theorem run (h : Endures advance inv halted)
    (hcount : ∀ cause w, RefusesCount faults cause →
      inv w → halted (.fault cause) w) (i : Instruction) (w : World)
    (hi : i.Counted faults) (hw : inv w) :
    (i.run advance).Yields w (fun _ => inv) halted :=
  h.turnwise.run hcount i w hi hw

end Endures

end Rover

import Rover.Proofs.Tandem

/-!
Time does not matter.  A flight never looks back at its log, so it goes on in
the same way whatever pauses were made; only somebody who unlocks the keyboard
from outside could count them.
-/

namespace Rover

open Flight

def Event.isPause : Event → Bool
  | .pause _ => true
  | _ => false

def withoutPauses (log : List Entry) : List Entry :=
  log.filter (!·.event.isPause)

/-- A world as it looks to somebody without a clock. -/
def World.untimed (w : World) : World :=
  { w with console.log := withoutPauses w.console.log }

def Flight.course {α : Type} (x : Flight α) (w : World) :
    EStateM.Result Halt World α :=
  match x w with
  | .ok a w' => .ok a w'.untimed
  | .error h w' => .error h w'.untimed

private theorem countDown_of_locked {w : World} (hw : w.console.unlockIn = 0) :
    countDown w = w := by
  unfold countDown
  rw [hw]

/-- The worlds differ in their pauses at most, and nobody unlocks the keyboard
from outside. -/
inductive Abreast (w : World) : World → Prop
  | intro (log : List Entry) (hunlock : w.console.unlockIn = 0)
    (hlog : withoutPauses log = withoutPauses w.console.log) :
    Abreast w { w with console.log := log }

namespace Abreast

variable {w w' : World}

theorem refl (hw : w.console.unlockIn = 0) : Abreast w w :=
  .intro w.console.log hw rfl

theorem note (h : Abreast w w') (event : Event) :
    Abreast (w.note event) (w'.note event) := by
  obtain ⟨log, hunlock, hlog⟩ := h
  refine .intro (⟨event, w.mission⟩ :: log) hunlock ?_
  rw [World.note_log, withoutPauses, withoutPauses, List.filter_cons,
    List.filter_cons, ← withoutPauses, ← withoutPauses, hlog]

theorem untimed (h : Abreast w w') : w'.untimed = w.untimed := by
  obtain ⟨log, -, hlog⟩ := h
  rw [World.untimed, World.untimed, hlog]

theorem locked (h : Abreast w w') :
    w.console.unlockIn = 0 ∧ w'.console.unlockIn = 0 := by
  obtain ⟨log, hunlock, -⟩ := h
  exact ⟨hunlock, hunlock⟩

end Abreast

private theorem tandem_abreast : Tandem True (fun _ => True) Abreast where
  rover := trivial
  path := trivial
  mission := by
    rintro w _ ⟨log, -, -⟩
    rfl
  same := by
    rintro w _ - ⟨log, -, -⟩
    exact ⟨rfl, rfl⟩
  cells _ := ⟨fun _ _ _ _ => trivial, trivial⟩
  maps _ _ _ := fun _ _ _ _ => trivial
  atlas := by
    rintro w _ ⟨log, -, -⟩
    rfl
  inputs := by
    rintro w _ ⟨log, -, -⟩
    rfl
  unlockIn := by
    rintro w _ ⟨log, -, -⟩
    rfl
  note hw _ hsame := by
    rw [hsame trivial]
    exact hw.note _
  alter := by
    rintro w _ m m' ⟨log, hunlock, hlog⟩ - hsame -
    rw [hsame trivial]
    exact .intro log hunlock hlog
  countDown _ _ hw := by
    rw [countDown_of_locked hw.locked.1, countDown_of_locked hw.locked.2]
    exact hw
  flush := by
    apply coupled_flush_of_same fun event hw => hw.note event
    · rintro w _ ⟨log, -, -⟩
      exact ⟨rfl, rfl⟩
    · rintro w _ ⟨log, hunlock, hlog⟩
      exact .intro log hunlock hlog
  take := by
    rintro w _ line rest ⟨log, hunlock, hlog⟩ -
    exact .intro log hunlock hlog
  draw hk := by
    refine (coupled_draw_of_same (fun event hw => hw.note event) ?_ ?_
      hk).mono ?_
    · rintro w _ ⟨log, -, -⟩
      rfl
    · rintro w _ draws ⟨log, hunlock, hlog⟩
      exact .intro log hunlock hlog
    · rintro a _ ⟨ha, rfl⟩
      exact ⟨ha, ha, fun _ => rfl⟩
  fair := Or.inl trivial

namespace Flight

variable {α : Type} {w : World}

abbrev SameCourse (x y : Flight α) : Prop :=
  Coupled Abreast Eq x y

theorem SameCourse.course_eq {x y : Flight α} (h : SameCourse x y)
    (hw : w.console.unlockIn = 0) : x.course w = y.course w := by
  have hpair := h w w (.refl hw)
  unfold course
  generalize x w = r at hpair ⊢
  generalize y w = r' at hpair ⊢
  cases hpair with
  | ok hab hv =>
    rw [hab]
    exact congrArg _ hv.untimed.symm
  | error halt hv => exact congrArg _ hv.untimed.symm

theorem pause_eq (hw : w.console.unlockIn = 0) (micros : Int) :
    pause micros w = .ok () (w.note (.pause micros)) :=
  congrArg (EStateM.Result.ok ()) (countDown_of_locked hw)

theorem sameCourse_pause (micros : Int) :
    SameCourse (pause micros) (pure ()) := by
  rintro w _ ⟨log, hunlock, hlog⟩
  rw [pause_eq hunlock]
  exact .ok rfl (.intro log hunlock hlog)

end Flight

theorem sameCourse_parse (line : String) :
    SameCourse ((Instruction.parse line).run (startSector compose))
      ((Instruction.parse line).run (startSector compose)) :=
  coupled_run tandem_abreast
    (coupled_startSector tandem_abreast (coupled_compose tandem_abreast)) _

end Rover

import Rover.Proofs.Turn

namespace Rover

open Flight

/-- A turn that was taken: its deed, and where the rover stood after it. -/
structure Stop where
  deed : Option Command
  position : Option Position
  deriving DecidableEq

/-- The rover has come from the first world to the second with these stops, the
latest first. -/
inductive Journey (advance : Flight Unit) (w : World) : List Stop → World → Prop
  | rest {w' : World} (h : Interlude w w') : Journey advance w [] w'
  | turn {w₁ w₂ w₃ : World}
    {stops : List Stop} {deed : Option Command} (h : Journey advance w stops w₁)
    (hturn : Rover.turn advance deed w₁ = .ok () w₂) (hrest : Interlude w₂ w₃) :
    Journey advance w (⟨deed, w₂.mission.rover⟩ :: stops) w₃

/-- How an instruction fails to return: it is refused for its wording, or halts
within a turn. -/
inductive Stranded (advance : Flight Unit) (w : World) : Halt → World → Prop
  | undecided {w₁ : World} {stops : List Stop} {c : Condition} {cause : Fault}
    (h : Journey advance w stops w₁) (hdecide : c.decide w₁.mission =
      .error cause) : Stranded advance w (.fault cause) w₁
  | uncounted {w₁ : World} {stops : List Stop} {cause : Fault}
    (h : Journey advance w stops w₁)
    (hcause : cause.IsLoop) : Stranded advance w (.fault cause) w₁
  | midway {w₁ w' : World} {stops : List Stop} {deed : Option Command}
    {halt : Halt} (h : Journey advance w stops w₁) (hturn :
      Rover.turn advance deed w₁ = .error halt w') : Stranded advance w halt w'

namespace Journey

variable {advance : Flight Unit} {w w' w'' : World}
  {stops : List Stop} {stop : Stop}

theorem pause (h : Journey advance w stops w') (hrest : Interlude w' w'') :
    Journey advance w stops w'' := by
  cases h with
  | rest h => exact .rest (h.trans hrest)
  | turn h hturn hpause => exact .turn h hturn (hpause.trans hrest)

theorem position_eq (h : Journey advance w (stop :: stops) w') :
    stop.position = w'.mission.rover := by
  cases h with
  | turn _ _ hrest => exact hrest.rover.symm

theorem keeps {inv : World → Prop} (hsteady : Steady inv)
    (hturn : ∀ deed w w', inv w → Rover.turn advance deed w = .ok () w' →
      inv w') (h : Journey advance w stops w') (hw : inv w) : inv w' := by
  induction h with
  | rest h => exact hsteady _ _ h hw
  | turn _ hrun hrest ih => exact hsteady _ _ hrest (hturn _ _ _ ih hrun)

end Journey

theorem journey_turnwise (advance : Flight Unit) (w : World) :
    Turnwise advance (fun w' => ∃ stops, Journey advance w stops w')
      (Stranded advance w) where
  steady := by
    rintro w₁ w₂ hrest ⟨stops, h⟩
    exact ⟨stops, h.pause hrest⟩
  turn := by
    rintro deed w₁ ⟨stops, h⟩
    apply yields_of_run
    · exact fun _ w₂ hturn => ⟨_, h.turn hturn (Interlude.refl w₂)⟩
    · exact fun _ w₂ hturn => .midway h hturn
  condition := by
    rintro c w₁ cause ⟨stops, h⟩ hdecide
    exact .undecided h hdecide

theorem turned_of_landed {w w' : World}
    {deed : Option Command} (hw : w.mission.Landed)
    (hturn : turn (startSector compose) deed w = .ok () w') :
    ∃ p, w.mission.rover = some p ∧ w.mission.grid.Has p ∧
      Turned w p deed w' := by
  obtain ⟨p, hp, hhas⟩ := hw
  exact ⟨p, hp, hhas, (turn_turns hp hhas deed).ok hturn⟩

theorem Journey.conserves {w w' : World} {stops : List Stop}
    (h : Journey (startSector compose) w stops w') (hw : w.mission.Landed) :
    w.mission.Conserves w'.mission := by
  have hsteady : Steady fun w' => w.mission.Conserves w'.mission :=
    fun _ _ hrest hw₁ => hw₁.interlude hrest
  refine h.keeps hsteady
    (fun deed w₁ w₂ hw₁ hturn => ?_) w.mission.conserves_refl
  obtain ⟨p, -, -, hturned⟩ := turned_of_landed (hw₁.landed hw) hturn
  exact hw₁.trans hturned.conserves

def perform (line : String) : Flight Unit :=
  (Instruction.parse line).run (startSector compose)

def performParts (parts : List String) : Flight Unit := do
  (← ofExcept (Instruction.ofBranchParts parts)).run (startSector compose)

def obey (lines : List String) : Flight Unit :=
  lines.forM fun line => (Instruction.parse line).run (startSector compose)

theorem obey_journeys (lines : List String) (w : World) :
    (obey lines).Yields w
      (fun _ w' => ∃ stops, Journey (startSector compose) w stops w')
      (Stranded (startSector compose) w) := by
  apply yields_forM
    (fun w' => ∃ stops, Journey (startSector compose) w stops w')
  · intro line _ w₁ hw₁
    refine (journey_turnwise _ w).run ?_ _ w₁
      (Instruction.counted_parse line) hw₁
    rintro cause w₂ hcause ⟨stops, h⟩
    exact .uncounted h hcause
  · exact ⟨[], .rest (Interlude.refl w)⟩

end Rover

import Rover.Proofs.Chronicle
import Rover.Proofs.Recursion

namespace Rover

open Flight

def Unhindered (past log : List Entry) : Prop :=
  ∃ entries, log = entries ++ past ∧ ∀ e ∈ entries, e.event ≠ .wait

theorem unhindered_refl (past : List Entry) : Unhindered past past :=
  ⟨[], rfl, by simp⟩

theorem Unhindered.cons {past log : List Entry} (h : Unhindered past log)
    {e : Entry} (he : e.event ≠ .wait) : Unhindered past (e :: log) := by
  obtain ⟨entries, rfl, hentries⟩ := h
  refine ⟨e :: entries, rfl, fun e' he' => ?_⟩
  rcases List.mem_cons.1 he' with rfl | he'
  · exact he
  · exact hentries e' he'

/-- The flight ends, without any waiting in front of a locked keyboard. -/
def Flight.Ends {α : Type} (x : Flight α) (w : World) : Prop :=
  (∀ w', x w ≠ .error .stalled w') ∧
  Unhindered w.console.log (x.final w).console.log

structure Supplied (past : List Entry) (n : Nat) (w : World) : Prop where
  inputs : w.console.inputs.length < n
  log : Unhindered past w.console.log

structure Proceeds (past : List Entry) (h : Halt) (w : World) : Prop where
  halt : h ≠ .stalled
  log : Unhindered past w.console.log

section

variable {past : List Entry} {n : Nat} {w : World}

theorem Supplied.steady (past : List Entry) (n : Nat) :
    Steady (Supplied past n) := by
  intro w w' h hw
  refine ⟨by rw [h.inputs]; exact hw.inputs,
    h.history (fun e log he hlog => ?_) hw.log⟩
  apply hlog.cons
  intro hwait
  rw [hwait] at he
  cases he

theorem Supplied.note (h : Supplied past n w) {event : Event}
    (he : event ≠ .wait) :
    Supplied past n (w.note event) :=
  ⟨h.inputs, h.log.cons he⟩

theorem Supplied.hear (h : Supplied past n w)
    (question : Prompt) {line : String} {rest : List String}
    (hinputs : w.console.inputs = line :: rest) :
    Supplied past n (w.hear question rest) := by
  refine ⟨?_, h.log.cons nofun⟩
  have hlength := h.inputs
  rw [hinputs, List.length_cons] at hlength
  rw [World.hear_inputs]
  omega

theorem Supplied.fault (h : Supplied past n w) (cause : Fault) :
    Proceeds past (.fault cause) w :=
  ⟨nofun, h.log⟩

theorem Supplied.unanswered (h : Supplied past n w) (question : Prompt) :
    Proceeds past (.fault .endOfInput) (w.note (.ask question)) :=
  ⟨nofun, h.log.cons nofun⟩

theorem Supplied.exit (h : Supplied past n w) : Proceeds past .exit w :=
  ⟨nofun, h.log⟩

private theorem explore_supplied (hw : Supplied past n w) :
    explore.Yields w (fun _ => Supplied past n) (Proceeds past) := by
  apply explore_keeps (Supplied.steady past n) hw
  · exact fun w p grid hw _ _ => ⟨hw.inputs, hw.log⟩
  · exact fun w hw => ⟨hw.inputs, hw.log.cons nofun⟩
  · exact fun w lot hw _ => ⟨hw.inputs, hw.log.cons nofun⟩
  · exact fun w hw => hw.exit
  · exact fun w hw _ => hw.fault _
  · exact fun w p cause hw _ _ => hw.fault cause
  · exact fun w hw _ => ⟨nofun, hw.log⟩

private theorem recharge_supplied (hw : Supplied past n w) :
    recharge.Yields w (fun _ => Supplied past n) (Proceeds past) := by
  apply recharge_keeps (Supplied.steady past n) hw
  · exact fun w hw => ⟨hw.inputs, hw.log.cons nofun⟩
  · exact fun w hw _ => ⟨nofun, hw.log⟩

private theorem supplied_endures {advance : Flight Unit}
    (hadvance : ∀ w, Supplied past n w →
      advance.Yields w (fun _ _ => False) (Proceeds past)) :
    Endures advance (Supplied past n) (Proceeds past) := by
  have hsteady := Supplied.steady past n
  constructor
  case steady => exact hsteady
  case exit => exact fun w hw => hw.exit
  case spend => exact fun w hw => ⟨hw.inputs, hw.log⟩
  case drive =>
    intro direction w hw
    apply drive_frame hsteady _ _ hw
    · exact fun w hw => hw.exit
    · exact fun w cause hw => hw.fault cause
    · exact fun w grid block rover hw => ⟨hw.inputs, hw.log⟩
    · exact fun w hw => ⟨hw.inputs, hw.log.cons nofun⟩
  case collect =>
    intro w hw
    apply collect_keeps hsteady hw
    · exact fun w p grid hw _ _ _ => ⟨hw.inputs, hw.log.cons nofun⟩
    · exact fun w hw _ => hw.fault _
    · exact fun w p cause hw _ _ _ => hw.fault cause
  case deliver =>
    intro w hw hbase
    apply deliver_atBase hsteady hbase
    · exact fun w' h => (hsteady _ _ h hw).note nofun
    · exact fun w hw _ _ => hw.fault _
    · exact fun w hw _ => hw.unanswered .nextSector
    · intro w line rest hw hinputs _
      have hheard := hw.hear .nextSector hinputs
      exact hadvance _ ⟨hheard.inputs, hheard.log⟩
    · exact fun w line rest w' hw hinputs _ h =>
        (hsteady _ _ h (hw.hear .nextSector hinputs)).exit
  case explore => exact fun w hw _ => explore_supplied hw
  case recharge => exact fun w hw _ => recharge_supplied hw
  case display =>
    intro w hw
    exact showMap_yields (fun w' h => hsteady _ _ h hw) fun _ w' h =>
      (hsteady _ _ h hw).fault _
  case condition => exact fun c w cause hw _ => hw.fault cause

def Reads (past : List Entry) (n : Nat) (script : List String) (w : World) :
    Prop :=
  w.console.inputs.length + script.length ≤ n ∧ Unhindered past w.console.log

theorem Reads.steady (past : List Entry) (n : Nat) (script : List String) :
    Steady (Reads past n script) := by
  rintro w w' h ⟨hinputs, hlog⟩
  have hw : Supplied past (w.console.inputs.length + 1) w :=
    ⟨Nat.lt_succ_self _, hlog⟩
  exact ⟨by rw [h.inputs]; exact hinputs, (Supplied.steady past _ _ _ h hw).log⟩

theorem conduct_supplied (past : List Entry) :
    Conduct (Supplied past) (Supplied past) (Supplied past) (Reads past)
      (fun n _ => Supplied past n) (Proceeds past) := by
  constructor
  case steadyEntering => exact Supplied.steady past
  case steadyComposing => exact Supplied.steady past
  case steadyReading => exact Reads.steady past
  case steadySubmitted => exact fun n _ => Supplied.steady past n
  case load =>
    intro n w hw
    have hland : ∀ m, Supplied past n (w.alter fun _ => m) :=
      fun m => ⟨hw.inputs, hw.log⟩
    apply loadSector_yields
    · exact fun _ => hw.fault _
    · exact fun _ field m _ _ _ => (hland m).fault _
    · intro sector executions memory battery map _ _ _ _ _
      apply showMap_yields
      · exact fun w' h => (Supplied.steady past n _ _ h (hland _)).note nofun
      · exact fun _ w' h => (Supplied.steady past n _ _ h (hland _)).fault _
  case exhausted => exact fun w hw => absurd hw.inputs (Nat.not_lt_zero _)
  case start => exact fun n w hw => ⟨Nat.le_of_lt_succ hw.inputs, hw.log⟩
  case read =>
    rintro n script w line rest ⟨hlength, hlog⟩ hinputs
    refine ⟨?_, hlog.cons nofun⟩
    rw [hinputs, List.length_cons] at hlength
    rw [List.length_append, List.length_singleton]
    change rest.length + (script.length + 1) ≤ n
    omega
  case ended => exact fun n script w hw _ => ⟨nofun, hw.2.cons nofun⟩
  case submit =>
    rintro n script w ⟨hlength, hlog⟩ hscript
    refine ⟨?_, hlog.cons nofun⟩
    have hpos := List.length_pos_iff.2 hscript
    rw [World.note_inputs]
    omega
  case reject =>
    intro n script w hw _
    refine ⟨hw.inputs, Unhindered.cons (Unhindered.cons hw.log ?_) ?_⟩
    · nofun
    · nofun
  case rejectHidden => exact fun n script w hw _ => ⟨nofun, hw.log.cons nofun⟩
  case accept => exact fun n script w hw _ => ⟨hw.inputs, hw.log.cons nofun⟩
  case acceptHidden => exact fun n script w hw _ _ => ⟨nofun, hw.log⟩
  case run =>
    exact fun n advance hadvance =>
      (supplied_endures hadvance).unlocked.turnwise
  case stop => exact fun n w hw => hw.exit
  case overrun => exact fun n cause w hw _ => hw.fault cause
  case next => exact fun n w hw _ _ => hw

theorem compose_supplied (hw : Supplied past n w)
    (hlocked : w.mission.locked = false) :
    compose.Yields w (fun _ _ => False) (Proceeds past) :=
  (conduct_supplied past).compose ⟨Nat.lt_succ_self _, hw.log⟩ hlocked

theorem startSector_supplied (hw : Supplied past n w) :
    (startSector compose).Yields w (fun _ _ => False) (Proceeds past) :=
  (conduct_supplied past).startSector
    (fun _ hw hlocked => compose_supplied hw hlocked) hw

private theorem executeScript_supplied (hw : Supplied past n w)
    (script : List String) :
    (executeScript compose script).Yields w (fun _ => Supplied past n)
      (Proceeds past) := by
  apply (conduct_supplied past).executeScript
  · exact fun w hw hlocked => compose_supplied hw hlocked
  · exact hw.note nofun
  · intro _ w hw hlocked
    apply yields_ite
    · intro _
      exact (compose_supplied hw hlocked).of_never
    · exact fun _ => (yields_pure _).2 hw

theorem run_supplied (hw : Supplied past n w) (i : Instruction) :
    (i.run (startSector compose)).Yields w (fun _ => Supplied past n)
      (Proceeds past) := by
  have hrun :=
    supplied_endures fun w (hw : Supplied past n w) => startSector_supplied hw
  have hcount : ∀ cause w, Endures.RefusesCount (fun _ => True) cause →
      Supplied past n w → Proceeds past (.fault cause) w :=
    fun cause w _ hw => hw.fault cause
  exact hrun.run hcount i w
    (Instruction.counted_of_forall (fun _ => trivial) i) hw

private theorem encounter_supplied (hw : Supplied past n w)
    (terrain : Terrain) :
    (encounter terrain).Yields w (fun _ => Supplied past n)
      (Proceeds past) := by
  cases terrain with
  | uncharted => exact explore_supplied hw
  | charger => exact recharge_supplied hw
  | obstacle =>
    exact closing_crash.yields fun w' h =>
      (Supplied.steady past n _ _ h hw).exit
  | _ => exact (yields_pure _).2 hw

theorem orient_supplied (hw : Supplied past n w) :
    orient.Yields w (fun _ _ => False) (Proceeds past) := by
  apply orient_yields (Supplied.steady past n) _ _
    (fun w hw => startSector_supplied hw) hw
  · exact fun question line rest w _ hw hinputs => hw.hear question hinputs
  · exact fun question w _ hw _ => hw.unanswered question

theorem beginCampaign_supplied (hw : Supplied past n w) :
    beginCampaign.Yields w (fun _ _ => False) (Proceeds past) := by
  apply beginCampaign_yields (Supplied.steady past n) _ _
    (fun w hw => startSector_supplied hw) _ hw
  · exact fun question line rest w _ hw hinputs => hw.hear question hinputs
  · exact fun question w _ hw _ => hw.unanswered question
  · exact fun w name hw => ⟨hw.inputs, hw.log⟩

private theorem prompt_supplied (hw : Supplied past n w)
    (hlocked : w.mission.locked = false) (question : Prompt) :
    (prompt question).Yields w (fun _ => Supplied past n) (Proceeds past) := by
  apply prompt_yields hlocked
  · exact fun w' line rest h hinputs =>
      (Supplied.steady past n _ _ h hw).hear question hinputs
  · exact fun w' h _ => (Supplied.steady past n _ _ h hw).unanswered question

end

theorem Flight.Yields.ends {α : Type} {x : Flight α} {w : World} {n : Nat}
    (hx : x.Yields w (fun _ => Supplied w.console.log n)
      (Proceeds w.console.log)) : x.Ends w := by
  refine ⟨fun w' hrun => (hx.error hrun).halt rfl, ?_⟩
  unfold Flight.final
  split
  · next hrun => exact (hx.ok hrun).log
  · next hrun => exact (hx.error hrun).log

theorem prompt_stalls {w : World} (hlocked : w.mission.locked = true)
    (hunlock : w.console.unlockIn = 0) (question : Prompt) :
    prompt question w = .error .stalled w := by
  change EStateM.bind (awaitUnlock w.console.unlockIn) _ w = _
  rw [hunlock]
  change EStateM.bind
    (EStateM.bind mission fun m => if m.locked then throw .stalled else pure ())
    _ w = _
  simp only [EStateM.bind, mission, hlocked]
  rfl

/-- Whatever is run ends, and without any waiting in front of a locked keyboard.
Where a flight asks before a bar has unlocked the keyboard, it has to be
unlocked at the start: otherwise, with nobody outside to unlock it, the flight
stalls.  The bound in the writing of scripts plays no part. -/
theorem every_flight_ends :
    (∀ (w : World) (text : String),
      ((Instruction.parse text).run (startSector compose)).Ends w) ∧
    (∀ (w : World) (parts : List String),
      (do
        (← ofExcept (Instruction.ofBranchParts parts)).run
          (startSector compose)).Ends w ∧
      (do
        (← ofExcept (Instruction.ofLoopParts parts)).run
          (startSector compose)).Ends w) ∧
    (∀ (w : World) (block : Cell), (encounter (Cell.terrain block)).Ends w) ∧
    (∀ (w : World) (script : List String),
      (executeScript compose script).Ends w) ∧
    (∀ w : World,
      (startSector compose).Ends w ∧ orient.Ends w ∧ beginCampaign.Ends w) ∧
    (∀ w : World, w.mission.locked = false →
      compose.Ends w ∧ ∀ question, (prompt question).Ends w) ∧
    (∀ w : World, w.mission.locked = true → w.console.unlockIn = 0 →
      ∀ question, prompt question w = .error .stalled w) ∧
    ∀ w : World, compose w =
      (do executeScript compose (← readScript) : Flight Unit) w := by
  have hstart : ∀ w : World,
      Supplied w.console.log (w.console.inputs.length + 1) w :=
    fun w => ⟨Nat.lt_succ_self _, unhindered_refl _⟩
  have hnever : ∀ {x : Flight Unit} {w : World},
      x.Yields w (fun _ _ => False) (Proceeds w.console.log) → x.Ends w := by
    intro x w hx
    apply Flight.Yields.ends (n := w.console.inputs.length + 1)
    exact hx.of_never
  have hparts : ∀ (w : World) (e : Except Fault Instruction),
      (do (← ofExcept e).run (startSector compose) : Flight Unit).Ends w := by
    intro w e
    apply Flight.Yields.ends (n := w.console.inputs.length + 1)
    rw [yields_bind]
    exact yields_ofExcept (fun i _ => run_supplied (hstart w) i) fun cause _ =>
      (hstart w).fault cause
  refine ⟨fun w text => (run_supplied (hstart w) _).ends, ?_, ?_, ?_, ?_, ?_,
    ?_, compose_eq⟩
  · exact fun w parts => ⟨hparts w _, hparts w _⟩
  · exact fun w block => (encounter_supplied (hstart w) _).ends
  · exact fun w script => (executeScript_supplied (hstart w) script).ends
  · intro w
    exact ⟨hnever (startSector_supplied (hstart w)), hnever
      (orient_supplied (hstart w)), hnever (beginCampaign_supplied (hstart w))⟩
  · intro w hlocked
    refine ⟨hnever (compose_supplied (hstart w) hlocked), fun question => ?_⟩
    exact (prompt_supplied (hstart w) hlocked question).ends
  · exact fun w hlocked hunlock question =>
      prompt_stalls hlocked hunlock question

def errand : World where
  mission := Mission.deploy
    { executions := 3, memory := 800, remaining := 800, battery := 60 }
    [["[R]", "[X]", "[@]"]]
  console :=
    { inputs := ["for 2 >> for 1 >> mve",
        "if CURRENT_BLOCK == @ then mvw else mve", "end", "obs", "end"] }
  atlas := ⟨[]⟩

theorem every_flight_ends_on_errand :
    compose.Ends errand ∧
    compose.halt? errand = some (.fault .endOfInput) ∧
    (compose.final errand).mission.rover = some ⟨0, 1⟩ ∧
    (compose.final errand).mission.executions = 1 ∧
    prompt .refresher { errand with mission.locked := true } =
      .error .stalled { errand with mission.locked := true } := by
  refine ⟨(every_flight_ends.2.2.2.2.2.1 errand rfl).1, by decide +kernel,
    by decide +kernel, by decide +kernel, ?_⟩
  exact every_flight_ends.2.2.2.2.2.2.1 _ rfl rfl _

end Rover

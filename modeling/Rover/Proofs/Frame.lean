import Rover.Proofs.Chronicle

namespace Rover

open Flight

namespace Grid

def shape (g : Grid) : List Nat :=
  g.map List.length

theorem shape_of_put {g g' : Grid} {p : Position} {c : Cell}
    (h : g.put p c = .ok g') :
    g'.shape = g.shape := by
  unfold put at h
  split at h
  · cases h
  · next i _ =>
    split at h
    · cases h
    · cases h
      apply List.ext_getElem?
      intro k
      simp only [shape, List.getElem?_map, List.getElem?_modify]
      cases g[k]? with
      | none => rfl
      | some row => by_cases hk : i = k <;> simp [hk]

theorem shape_of_drilled {g g' : Grid} {p : Position} (h : g.Drilled p g') :
    g'.shape = g.shape := by
  rcases h with ⟨-, hput⟩ | ⟨-, rfl⟩
  · exact shape_of_put hput
  · rfl

theorem width_eq (g : Grid) : g.width = g.shape.head?.getD 0 := by
  cases g with
  | nil => rfl
  | cons row rows => rfl

section

variable {g g' : Grid} (h : g'.shape = g.shape)
include h

theorem length_of_shape : g'.length = g.length := by
  simpa [shape] using congrArg List.length h

theorem width_of_shape : g'.width = g.width := by
  rw [width_eq, width_eq, h]

theorem spans_of_shape (p : Position) : g'.spans p = g.spans p := by
  rw [spans, spans, length_of_shape h, width_of_shape h]

theorem isRectangle_of_shape (hg : g.IsRectangle) : g'.IsRectangle := by
  intro row hrow
  have hlength : row.length ∈ g.shape := h ▸ List.mem_map_of_mem hrow
  obtain ⟨row', hrow', hsame⟩ := List.mem_map.1 hlength
  rw [width_of_shape h, ← hsame, hg row' hrow']

end

end Grid

/-- The events of a campaign that mark no turn in it: no question, no arrival,
no delivery and nothing about a script as a whole. -/
def Event.isRoutine : Event → Bool
  | .ask _ | .wait => false
  | .say (.controlGranted _) | .say .sampleDelivered => false
  | .say .compiling | .say (.scriptLoaded _) | .say (.memoryShortage _ _) =>
    false
  | _ => true

theorem Event.isRoutine_of_background {event : Event}
    (h : event.isMilestone = false) :
    event.isRoutine = true := by
  unfold Event.isRoutine
  split
  all_goals first | rfl | cases h

theorem isDelivery_of_routine {e : Entry} (he : e.event.isRoutine = true) :
    e.isDelivery = false := by
  unfold Entry.isDelivery
  rw [decide_eq_false_iff_not]
  intro hevent
  rw [hevent] at he
  cases he

namespace Mission

/-- The second mission differs from the first at most in what commands are for:
the cells and the rover on them, the power, and the sample once it is on
board. -/
structure Retains (m m' : Mission) : Prop where
  fields : m' = { m with
    grid := m'.grid
    block := m'.block
    rover := m'.rover
    onboard := m'.onboard
    battery := m'.battery
    locked := m'.locked }
  shape : m'.grid.shape = m.grid.shape
  onboard : m.onboard = true → m'.onboard = true

theorem retains_refl (m : Mission) : m.Retains m :=
  ⟨rfl, rfl, id⟩

theorem Retains.trans {m m' m'' : Mission} (h : m.Retains m')
    (h' : m'.Retains m'') :
    m.Retains m'' where
  fields := by rw [h'.fields, h.fields]
  shape := h'.shape.trans h.shape
  onboard := fun hm => h'.onboard (h.onboard hm)

theorem retains_locked (m : Mission) (locked : Bool) :
    m.Retains { m with locked } :=
  ⟨rfl, rfl, id⟩

theorem Retains.executions {m m' : Mission} (h : m.Retains m') :
    m'.executions = m.executions := by
  rw [h.fields]

end Mission

/-- From the first world to the second, no line was read, the mission was
retained, and so it was at every event between them. -/
structure Frame (w w' : World) : Prop where
  mission : w.mission.Retains w'.mission
  atlas : w'.atlas = w.atlas
  inputs : w'.console.inputs = w.console.inputs
  log : ∃ entries, w'.console.log = entries ++ w.console.log ∧
    ∀ e ∈ entries, e.event.isRoutine = true ∧ w.mission.Retains e.mission

namespace Frame

variable {w w' w'' : World}

theorem refl (w : World) : Frame w w where
  mission := w.mission.retains_refl
  atlas := rfl
  inputs := rfl
  log := ⟨[], rfl, by simp⟩

theorem trans (h : Frame w w') (h' : Frame w' w'') : Frame w w'' where
  mission := h.mission.trans h'.mission
  atlas := h'.atlas.trans h.atlas
  inputs := h'.inputs.trans h.inputs
  log := by
    obtain ⟨entries, hlog, hentries⟩ := h.log
    obtain ⟨entries', hlog', hentries'⟩ := h'.log
    refine ⟨entries' ++ entries, by rw [hlog', hlog, List.append_assoc],
      fun e he => ?_⟩
    rcases List.mem_append.1 he with he | he
    · obtain ⟨hroutine, hmission⟩ := hentries' e he
      exact ⟨hroutine, h.mission.trans hmission⟩
    · exact hentries e he

theorem of_interlude (h : Interlude w w') : Frame w w' where
  mission := by
    rw [h.mission]
    exact w.mission.retains_locked _
  atlas := h.atlas
  inputs := h.inputs
  log := by
    obtain ⟨entries, hlog, hentries⟩ := h.log
    refine ⟨entries, hlog, fun e he => ?_⟩
    obtain ⟨hbackground, hmission⟩ := hentries e he
    refine ⟨Event.isRoutine_of_background hbackground, ?_⟩
    rw [hmission]
    exact w.mission.retains_locked _

theorem alter {f : Mission → Mission} (h : w.mission.Retains (f w.mission)) :
    Frame w (w.alter f) :=
  ⟨h, rfl, rfl, [], rfl, by simp⟩

theorem note (w : World) {event : Event} (h : event.isRoutine = true) :
    Frame w (w.note event) :=
  ⟨w.mission.retains_refl, rfl, rfl, [⟨event, w.mission⟩], rfl,
    by simpa using ⟨h, w.mission.retains_refl⟩⟩

theorem put {p : Position} {c : Cell} {grid : Grid}
    (h : w.mission.grid.put p c = .ok grid) :
    Frame w (w.alter ({ · with grid := grid })) :=
  alter ⟨rfl, Grid.shape_of_put h, id⟩

theorem charge (w : World) (f : Mission → Int) :
    Frame w (w.alter fun m => { m with battery := f m }) :=
  alter ⟨rfl, rfl, id⟩

theorem power (w : World) (battery : Int) {message : Message}
    (h : (Event.say message).isRoutine = true) :
    Frame w (w.power battery message) :=
  (charge w fun _ => battery).trans (note _ h)

theorem collect {p : Position} {grid : Grid}
    (h : w.mission.grid.Drilled p grid) :
    Frame w (w.collect grid) := by
  have hdrill : Frame w (w.alter ({ · with grid := grid })) :=
    alter ⟨rfl, Grid.shape_of_drilled h, id⟩
  refine (hdrill.trans (note _ rfl)).trans (alter ?_)
  exact ⟨rfl, rfl, fun _ => rfl⟩

theorem history_of_retains {history : List Entry → Prop} (h : Frame w w')
    (hkeep : ∀ e log, e.event.isRoutine = true → w.mission.Retains e.mission →
      history log → history (e :: log)) (hw : history w.console.log) :
    history w'.console.log := by
  obtain ⟨entries, hlog, hentries⟩ := h.log
  rw [hlog]
  clear hlog
  induction entries with
  | nil => exact hw
  | cons e entries ih =>
    obtain ⟨hroutine, hmission⟩ := hentries e (List.mem_cons_self ..)
    refine hkeep e _ hroutine hmission (ih fun e he => ?_)
    exact hentries e (List.mem_cons_of_mem _ he)

theorem history {history : List Entry → Prop} (h : Frame w w')
    (hkeep : ∀ e log, e.event.isRoutine = true → history log →
      history (e :: log)) (hw : history w.console.log) :
    history w'.console.log :=
  h.history_of_retains (fun e log he _ => hkeep e log he) hw

end Frame

/-- Whatever holds across frames survives every instruction; a delivery alone is
left to look at. -/
theorem endures_of_frame
    {advance : Flight Unit} {inv : World → Prop} {halted : Halt → World → Prop}
    (hframe : ∀ w w', Frame w w' → inv w → inv w')
    (hhalted : ∀ h w, inv w → halted h w) (hdeliver : ∀ w, inv w →
      w.mission.AtBase → (deliver advance).Yields w (fun _ _ => False) halted) :
    Endures advance inv halted := by
  have hsteady : Steady inv := fun w w' h => hframe w w' (.of_interlude h)
  constructor
  case steady => exact hsteady
  case exit => exact hhalted _
  case spend => exact fun w => hframe w _ (.charge w _)
  case drive =>
    intro direction w hw
    refine drive_keeps ?_ ?_ hw (fun _ _ _ => ?_) fun w cause => hhalted _ w
    · exact fun w p c grid hw hgrid => hframe w _ (.put hgrid) hw
    · exact fun w block rover => hframe w _ (.alter ⟨rfl, rfl, id⟩)
    · refine loseSignal_yields fun w' h => hhalted _ w' ?_
      exact h.keeps hsteady (fun w => hframe w _ (.note w rfl)) hw
  case collect =>
    intro w hw
    refine collect_keeps hsteady hw ?_ (fun w hw _ => hhalted _ w hw)
      fun w _ _ hw _ _ _ => hhalted _ w hw
    exact fun w p grid hw _ _ hgrid => hframe w _ (.collect hgrid) hw
  case deliver => exact hdeliver
  case explore =>
    intro w hw _
    apply explore_keeps hsteady hw
    · exact fun w p grid hw _ hgrid => hframe w _ (.put hgrid) hw
    · exact fun w => hframe w _ (.power w _ rfl)
    · exact fun w lot hw _ => hframe w _ (.power w _ rfl) hw
    · exact hhalted _
    · exact fun w hw _ => hhalted _ w hw
    · exact fun w p cause hw _ _ => hhalted _ w hw
    · exact fun w hw _ => hhalted _ _ (hframe w _ (.charge w _) hw)
  case recharge =>
    intro w hw _
    apply recharge_keeps hsteady hw
    · exact fun w => hframe w _ (.power w _ rfl)
    · exact fun w hw _ => hhalted _ _ (hframe w _ (.charge w _) hw)
  case display =>
    intro w hw
    exact showMap_yields (fun w' h => hsteady w w' h hw) fun _ w' h =>
      hhalted _ w' (hsteady w w' h hw)
  case condition => exact fun _ w _ hw _ => hhalted _ w hw

theorem deliver_never_returns {w : World} (hw : w.mission.AtBase) :
    (deliver (startSector compose)).Yields w (fun _ _ => False)
      fun _ _ => True := by
  have hsteady : Steady fun _ => True := fun _ _ _ h => h
  apply deliver_atBase hsteady hw
  · exact fun _ _ => trivial
  · exact fun _ _ _ _ => trivial
  · exact fun _ _ _ => trivial
  · exact fun w line rest _ _ _ => startSector_never_returns _
  · exact fun _ _ _ _ _ _ _ _ => trivial

theorem frame_endures (w : World) :
    Endures (startSector compose) (Frame w) fun _ _ => True :=
  endures_of_frame (fun _ _ h hw => hw.trans h) (fun _ _ _ => trivial)
    fun _ _ hbase => deliver_never_returns hbase

theorem run_frame (i : Instruction) (w : World) :
    (i.run (startSector compose)).Yields w (fun _ => Frame w)
      fun _ _ => True := by
  have hcounted : i.Counted fun _ => True :=
    Instruction.counted_of_forall (fun _ => trivial) i
  exact (frame_endures w).run (fun _ _ _ _ => trivial) i w hcounted (.refl w)

theorem runLine_frame (line : String) (w : World) :
    (runLine compose line).Yields w (fun _ => Frame w) fun _ _ => True :=
  (runLine_yields (frame_endures w).turnwise (fun _ _ => trivial)
    (fun _ _ _ _ => trivial) line (.refl w)).imp fun _ _ h => h.1

theorem runLines_frame (script : List String) (w : World) :
    (script.forM (runLine compose)).Yields w (fun _ => Frame w)
      fun _ _ => True :=
  (runLines_yields (frame_endures w).turnwise (fun _ _ => trivial)
    (fun _ _ _ _ => trivial) (.refl w)).imp fun _ _ h => h.1

/-- An instruction that returns has asked for nothing and read no line.  It
leaves the operator, the level, the memory and what is left of it, the
executions, the size of the script, the marks of the map and the size of every
row as they were, and it does not lose the sample. -/
theorem instruction_keeps_frame (text : String) (w w' : World)
    (hrun : (Instruction.parse text).run (startSector compose) w = .ok () w') :
    w'.console.inputs = w.console.inputs ∧
    (∃ entries, w'.console.log = entries ++ w.console.log ∧
      ∀ e ∈ entries, ∀ question, e.event ≠ .ask question) ∧
    (w'.mission.operator = w.mission.operator ∧
      w'.mission.level = w.mission.level ∧
      w'.mission.memory = w.mission.memory ∧
      w'.mission.remaining = w.mission.remaining ∧
      w'.mission.executions = w.mission.executions ∧
      w'.mission.scriptSize = w.mission.scriptSize ∧
      w'.mission.sample = w.mission.sample ∧ w'.mission.base = w.mission.base) ∧
    w'.mission.grid.shape = w.mission.grid.shape ∧
    (w.mission.onboard = true → w'.mission.onboard = true) := by
  have hframe : Frame w w' := (run_frame _ w).ok hrun
  obtain ⟨entries, hlog, hentries⟩ := hframe.log
  refine ⟨hframe.inputs, ⟨entries, hlog, fun e he question hask => ?_⟩, ?_,
    hframe.mission.shape, hframe.mission.onboard⟩
  · have hroutine := (hentries e he).1
    rw [hask] at hroutine
    cases hroutine
  · rw [hframe.mission.fields]
    exact ⟨rfl, rfl, rfl, rfl, rfl, rfl, rfl, rfl⟩

def station : World where
  mission := Mission.deploy { onboard := true, battery := 40 }
    [["[R]", "[@]", "[X]"], ["[X]"]]
  console := { inputs := ["end"] }
  atlas := ⟨[]⟩

theorem station_keeps_frame :
    ∃ w', (Instruction.parse "for 2 >> if mve == @ then mve else obs").run
        (startSector compose)
        station = .ok () w' ∧
      (w'.mission.rover = some ⟨0, 1⟩ ∧ w'.mission.battery = 86) ∧
      w'.console.inputs = ["end"] ∧ w'.mission.level = 1 ∧
      w'.mission.executions = 1 ∧
      w'.mission.grid.shape = [3, 1] ∧ w'.mission.onboard = true := by
  have hrun := ok_final (by decide +kernel :
      ((Instruction.parse "for 2 >> if mve == @ then mve else obs").run
      (startSector compose)).returns station = true)
  obtain ⟨hinputs, -, ⟨-, hlevel, -, -, hexecutions, -⟩, hshape, honboard⟩ :=
    instruction_keeps_frame _ _ _ hrun
  exact ⟨_, hrun, by decide +kernel, hinputs, hlevel, hexecutions,
    hshape, honboard rfl⟩

end Rover

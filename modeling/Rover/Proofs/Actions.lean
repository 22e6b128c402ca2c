import Rover.Command
import Rover.Display
import Rover.Encounter
import Rover.Proofs.Ground
import Rover.Proofs.Interlude

namespace Rover

open Flight

/-- An assertion that no interlude disturbs. -/
def Steady (inv : World → Prop) : Prop :=
  ∀ w w', Interlude w w' → inv w → inv w'

namespace Flight

variable {α β : Type} {post : α → World → Prop}
  {halted : Halt → World → Prop} {w : World}

/-- A closing flight exits after an interlude. -/
def Closing (x : Flight α) : Prop :=
  ∀ w, x.Yields w (fun _ _ => False) fun h w' => h = .exit ∧ Interlude w w'

theorem Closing.yields {x : Flight α} (hx : Closing x)
    (hexit : ∀ w', Interlude w w' → halted .exit w') :
    x.Yields w post halted := by
  refine (hx w).mono (fun _ _ h => h.elim) ?_
  rintro h w' ⟨rfl, hw'⟩
  exact hexit w' hw'

theorem closing_exit : Closing (exit : Flight α) :=
  fun w => yields_exit.2 ⟨rfl, Interlude.refl w⟩

theorem closing_bind {x : Flight β} {f : β → Flight α} (hx : Quiet x)
    (hf : ∀ b, Closing (f b)) : Closing (x >>= f) := by
  intro w
  rw [yields_bind]
  exact hx.yields fun b w' h => (hf b).yields fun w'' h' => ⟨rfl, h.trans h'⟩

theorem Quiet.bind_yields {x : Flight β} {f : β → Flight α} (hx : Quiet x)
    (hf : ∀ b w', Interlude w w' → (f b).Yields w' post halted) :
    (x >>= f).Yields w post halted := by
  rw [yields_bind]
  exact hx.yields hf

theorem say_yields {message : Message} {post : Unit → World → Prop}
    (hshown : message.isShowable = true → post () (w.note (.say message)))
    (hhidden : message.isShowable = false → halted (.fault .notShowable) w) :
    (say message).Yields w post halted := by
  unfold say
  refine yields_ite (fun h => ?_) fun h => ?_
  · exact (yields_record _).2 (hshown h)
  · exact (yields_fail _).2 (hhidden (by simpa using h))

theorem awaitUnlock_eq (hlocked : w.mission.locked = false) (patience : Nat) :
    awaitUnlock patience w = .ok () w := by
  have hopen : ∀ x : Flight Unit,
      (do if (← mission).locked then x) w = .ok () w := by
    intro x
    change (if w.mission.locked = true then x else pure ()) w = _
    rw [hlocked]
    rfl
  cases patience with
  | zero => exact hopen _
  | succ patience => exact hopen _

theorem awaitUnlock_unlocked {post : Unit → World → Prop} (patience : Nat)
    (hlocked : w.mission.locked = false) (hpost : post () w) :
    (awaitUnlock patience).Yields w post halted :=
  Yields.of_eq ((yields_pure ()).2 hpost) (awaitUnlock_eq hlocked patience)

theorem ask_yields {question : Prompt} {post : String → World → Prop}
    (hline : ∀ line rest, w.console.inputs = line :: rest →
      post line (w.hear question rest)) (hend : w.console.inputs = [] →
      halted (.fault .endOfInput) (w.note (.ask question))) :
    (ask question).Yields w post halted := by
  refine (yields_bind _ _).2 ((yields_record _).2 ((yields_run _).2 ?_))
  cases hinputs : w.console.inputs with
  | nil =>
    simp only [World.note_inputs, hinputs]
    exact hend hinputs
  | cons line rest =>
    simp only [World.note_inputs, hinputs]
    exact hline line rest hinputs

theorem prompt_yields {question : Prompt} {post : String → World → Prop}
    (hlocked : w.mission.locked = false)
    (hline : ∀ w' line rest, Interlude w w' → w'.console.inputs = line :: rest →
      post line (w'.hear question rest))
    (hend : ∀ w', Interlude w w' → w'.console.inputs = [] →
      halted (.fault .endOfInput) (w'.note (.ask question))) :
    (prompt question).Yields w post halted := by
  simp only [prompt, yields_bind, yields_get]
  refine awaitUnlock_unlocked _ hlocked ?_
  refine quiet_flush.yields fun _ w₁ h₁ => ?_
  exact ask_yields (fun line rest hinputs => hline w₁ line rest h₁ hinputs)
    fun hinputs =>
    hend w₁ h₁ hinputs

end Flight

variable {α : Type} {post : Unit → World → Prop}
  {halted : Halt → World → Prop} {w : World}

theorem closing_endMission : Closing (endMission : Flight α) := by
  unfold endMission
  refine closing_bind (quiet_say rfl rfl) fun _ => ?_
  repeat refine closing_bind (by simp) fun _ => ?_
  exact closing_exit

theorem closing_stopWith {message : Message}
    (hshow : message.isShowable = true)
    (hmessage : (Event.say message).isMilestone = false) :
    Closing (stopWith message) :=
  closing_bind (quiet_say hshow hmessage) fun _ =>
    closing_bind (quiet_millis _) fun _ => closing_endMission

/-- Between the worlds the link was terminated, and nothing else. -/
def Cutoff (w w' : World) : Prop :=
  ∃ w₁, Interlude w w₁ ∧ Interlude (w₁.note (.say .linkTerminated)) w'

namespace Cutoff

variable {w' : World}

theorem mission (h : Cutoff w w') :
    w'.mission = { w.mission with locked := w'.mission.locked } := by
  obtain ⟨w₁, h₁, h₂⟩ := h
  rw [h₂.mission, World.note_mission, h₁.mission]

theorem keeps {inv : World → Prop} (h : Cutoff w w') (hsteady : Steady inv)
    (hlink : ∀ w, inv w → inv (w.note (.say .linkTerminated)))
    (hw : inv w) : inv w' := by
  obtain ⟨w₁, h₁, h₂⟩ := h
  exact hsteady _ _ h₂ (hlink w₁ (hsteady _ _ h₁ hw))

end Cutoff

theorem loseSignal_yields {post : α → World → Prop}
    (hlost : ∀ w', Cutoff w w' → halted .exit w') :
    (loseSignal : Flight α).Yields w post halted := by
  have hrest : Closing (do
      millis 1000
      say (.telemetryLost (← mission).operatorName)
      millis 3000
      endMission : Flight α) := by
    refine closing_bind (quiet_millis _) fun _ => ?_
    refine closing_bind quiet_mission fun m => ?_
    refine closing_bind (quiet_say rfl rfl) fun _ => ?_
    exact closing_bind (quiet_millis _) fun _ => closing_endMission
  unfold loseSignal
  refine (quiet_tell _ _).bind_yields fun _ w₁ h₁ => ?_
  refine (quiet_loadBar _ _).bind_yields fun _ w₂ h₂ => ?_
  refine (quiet_tell _ _).bind_yields fun _ w₃ h₃ => ?_
  refine (quiet_loadBar _ _).bind_yields fun _ w₄ h₄ => ?_
  rw [yields_bind]
  refine say_yields (fun _ => ?_) fun h => by cases h
  refine hrest.yields fun w' h' => hlost w' ⟨w₄, ?_, h'⟩
  exact ((h₁.trans h₂).trans h₃).trans h₄

theorem closing_crash : Closing crash := by
  unfold crash
  refine closing_bind (quiet_say rfl rfl) fun _ => ?_
  repeat refine closing_bind (by simp) fun _ => ?_
  refine closing_bind (quiet_say rfl rfl) fun _ => ?_
  repeat refine closing_bind (by simp) fun _ => ?_
  refine closing_bind (quiet_say rfl rfl) fun _ => ?_
  repeat refine closing_bind (by simp) fun _ => ?_
  exact closing_endMission

theorem quiet_reportGround (terrain : Terrain) :
    Quiet (reportGround terrain) := by
  unfold reportGround
  split
  · exact quiet_bind (quiet_draw _) fun _ => quiet_tell _ _
  · exact quiet_tell _ _
  · exact quiet_tell _ _
  · exact quiet_tell _ _
  · exact quiet_bind (quiet_tell _ _) fun _ => quiet_tell _ _
  · exact quiet_pure _

theorem quiet_observe : Quiet observe := by
  unfold observe
  repeat refine quiet_bind (by simp) fun _ => ?_
  exact quiet_bind (quiet_reportGround _) fun _ => quiet_millis _

def Mission.isShowable (m : Mission) : Bool :=
  [m.battery, m.remaining, m.memory - m.remaining,
    m.executions].all Numeral.isShowable

def Mission.readings (m : Mission) : List Message :=
  [.batteryLevel m.battery, .availableMemory m.remaining,
    .usedMemory (m.memory - m.remaining), .executionsLeft m.executions,
    if m.onboard then .cargoSecured else .cargoEmpty]

theorem Mission.readings_showable (m : Mission) :
    m.readings.all Message.isShowable = m.isShowable := by
  cases honboard : m.onboard <;>
    simp [readings, isShowable, Message.isShowable, Message.numbers, honboard]

theorem showMap_eq (w : World) :
    showMap w =
      let w' := w.noteAll
        (.clear w.console.platform :: w.mission.grid.map .mapRow ++
        (w.mission.readings.takeWhile Message.isShowable).map .say)
      if w.mission.isShowable then .ok () w'
        else .error (.fault .notShowable) w' := by
  have hclear : clearScreen w = .ok () (w.note (.clear w.console.platform)) :=
    rfl
  have hrows : ∀ w' : World,
      w.mission.grid.forM (fun row => record (.mapRow row)) w' =
      .ok () (w'.noteAll (w.mission.grid.map .mapRow)) := by
    intro w'
    rw [← forM_record, List.forM_eq_forM, List.forM_eq_forM, List.forM_map]
  have hreadings : showMap w = (do
      clearScreen
      w.mission.grid.forM fun row => record (.mapRow row)
      w.mission.readings.forM say : Flight Unit) w := by
    simp only [Mission.readings, List.forM_eq_forM, List.forM_cons,
      List.forM_nil, bind_pure_unit]
    rfl
  rw [hreadings, bind_of_ok hclear, bind_of_ok (hrows _), World.note_noteAll,
    forM_say, Mission.readings_showable]
  simp only [World.noteAll_noteAll]

theorem Mission.readings_background (m : Mission) :
    ∀ message ∈ m.readings, (Event.say message).isMilestone = false := by
  cases honboard : m.onboard <;>
    simp [readings, honboard, Event.isMilestone]

theorem showMap_interlude (w : World) :
    showMap.Yields w
      (fun _ w' => w.mission.isShowable = true ∧ Interlude w w' ∧
        w'.console.log ≠ w.console.log)
      fun h w' => h = .fault .notShowable ∧ w.mission.isShowable = false ∧
        Interlude w w' := by
  have hbackground : ∀ event ∈ Event.clear w.console.platform ::
      w.mission.grid.map Event.mapRow ++
        (w.mission.readings.takeWhile Message.isShowable).map Event.say,
      event.isMilestone = false := by
    intro event hevent
    rcases List.mem_append.1 hevent with hevent | hevent
    · rcases List.mem_cons.1 hevent with rfl | hevent
      · rfl
      · obtain ⟨row, -, rfl⟩ := List.mem_map.1 hevent
        rfl
    · obtain ⟨message, hmessage, rfl⟩ := List.mem_map.1 hevent
      exact w.mission.readings_background message
        ((List.takeWhile_sublist _).subset hmessage)
  have hinterlude := Interlude.noteAll hbackground w
  cases hshow : w.mission.isShowable with
  | true =>
    have hrun := (showMap_eq w).trans (if_pos hshow)
    refine Yields.of_eq ((yields_pure ()).2 ⟨rfl, hinterlude, ?_⟩) hrun
    exact w.noteAll_log_ne (List.cons_ne_nil _ _)
  | false =>
    have hrun := (showMap_eq w).trans (if_neg (Bool.eq_false_iff.1 hshow))
    exact Yields.of_eq ((yields_fail _).2 ⟨rfl, rfl, hinterlude⟩) hrun

theorem showMap_yields (hpost : ∀ w', Interlude w w' → post () w')
    (hhidden : w.mission.isShowable = false →
      ∀ w', Interlude w w' → halted (.fault .notShowable) w') :
    showMap.Yields w post halted := by
  refine (showMap_interlude w).mono (fun _ w' h => hpost w' h.2.1) ?_
  rintro h w' ⟨rfl, hhide, hw'⟩
  exact hhidden hhide w' hw'

namespace Interlude

variable {w' : World}

theorem ground (h : Interlude w w') : w'.mission.ground = w.mission.ground := by
  rw [h.mission]
  rfl

theorem rover (h : Interlude w w') : w'.mission.rover = w.mission.rover := by
  rw [h.mission]

theorem onboard (h : Interlude w w') :
    w'.mission.onboard = w.mission.onboard := by
  rw [h.mission]

theorem battery (h : Interlude w w') :
    w'.mission.battery = w.mission.battery := by
  rw [h.mission]

theorem grid (h : Interlude w w') : w'.mission.grid = w.mission.grid := by
  rw [h.mission]

theorem block (h : Interlude w w') : w'.mission.block = w.mission.block := by
  rw [h.mission]

end Interlude

def Mission.enter (m : Mission) (target : Position) : Mission :=
  { m with
    grid := m.terrain.replace target Cell.rover
    block := m.terrain.cellAt target
    rover := some target }

theorem putCell_has {p : Position} {c : Cell} (hp : w.mission.grid.Has p)
    (hpost : post () (w.alter fun m => { m with grid := m.grid.replace p c })) :
    (putCell p c).Yields w post halted := by
  simp only [putCell, yields_bind, yields_mission, yields_update]
  rw [Grid.put_of_has hp]
  refine yields_ofExcept (fun grid hgrid => ?_) fun _ h => by simp at h
  cases hgrid
  exact hpost

theorem drive_landed {direction : Direction} {p : Position}
    (hrover : w.mission.rover = some p) (hp : w.mission.grid.Has p)
    (hlost : w.mission.grid.spans (p.step direction) = false →
      ∀ w', Cutoff w w' → halted .exit w')
    (henter : w.mission.grid.spans (p.step direction) = true →
      w.mission.grid.Has (p.step direction) →
      post () (w.alter (·.enter (p.step direction))))
    (hragged : w.mission.grid.spans (p.step direction) = true →
      ¬w.mission.grid.Has (p.step direction) → halted (.fault .outOfRange)
      (w.alter fun m => { m with grid := m.terrain })) :
    (drive direction).Yields w post halted := by
  have hterrain := Mission.terrain_of_rover hrover
  simp only [drive, position, readCell, yields_bind, yields_mission]
  refine yields_ofOption (fun q hq => ?_) fun hq => by simp [hrover] at hq
  cases hrover.symm.trans hq
  refine yields_ite (fun hspans => ?_) fun hspans => ?_
  · simp only [yields_bind, yields_mission, yields_update]
    refine yields_ofOption (fun _ _ => ?_) fun h => by
      simp [Grid.cell?_of_has hp] at h
    -- The block goes back before the target is read, so a missing target leaves
    -- the bare ground.
    refine putCell_has hp ?_
    refine yields_ofOption (fun c hc => ?_) fun hnone => ?_
    · have hnonneg := Grid.nonneg_of_spans hspans
      have htarget := Grid.has_of_cell? hnonneg.1 hnonneg.2 hc
      cases (Grid.cell?_of_has htarget).symm.trans hc
      refine putCell_has htarget ?_
      have hpost := henter hspans (Grid.has_replace.1 htarget)
      simp only [Mission.enter, hterrain, World.alter] at hpost ⊢
      exact hpost
    · have htarget : ¬w.mission.grid.Has (p.step direction) := by
        intro htarget
        have hground : (w.mission.grid.replace p w.mission.block).Has
            (p.step direction) :=
          Grid.has_replace.2 htarget
        cases (Grid.cell?_of_has hground).symm.trans hnone
      have hhalted := hragged hspans htarget
      simp only [hterrain, World.alter] at hhalted ⊢
      exact hhalted
  · exact loseSignal_yields (hlost (by simpa using hspans))

theorem drive_lost {direction : Direction} (hrover : w.mission.rover = none)
    (hfault : halted (.fault .noPosition) w) :
    (drive direction).Yields w post halted := by
  simp only [drive, position, yields_bind, yields_mission]
  refine yields_ofOption (fun p hp => ?_) fun _ => hfault
  cases hrover.symm.trans hp

theorem drive_out {direction : Direction} {p : Position}
    (hrover : w.mission.rover = some p)
    (hout : w.mission.grid.spans (p.step direction) = false) :
    drive direction w = loseSignal w := by
  have hposition : position w = .ok p w := by
    change ofOption .noPosition w.mission.rover w = _
    rw [hrover]
    rfl
  rw [drive, bind_of_ok hposition]
  change (if w.mission.grid.spans (p.step direction) = true then _
    else loseSignal) w = _
  rw [hout, if_neg Bool.false_ne_true]

theorem drive_keeps {inv : World → Prop} {direction : Direction}
    (hput : ∀ w p c grid, inv w → w.mission.grid.put p c = .ok grid →
      inv (w.alter ({ · with grid := grid }))) (hmove : ∀ w block rover, inv w →
      inv (w.alter ({ · with block := block, rover := rover }))) (hw : inv w)
    (hlost : ∀ p, w.mission.rover = some p →
      w.mission.grid.spans (p.step direction) = false →
      (loseSignal : Flight Unit).Yields w (fun _ => inv) halted)
    (hfault : ∀ w cause, inv w → halted (.fault cause) w) :
    (drive direction).Yields w (fun _ => inv) halted := by
  have hcell : ∀ w p c, inv w →
      (putCell p c).Yields w (fun _ => inv) halted := by
    intro w p c hw
    simp only [putCell, yields_bind, yields_mission, yields_update]
    refine yields_ofExcept (fun grid hgrid => ?_)
      fun cause _ => hfault w cause hw
    exact hput w p c grid hw hgrid
  simp only [drive, position, readCell, yields_bind, yields_mission]
  refine yields_ofOption (fun p hp => ?_) fun _ => hfault w _ hw
  refine yields_ite (fun _ => ?_) fun hout => ?_
  · simp only [yields_bind, yields_mission, yields_update]
    refine yields_ofOption (fun _ _ => ?_) fun _ => hfault w _ hw
    refine (hcell w p _ hw).imp fun _ w₁ hw₁ => ?_
    refine yields_ofOption (fun c _ => ?_) fun _ => hfault w₁ _ hw₁
    exact hcell _ _ _ (hmove w₁ c _ hw₁)
  · exact hlost p hp (by simpa using hout)

theorem drive_frame {inv : World → Prop} {direction : Direction}
    (hsteady : Steady inv) (hinv : ∀ w grid block rover, inv w →
      inv (w.alter ({ · with grid := grid, block := block, rover := rover })))
    (hlink : ∀ w, inv w → inv (w.note (.say .linkTerminated)))
    (hw : inv w) (hexit : ∀ w, inv w → halted .exit w)
    (hfault : ∀ w cause, inv w → halted (.fault cause) w) :
    (drive direction).Yields w (fun _ => inv) halted := by
  have hlost : (loseSignal : Flight Unit).Yields w (fun _ => inv) halted :=
    loseSignal_yields fun w' h => hexit w' (h.keeps hsteady hlink hw)
  refine drive_keeps ?_ ?_ hw (fun _ _ _ => hlost) hfault
  · exact fun w _ _ grid hw _ => hinv w grid w.mission.block w.mission.rover hw
  · exact fun w block rover hw => hinv w w.mission.grid block rover hw

namespace World

def collect (w : World) (grid : Grid) : World :=
  ((w.alter ({ · with grid := grid })).note (.say .sampleCollected)).alter
    ({ · with onboard := true })

def power (w : World) (battery : Int) (message : Message) : World :=
  (w.alter ({ · with battery := battery })).note (.say message)

end World

/-- What the drill makes of the grid: a path where the rover stands, if that is
inside the perimeter. -/
def Grid.Drilled (g : Grid) (p : Position) (g' : Grid) : Prop :=
  (g.spans p = true ∧ g.put p Cell.path = .ok g') ∨ (g.spans p = false ∧ g' = g)

theorem collect_yields
    (hnone : w.mission.ground ≠ .sample → ∀ w', Interlude w w' → post () w')
    (hcollect : w.mission.ground = .sample → ∀ w₁ p grid w', Interlude w w₁ →
      w₁.mission.rover = some p → w₁.mission.grid.Drilled p grid →
      Interlude (w₁.collect grid) w' → post () w') (hlost : ∀ w₁,
      Interlude w w₁ → w₁.mission.rover = none → halted (.fault .noPosition) w₁)
    (hstuck : ∀ w₁ p cause, Interlude w w₁ → w₁.mission.rover = some p →
      w₁.mission.grid.spans p = true → w₁.mission.grid.put p Cell.path =
      .error cause → halted (.fault cause) w₁) :
    collect.Yields w post halted := by
  simp only [collect, yields_bind, yields_mission]
  refine yields_ite (fun hground => ?_) fun hground => ?_
  · simp only [position, putCell, yields_bind, yields_mission]
    refine (quiet_tell _ _).yields fun _ w₁ h₁ => ?_
    refine (quiet_loadBar _ _).yields fun _ w₂ h₂ => ?_
    have h := h₁.trans h₂
    refine yields_ofOption (fun p hp => ?_) fun hp => hlost w₂ h hp
    have hrest : ∀ grid, w₂.mission.grid.Drilled p grid →
        (do
          say .sampleCollected
          update ({ · with onboard := true })
          millis 1000
          say (.collectionPraise (← mission).operatorName)
          millis 2500).Yields
            (w₂.alter ({ · with grid := grid })) post halted := by
      intro grid hgrid
      simp only [yields_bind, yields_mission, yields_update]
      refine say_yields (fun _ => ?_) fun h => by cases h
      refine (quiet_millis _).yields fun _ w₄ h₄ => ?_
      refine (quiet_say rfl rfl).yields fun _ w₅ h₅ => ?_
      refine (quiet_millis _).yields fun _ w₆ h₆ => ?_
      exact hcollect hground w₂ p grid w₆ h hp hgrid ((h₄.trans h₅).trans h₆)
    refine yields_ite (fun hspans => ?_) fun hspans => ?_
    · simp only [yields_bind, yields_mission, yields_update] at hrest ⊢
      refine yields_ofExcept (fun grid hgrid => ?_) fun cause hcause => ?_
      · exact hrest grid (Or.inl ⟨hspans, hgrid⟩)
      · exact hstuck w₂ p cause h hp hspans hcause
    · exact hrest w₂.mission.grid (Or.inr ⟨by simpa using hspans, rfl⟩)
  · refine (quiet_say rfl rfl).bind_yields fun _ w₁ h₁ => ?_
    exact (quiet_millis _).yields fun _ w₂ h₂ => hnone hground w₂ (h₁.trans h₂)

theorem flare_yields
    (hcharged : ∀ w',
      Interlude (w.power (w.mission.battery + w.mission.intake 15)
        (.solarFlare (w.mission.intake 15))) w' → post () w')
    (hhidden : Numeral.isShowable (w.mission.intake 15) = false →
      halted (.fault .notShowable)
        (w.alter fun m => { m with battery := m.battery + m.intake 15 })) :
    flare.Yields w post halted := by
  simp only [flare, yields_bind, yields_mission, yields_update]
  refine say_yields (fun _ => ?_) fun h => ?_
  · refine (quiet_tell _ _).yields fun _ w₁ h₁ => ?_
    exact (quiet_loadBar _ _).yields fun _ w₂ h₂ =>
      hcharged w₂ (h₁.trans h₂)
  · exact hhidden (by simpa [Message.isShowable, Message.numbers] using h)

theorem interfere_yields {drain : Int}
    (hshow : Numeral.isShowable drain = true)
    (hpost : drain < w.mission.battery → ∀ w',
      Interlude (w.power (max 0 (w.mission.battery - drain))
        (.interference drain)) w' → post () w')
    (hexit : w.mission.battery ≤ drain → ∀ w',
      Interlude (w.power (max 0 (w.mission.battery - drain))
        (.interference drain)) w' → halted .exit w') :
    (interfere drain).Yields w post halted := by
  simp only [interfere, yields_bind, yields_mission, yields_update]
  refine say_yields (fun _ => ?_) fun h => ?_
  · refine (quiet_tell _ _).yields fun _ w₁ h₁ => ?_
    refine (quiet_loadBar _ _).yields fun _ w₂ h₂ => ?_
    have h : Interlude (w.power (max 0 (w.mission.battery - drain))
        (.interference drain)) w₂ := h₁.trans h₂
    have hbattery : w₂.mission.battery =
        max 0 (w.mission.battery - drain) := h.battery
    refine yields_ite (fun hempty => ?_) fun hleft => ?_
    · refine (closing_stopWith rfl rfl).yields fun w₃ h₃ => ?_
      exact hexit (by omega) w₃ (h.trans h₃)
    · exact (yields_pure _).2 (hpost (by omega) w₂ h)
  · simp [Message.isShowable, Message.numbers, hshow] at h

/-- What exploring does, stage by stage: the rover is put into the cell, and
then the battery is charged or drained. -/
theorem explore_stages {found settled : World → Prop}
    (hfound : Steady found) (hsettled : Steady settled)
    (hput : ∀ p grid, w.mission.rover = some p → w.mission.grid.put p
      Cell.rover = .ok grid → found (w.alter ({ · with grid := grid })))
    (hflare : ∀ w, found w → settled (w.power (w.mission.battery +
      w.mission.intake 15) (.solarFlare (w.mission.intake 15))))
    (hdrain : ∀ w (lot : Nat), found w → lot < 16 → settled (w.power
      (max 0 (w.mission.battery - (5 + lot))) (.interference (5 + lot))))
    (hexit : ∀ w, settled w → halted .exit w)
    (hlost : w.mission.rover = none → halted (.fault .noPosition) w)
    (hstuck : ∀ p cause, w.mission.rover = some p →
      w.mission.grid.put p Cell.rover = .error cause → halted (.fault cause) w)
    (hhidden : ∀ w, found w → Numeral.isShowable (w.mission.intake 15) = false →
      halted (.fault .notShowable)
      (w.alter fun m => { m with battery := m.battery + m.intake 15 })) :
    explore.Yields w (fun _ => settled) halted := by
  simp only [explore, position, putCell, yields_bind, yields_mission,
    yields_update]
  refine yields_ofOption (fun p hp => ?_) hlost
  refine yields_ofExcept (fun grid hgrid => ?_)
    fun cause hcause => hstuck p cause hp hcause
  refine (quiet_draw 2).yields fun lot w₂ h₂ => ?_
  have hw₂ := hfound _ _ h₂ (hput p grid hp hgrid)
  refine yields_ite (fun _ => ?_) fun _ => ?_
  · apply flare_yields
    · exact fun w' h => hsettled _ w' h (hflare w₂ hw₂)
    · exact hhidden w₂ hw₂
  · rw [yields_bind]
    refine draw_yields (by decide) fun lot w₃ hlot h₃ => ?_
    have hw₃ := hdrain w₃ lot (hfound _ _ h₃ hw₂) hlot
    apply interfere_yields (Numeral.isShowable_of_lt (by omega))
    · exact fun _ w' h => hsettled _ w' h hw₃
    · exact fun _ w' h => hexit w' (hsettled _ w' h hw₃)

theorem recharge_yields
    (hcharged : ∀ w', Interlude (w.power (w.mission.battery +
      w.mission.intake 25) (.charged (w.mission.intake 25))) w' → post () w')
    (hhidden : Numeral.isShowable (w.mission.intake 25) = false →
      halted (.fault .notShowable)
      (w.alter fun m => { m with battery := m.battery + m.intake 25 })) :
    recharge.Yields w post halted := by
  simp only [recharge, yields_bind, yields_mission, yields_update]
  refine say_yields (fun _ => ?_) fun h => ?_
  · have hbar : ∀ w', Interlude (w.power (w.mission.battery +
          w.mission.intake 25) (.charged (w.mission.intake 25))) w' →
        (loadBar .green 2000).Yields w' post halted :=
      fun w' h' => (quiet_loadBar _ _).yields
          fun _ w'' h'' => hcharged w'' (h'.trans h'')
    refine yields_ite (fun _ => ?_) fun _ => ?_
    · exact (quiet_tell _ _).bind_yields fun _ w₂ h₂ => hbar w₂ h₂
    · refine yields_ite (fun _ => ?_) fun _ => hbar _ (Interlude.refl _)
      exact (quiet_tell _ _).bind_yields fun _ w₂ h₂ => hbar w₂ h₂
  · exact hhidden (by simpa [Message.isShowable, Message.numbers] using h)

def Affirms (answer : String) : Prop :=
  answer = "y" ∨ answer = "Y"

instance (answer : String) : Decidable (Affirms answer) :=
  inferInstanceAs (Decidable (_ ∨ _))

section Keeps

variable {inv : World → Prop} (hsteady : Steady inv)
include hsteady

theorem collect_keeps (hw : inv w) (hcollect : ∀ w p grid,
      inv w → w.mission.ground = .sample → w.mission.rover = some p →
      w.mission.grid.Drilled p grid → inv (w.collect grid)) (hlost : ∀ w,
      inv w → w.mission.rover = none → halted (.fault .noPosition) w)
    (hstuck : ∀ w p cause, inv w → w.mission.rover = some p →
      w.mission.grid.spans p = true →
      w.mission.grid.put p Cell.path = .error cause → halted (.fault cause) w) :
    collect.Yields w (fun _ => inv) halted := by
  apply collect_yields
  · exact fun _ w' h => hsteady _ w' h hw
  · intro hground w₁ p grid w' h₁ hp hgrid h'
    have hw₁ := hsteady _ _ h₁ hw
    exact hsteady _ w' h'
      (hcollect w₁ p grid hw₁ (h₁.ground.trans hground) hp hgrid)
  · exact fun w₁ h₁ => hlost w₁ (hsteady _ _ h₁ hw)
  · exact fun w₁ p cause h₁ => hstuck w₁ p cause (hsteady _ _ h₁ hw)

theorem explore_keeps (hw : inv w)
    (hput : ∀ w p grid, inv w → w.mission.rover = some p → w.mission.grid.put
      p Cell.rover = .ok grid → inv (w.alter ({ · with grid := grid })))
    (hflare : ∀ w, inv w → inv (w.power (w.mission.battery +
      w.mission.intake 15) (.solarFlare (w.mission.intake 15))))
    (hdrain : ∀ w (lot : Nat), inv w → lot < 16 → inv (w.power
      (max 0 (w.mission.battery - (5 + lot))) (.interference (5 + lot))))
    (hexit : ∀ w, inv w → halted .exit w) (hlost : ∀ w,
      inv w → w.mission.rover = none → halted (.fault .noPosition) w)
    (hstuck : ∀ w p cause, inv w → w.mission.rover = some p →
      w.mission.grid.put p Cell.rover = .error cause → halted (.fault cause) w)
    (hhidden : ∀ w, inv w → Numeral.isShowable (w.mission.intake 15) = false →
      halted (.fault .notShowable)
      (w.alter fun m => { m with battery := m.battery + m.intake 15 })) :
    explore.Yields w (fun _ => inv) halted :=
  explore_stages hsteady hsteady
    (fun p grid => hput w p grid hw) hflare hdrain hexit (hlost w hw)
    (fun p cause => hstuck w p cause hw) hhidden

theorem recharge_keeps (hw : inv w)
    (hcharge : ∀ w, inv w → inv (w.power (w.mission.battery +
      w.mission.intake 25) (.charged (w.mission.intake 25))))
    (hhidden : ∀ w, inv w → Numeral.isShowable (w.mission.intake 25) = false →
      halted (.fault .notShowable)
      (w.alter fun m => { m with battery := m.battery + m.intake 25 })) :
    recharge.Yields w (fun _ => inv) halted :=
  recharge_yields (fun w' h => hsteady _ w' h (hcharge w hw)) (hhidden w hw)

theorem payBonus_keeps (hw : inv w)
    (hlarge : ∀ w, inv w → Bonus.ofBytes? (w.mission.memory -
      w.mission.scriptSize) = none → halted (.fault .bonusTooLarge) w) :
    payBonus.Yields w (fun _ => inv) halted := by
  simp only [payBonus, yields_bind, yields_mission]
  refine yields_ofOption (fun amount _ => ?_) fun h => hlarge w hw h
  refine (quiet_say rfl rfl).yields fun _ w₁ h₁ => ?_
  exact (quiet_millis _).yields fun _ w₂ h₂ => hsteady _ _ (h₁.trans h₂) hw

theorem leaveSector_keeps
    {advance : Flight Unit} (hw : inv w) (hlocked : w.mission.locked = false)
    (hend : ∀ w, inv w → w.console.inputs = [] →
      halted (.fault .endOfInput) (w.note (.ask .nextSector)))
    (hadvance : ∀ w line rest, inv w → w.console.inputs = line :: rest →
      Affirms line → advance.Yields ((w.hear .nextSector rest).alter fun m =>
      { m with level := m.level + 1, remaining := m.memory }) post halted)
    (hstop : ∀ w line rest w', inv w → w.console.inputs = line :: rest →
      ¬Affirms line → Interlude (w.hear .nextSector rest) w' →
      halted .exit w') :
    (leaveSector advance).Yields w post halted := by
  simp only [leaveSector, yields_bind]
  refine prompt_yields hlocked (fun w' line rest h hinputs => ?_)
    fun w' h hinputs => ?_
  · have hw' := hsteady _ _ h hw
    refine yields_ite (fun hyes => ?_) fun hno => ?_
    · rw [yields_bind, yields_update]
      exact hadvance w' line rest hw' hinputs hyes
    · exact closing_endMission.yields fun w'' h' =>
        hstop w' line rest w'' hw' hinputs hno h'
  · exact hend w' (hsteady _ _ h hw) hinputs

end Keeps

def Mission.AtBase (m : Mission) : Prop :=
  m.onboard = true ∧ m.ground = .base

theorem deliver_atBase {delivered : World → Prop} {advance : Flight Unit}
    (hdelivered : Steady delivered) (hbase : w.mission.AtBase) (hdeliver : ∀ w',
      Interlude w w' → delivered (w'.note (.say .sampleDelivered)))
    (hlarge : ∀ w, delivered w → w.mission.level = 1 →
      Bonus.ofBytes? (w.mission.memory - w.mission.scriptSize) = none →
      halted (.fault .bonusTooLarge) w)
    (hend : ∀ w, delivered w → w.console.inputs = [] →
      halted (.fault .endOfInput) (w.note (.ask .nextSector)))
    (hadvance : ∀ w line rest, delivered w → w.console.inputs = line :: rest →
      Affirms line → advance.Yields ((w.hear .nextSector rest).alter fun m =>
      { m with level := m.level + 1, remaining := m.memory }) post halted)
    (hstop : ∀ w line rest w', delivered w → w.console.inputs = line :: rest →
      ¬Affirms line → Interlude (w.hear .nextSector rest) w' →
      halted .exit w') :
    (deliver advance).Yields w post halted := by
  simp only [deliver, yields_bind, yields_mission]
  rw [if_pos ⟨hbase.2, hbase.1⟩]
  refine (quiet_tell _ _).bind_yields fun _ w₁ h₁ => (yields_bind _ _).2 ?_
  refine (unlocking_loadBar _ _).yields fun _ w₂ h₂ hlocked =>
    (yields_bind _ _).2 ?_
  have h := h₁.trans h₂
  refine say_yields (fun _ => ?_) fun h => by cases h
  refine (quiet_say rfl rfl).bind_yields fun _ w₃ h₃ => ?_
  refine (quiet_millis _).bind_yields fun _ w₄ h₄ => ?_
  have h' := h₃.trans h₄
  have hleave : ∀ w, delivered w ∧ w.mission.locked = false →
      (leaveSector advance).Yields w post halted :=
    fun w hw => leaveSector_keeps hdelivered hw.1 hw.2 hend hadvance hstop
  have hw₄ := hdelivered _ _ h' (hdeliver w₂ h)
  have hlocked₄ := h'.unlocked hlocked
  refine yields_ite (fun hfirst => ?_) fun _ => hleave w₄ ⟨hw₄, hlocked₄⟩
  let bonus : World → Prop := fun w =>
    delivered w ∧ w.mission.level = 1 ∧ w.mission.locked = false
  have hbonus : Steady bonus := fun w w' h hw =>
    ⟨hdelivered _ _ h hw.1, by rw [h.mission]; exact hw.2.1, h.unlocked hw.2.2⟩
  have hlevel : w₄.mission.level = 1 := by
    rw [h'.mission, World.note_mission, h.mission]
    exact hfirst
  refine (payBonus_keeps hbonus ⟨hw₄, hlevel, hlocked₄⟩ fun w hw =>
      hlarge w hw.1 hw.2.1).bind fun _ w₅ hw₅ => hleave w₅ ⟨hw₅.1, hw₅.2.2⟩

theorem deliver_elsewhere {advance : Flight Unit} (hbase : ¬w.mission.AtBase)
    (hpost : ∀ w', Interlude w w' → post () w') :
    (deliver advance).Yields w post halted := by
  have hrefuse : ∀ {message : Message}, message.isShowable = true →
      (Event.say message).isMilestone = false →
      (do
        say message
        millis 1500).Yields w post halted := by
    intro message hshow hmessage
    refine (quiet_say hshow hmessage).bind_yields fun _ w₁ h₁ => ?_
    exact (quiet_millis _).yields fun _ w₂ h₂ => hpost w₂ (h₁.trans h₂)
  simp only [deliver, yields_bind, yields_mission]
  rw [if_neg fun h => hbase ⟨h.2, h.1⟩]
  exact yields_ite (fun _ => hrefuse rfl rfl) fun _ => hrefuse rfl rfl

end Rover

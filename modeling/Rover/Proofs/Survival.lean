import Rover.Proofs.Confinement
import Rover.Proofs.Overstep

namespace Rover

open Flight

def Fault.isMisplaced (cause : Fault) : Bool :=
  cause ∈ [.noPosition, .outOfRange, .notAssignable, .notAnAddress]

theorem Fault.IsLoop.not_misplaced {cause : Fault} (h : cause.IsLoop) :
    cause.isMisplaced = false := by
  rcases h with ⟨digits, rfl, -⟩ | rfl | rfl
  · simp [isMisplaced]
  · rfl
  · rfl

section Level

variable {n : Int} {w : World}

def Reached (n : Int) (w : World) : Prop :=
  n ≤ w.mission.level

/-- No fault of a rover off the map comes before level `n`. -/
def Beyond (n : Int) (h : Halt) (w : World) : Prop :=
  ∀ cause, h = .fault cause → cause.isMisplaced = true → Reached n w

theorem Reached.of_frame {w' : World} (h : Frame w w') (hw : Reached n w) :
    Reached n w' := by
  rw [Reached, h.mission.fields]
  exact hw

theorem Reached.steady (n : Int) : Steady (Reached n) :=
  fun _ _ h => Reached.of_frame (.of_interlude h)

theorem Reached.beyond {h : Halt} (hw : Reached n w) : Beyond n h w :=
  fun _ _ _ => hw

private theorem beyond_exit (n : Int) (w : World) : Beyond n .exit w := nofun

private theorem beyond_fault {cause : Fault}
    (hcause : cause.isMisplaced = false) :
    Beyond n (.fault cause) w := by
  rintro _ ⟨⟩ hmisplaced
  cases hcause.symm.trans hmisplaced

private theorem conduct_reached (n : Int) :
    Conduct (fun _ => Reached n) (fun _ => Reached n) (fun _ => Reached n)
      (fun _ _ => Reached n) (fun _ _ => Reached n) (Beyond n) := by
  constructor
  case steadyEntering => exact fun _ => Reached.steady n
  case steadyComposing => exact fun _ => Reached.steady n
  case steadyReading => exact fun _ _ => Reached.steady n
  case steadySubmitted => exact fun _ _ => Reached.steady n
  case load =>
    intro _ w hw
    apply loadSector_yields
    · exact fun _ => hw.beyond
    · exact fun sector field m _ _ _ => beyond_fault rfl
    · intro sector executions memory battery map _ _ _ _ _
      have hland : Reached n (w.land executions memory battery map) := hw
      exact showMap_yields (fun w' h => Reached.steady n _ w' h hland)
        fun _ _ _ => beyond_fault rfl
  case exhausted => exact fun w hw => hw.beyond
  case start => exact fun _ w hw => hw
  case read => exact fun _ script w line rest hw _ => hw
  case ended => exact fun _ script w hw _ => hw.beyond
  case submit => exact fun _ script w hw _ => hw
  case reject => exact fun _ script w hw _ => hw
  case rejectHidden => exact fun _ script w hw _ => hw.beyond
  case accept => exact fun _ script w hw _ => hw
  case acceptHidden => exact fun _ script w hw _ _ => hw.beyond
  case run =>
    intro _ advance hadvance
    refine (endures_of_frame (fun w w' => Reached.of_frame)
      (fun _ w hw => hw.beyond) ?_).unlocked.turnwise
    intro w hw hbase
    apply deliver_atBase (Reached.steady n) hbase
    · exact fun w' h => Reached.steady n _ w' h hw
    · exact fun w hw _ _ => hw.beyond
    · exact fun w _ _ => beyond_fault rfl
    · intro w line rest hw _ _
      apply hadvance
      change n ≤ w.mission.level + 1
      exact Int.le_trans hw (by omega)
    · exact fun w line rest w' _ _ _ _ => beyond_exit n w'
  case stop => exact fun _ w _ => beyond_exit n w
  case overrun => exact fun _ cause w hw _ => hw.beyond
  case next => exact fun _ w hw _ _ => hw

private theorem startSector_beyond (hw : Reached n w) :
    (startSector compose).Yields w (fun _ _ => False) (Beyond n) :=
  (conduct_reached n).startSector (n := 0)
    (fun _ hw hlocked => (conduct_reached n).compose hw hlocked) hw

end Level

section Turns

variable {w w' : World} {p : Position}

theorem Mission.Landed.interlude (h : w.mission.Landed) (hw : Interlude w w') :
    w'.mission.Landed :=
  (w.mission.conserves_refl.interlude hw).landed h

private theorem command_beyond (hlanded : w.mission.Landed)
    (hfull : w.mission.grid.Full) (c : Command) :
    (c.run (startSector compose)).Yields w (fun _ _ => True)
      (Beyond (w.mission.level + 1)) := by
  have hspent : w.spend.mission.Landed := w.conserves_spend.landed hlanded
  unfold Command.run
  rw [yields_bind, yields_update]
  cases c with
  | move direction =>
    obtain ⟨p, hp, hhas⟩ := hspent
    apply drive_landed hp hhas
    · exact fun _ w' _ => beyond_exit _ w'
    · exact fun _ _ => trivial
    · exact fun hspans hragged => absurd (hfull _ hspans) hragged
  | observe => exact quiet_observe.yields fun _ _ _ => trivial
  | collect =>
    apply collect_yields
    · exact fun _ _ _ => trivial
    · exact fun _ _ _ _ _ _ _ _ _ => trivial
    · exact fun w₁ h₁ hlost => absurd hlost (hspent.interlude h₁).rover_ne_none
    · exact fun w₁ p cause h₁ hp _ hcause =>
        absurd hcause ((hspent.interlude h₁).put_ne_error hp cause)
  | deliver =>
    by_cases hbase : w.mission.AtBase
    · have hsteady : Steady fun w' => w'.mission.level = w.mission.level := by
        intro w₁ w₂ h hw₁
        rw [h.mission]
        exact hw₁
      apply deliver_atBase hsteady (w := w.spend) hbase
      · exact fun w' h => hsteady _ w' h rfl
      · exact fun _ _ _ _ => beyond_fault rfl
      · exact fun _ _ _ => beyond_fault rfl
      · -- The mission goes on in the next sector, and from there it never comes
        -- back.
        intro w₁ line rest hlevel _ _
        refine (startSector_beyond ?_).of_never
        exact Int.le_of_eq (congrArg (· + 1) hlevel.symm)
      · exact fun _ _ _ w' _ _ _ _ => beyond_exit _ w'
    · exact deliver_elsewhere (w := w.spend) hbase fun _ _ => trivial
  | finish => exact (yields_pure _).2 trivial

private theorem encounter_beyond (hlanded : w.mission.Landed) (n : Int) :
    (encounter w.mission.ground).Yields w (fun _ _ => True) (Beyond n) := by
  cases w.mission.ground with
  | uncharted =>
    have hsteady : Steady fun _ => True := fun _ _ _ h => h
    apply explore_stages hsteady hsteady
    · exact fun _ _ _ _ => trivial
    · exact fun _ _ => trivial
    · exact fun _ _ _ _ => trivial
    · exact fun w _ => beyond_exit n w
    · exact fun hlost => absurd hlost hlanded.rover_ne_none
    · exact fun p cause hp hcause =>
        absurd hcause (hlanded.put_ne_error hp cause)
    · exact fun _ _ _ => beyond_fault rfl
  | charger =>
    exact recharge_yields (fun _ _ => trivial) fun _ => beyond_fault rfl
  | obstacle => exact closing_crash.yields fun w' _ => beyond_exit n w'
  | _ => exact (yields_pure _).2 trivial

theorem settle_beyond (hlanded : w.mission.Landed) (n : Int) :
    settle.Yields w (fun _ _ => True) (Beyond n) := by
  rw [settle, yields_bind, yields_mission]
  refine (encounter_beyond hlanded n).bind fun _ w' _ => ?_
  exact showMap_yields (fun _ _ => trivial) fun _ _ _ => beyond_fault rfl

private theorem turn_beyond (hlanded : w.mission.Landed)
    (hfull : w.mission.grid.Full) (deed : Option Command) :
    (turn (startSector compose) deed).Yields w (fun _ _ => True)
      (Beyond (w.mission.level + 1)) := by
  cases deed with
  | none => exact settle_beyond hlanded _
  | some c =>
    obtain ⟨p, hp, hhas⟩ := hlanded
    have hcommand :=
      (command_acts hp hhas c).and (command_beyond ⟨p, hp, hhas⟩ hfull c)
    refine (hcommand.mono (fun _ _ h => h.1) fun _ _ h => h.2).bind
      fun _ w' hw' => ?_
    exact settle_beyond (hw'.conserves.landed ⟨p, hp, hhas⟩) _

end Turns

structure Mission.Alive (m : Mission) : Prop where
  rectangle : m.grid.IsRectangle
  inside : ∃ p, m.rover = some p ∧ m.grid.spans p = true
  safe : m.ground ≠ .obstacle

namespace Mission.Alive

theorem landed {m : Mission} (h : m.Alive) : m.Landed := by
  obtain ⟨p, hp, hspans⟩ := h.inside
  exact ⟨p, hp, h.rectangle.full p hspans⟩

theorem steady : Steady fun w => w.mission.Alive := by
  intro w w' h hw
  obtain ⟨p, hp, hspans⟩ := hw.inside
  refine ⟨h.grid ▸ hw.rectangle, ⟨p, h.rover.trans hp, h.grid ▸ hspans⟩, ?_⟩
  rw [h.ground]
  exact hw.safe

theorem turn {w w' : World} {deed : Option Command} (h : w.mission.Alive)
    (hturn : Rover.turn (startSector compose) deed w = .ok () w') :
    w'.mission.Alive := by
  obtain ⟨p, hp, hspans⟩ := h.inside
  obtain ⟨q, hq, -, hturned⟩ := turned_of_landed h.landed hturn
  cases hp.symm.trans hq
  have hshape := hturned.frame.mission.shape
  have hafter : w.mission.grid.spans (p.after deed) = true := by
    match deed with
    | some (.move direction) => exact hturned.perimeter direction rfl
    | none | some .observe | some .collect | some .deliver | some .finish =>
      exact hspans
  refine ⟨Grid.isRectangle_of_shape hshape h.rectangle,
    ⟨_, hturned.rover, ?_⟩, hturned.safe⟩
  rw [Grid.spans_of_shape hshape, hafter]

end Mission.Alive

theorem Journey.alive {w w' : World} {stops : List Stop}
    (h : Journey (startSector compose) w stops w') (hw : w.mission.Alive) :
    w'.mission.Alive :=
  h.keeps Mission.Alive.steady (fun _ _ _ hw hturn => hw.turn hturn) hw

/-- From a rover that is alive, whatever lines are run: if they return, it still
is, and if they fail for want of a cell, then in a later sector.  If they end
the mission for want of a link, in whatever sector, it was with a move over the
perimeter, and rover, grid and block are left as they were before it.  Every
such move ends the mission that way. -/
theorem rover_stays_alive (lines : List String) (w : World)
    (hw : w.mission.Alive) :
    (∀ w', obey lines w = .ok () w' → w'.mission.Alive) ∧
    (∀ cause w', obey lines w = .error (.fault cause) w' →
      cause.isMisplaced = true → w.mission.level < w'.mission.level) ∧
    (∀ halt w', obey lines w = .error halt w' →
      linkLosses w.console.log < linkLosses w'.console.log →
      halt = .exit ∧ ∃ direction w₁, Overstep w w₁ w' direction) ∧
    ∀ w₁ deed, w₁.mission.StepsOut deed →
      ∃ w', turn (startSector compose) deed w₁ = .error .exit w' ∧
        linkLosses w₁.console.log < linkLosses w'.console.log ∧
        w₁.mission.Unmoved w'.mission := by
  refine ⟨fun w' hrun => ?_, fun cause w' hrun hmisplaced => ?_,
    fun halt w' hrun => (obey_oversteps lines w).error hrun,
    fun w₁ deed => turn_out_exits _⟩
  · obtain ⟨stops, hjourney⟩ := (obey_journeys lines w).ok hrun
    exact hjourney.alive hw
  · cases (obey_journeys lines w).error hrun with
    | undecided hjourney hdecide =>
      have halive := hjourney.alive hw
      obtain ⟨_, _, _, rfl, -⟩ :=
        Condition.decide_error halive.landed halive.rectangle.full hdecide
      simp [Fault.isMisplaced] at hmisplaced
    | uncounted _ hloop => cases hloop.not_misplaced.symm.trans hmisplaced
    | @midway _ _ _ deed _ hjourney hturn =>
      have halive := hjourney.alive hw
      have hbeyond := turn_beyond halive.landed halive.rectangle.full deed
      rw [← (hjourney.conserves hw.landed).level]
      exact hbeyond.error hturn cause rfl hmisplaced

def outpost (next : Grid) (order : String) : World where
  mission :=
    { Mission.deploy {} [["[R]", "[X]"]] with block := "[B]", onboard := true }
  console := { inputs := ["y", order, "end"] }
  atlas := ⟨[(2, ⟨some 3, some 400, some 50, some next⟩)]⟩

theorem outpost_rover_stays_alive :
    (∃ w', obey ["mve"] (outpost [] "") = .ok () w' ∧ w'.mission.Alive) ∧
    (∃ w', obey ["drp"] (outpost [["[R]"], []] "mvs") =
        .error (.fault .outOfRange) w' ∧ 1 < w'.mission.level) ∧
    (∃ w' direction w₁, obey ["for 3 >> mve"] (outpost [] "") =
        .error .exit w' ∧ Overstep (outpost [] "") w₁ w' direction) ∧
    (∃ w' direction w₁, obey ["drp"] (outpost [["[R]", "[X]"]] "mvn") =
        .error .exit w' ∧ w'.mission.level = 2 ∧
      Overstep (outpost [["[R]", "[X]"]] "mvn") w₁ w' direction) ∧
    ∃ w', turn (startSector compose) (some (.move .north)) (outpost [] "") =
      .error .exit w' ∧ w'.mission.grid = [["[R]", "[X]"]] := by
  have hw : ∀ next order, (outpost next order).mission.Alive := by
    intro next order
    change Mission.Alive { Mission.deploy {} [["[R]", "[X]"]] with
      block := "[B]", onboard := true }
    exact ⟨by decide +kernel, ⟨⟨0, 0⟩, by decide +kernel⟩, by decide⟩
  refine ⟨?_, ?_, ?_, ?_, ?_⟩
  · have hrun := ok_final (by decide +kernel :
      (obey ["mve"]).returns (outpost [] "") = true)
    exact ⟨_, hrun, (rover_stays_alive _ _ (hw _ _)).1 _ hrun⟩
  · have hrun := error_final (by decide +kernel :
      (obey ["drp"]).halt? (outpost [["[R]"], []] "mvs") =
        some (.fault .outOfRange))
    exact ⟨_, hrun, (rover_stays_alive _ _ (hw _ _)).2.1 _ _ hrun rfl⟩
  · have hrun := error_final (by decide +kernel :
      (obey ["for 3 >> mve"]).halt? (outpost [] "") = some .exit)
    obtain ⟨-, direction, w₁, hover⟩ :=
      (rover_stays_alive _ _ (hw _ _)).2.2.1 _ _ hrun (by decide +kernel)
    exact ⟨_, direction, w₁, hrun, hover⟩
  · have hrun := error_final (by decide +kernel :
      (obey ["drp"]).halt? (outpost [["[R]", "[X]"]] "mvn") = some .exit)
    obtain ⟨-, direction, w₁, hover⟩ :=
      (rover_stays_alive _ _ (hw _ _)).2.2.1 _ _ hrun (by decide +kernel)
    exact ⟨_, direction, w₁, hrun, by decide +kernel, hover⟩
  · obtain ⟨w', hturn, -, -, hgrid, -⟩ :=
      (rover_stays_alive [] _ (hw [] "")).2.2.2 (outpost [] "")
        (some (.move .north)) ⟨⟨0, 0⟩, .north, rfl, rfl, by decide +kernel⟩
    exact ⟨w', hturn, hgrid⟩

end Rover

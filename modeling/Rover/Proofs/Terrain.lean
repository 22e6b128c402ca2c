import Rover.Proofs.Chronicle

namespace Rover

open Flight

/-- The second mission is in the same sector as the first, and on the same
ground if the rover of the first stands on a cell.  A rover without a position
stays where it is. -/
structure Mission.Conserves (m m' : Mission) : Prop where
  level : m'.level = m.level
  base : m'.base = m.base
  landed : m.Landed → m'.Landed
  terrain : m.Landed → m'.terrain = m.terrain
  lost : m.rover = none → m'.rover = none ∧ m'.block = m.block

namespace Mission

theorem conserves_refl (m : Mission) : m.Conserves m :=
  ⟨rfl, rfl, id, fun _ => rfl, fun h => ⟨h, rfl⟩⟩

variable {m₀ m m' : Mission} {p target : Position} {grid : Grid} {c : Cell}

theorem Conserves.trans (h : m₀.Conserves m) (h' : m.Conserves m') :
    m₀.Conserves m' where
  level := h'.level.trans h.level
  base := h'.base.trans h.base
  landed hm := h'.landed (h.landed hm)
  terrain hm := (h'.terrain (h.landed hm)).trans (h.terrain hm)
  lost hm := by
    obtain ⟨hrover, hblock⟩ := h.lost hm
    exact ⟨(h'.lost hrover).1, (h'.lost hrover).2.trans hblock⟩

theorem Conserves.of_fields (h : m₀.Conserves m) (hlevel : m'.level = m.level)
    (hbase : m'.base = m.base) (hgrid : m'.grid = m.grid)
    (hblock : m'.block = m.block) (hrover : m'.rover = m.rover) :
    m₀.Conserves m' where
  level := hlevel.trans h.level
  base := hbase.trans h.base
  landed hm := by
    obtain ⟨p, hp, hhas⟩ := h.landed hm
    exact ⟨p, hrover.trans hp, hgrid ▸ hhas⟩
  terrain hm := by
    rw [← h.terrain hm, Mission.terrain, Mission.terrain, hgrid, hblock, hrover]
  lost hm := ⟨hrover.trans (h.lost hm).1, hblock.trans (h.lost hm).2⟩

theorem Conserves.enter (h : m₀.Conserves m) (hp : m.rover = some p)
    (htarget : m.grid.Has target) : m₀.Conserves (m.enter target) := by
  have hground : m.terrain.Has target := by
    rw [terrain_of_rover hp]
    exact Grid.has_replace.2 htarget
  refine ⟨h.level, h.base, fun _ => ⟨target, rfl, Grid.has_replace.2 hground⟩,
    fun hm => ?_, fun hlost => ?_⟩
  · calc (m.enter target).terrain
        = (m.terrain.replace target Cell.rover).replace target
            (m.terrain.cellAt target) := rfl
      _ = m.terrain := by rw [Grid.replace_replace, Grid.replace_cellAt hground]
      _ = m₀.terrain := h.terrain hm
  · cases (h.lost hlost).1.symm.trans hp

theorem Conserves.put (h : m₀.Conserves m) (hp : m.rover = some p)
    (hgrid : m.grid.put p c = .ok grid) :
    m₀.Conserves { m with grid := grid } := by
  have hreplace : m₀.Landed → m.grid.Has p ∧ grid = m.grid.replace p c := by
    intro hm
    have hhas := (h.landed hm).has hp
    rw [Grid.put_of_has hhas] at hgrid
    cases hgrid
    exact ⟨hhas, rfl⟩
  refine ⟨h.level, h.base, fun hm => ?_, fun hm => ?_, h.lost⟩
  · obtain ⟨hhas, rfl⟩ := hreplace hm
    exact ⟨p, hp, Grid.has_replace.2 hhas⟩
  · obtain ⟨-, rfl⟩ := hreplace hm
    calc Mission.terrain { m with grid := m.grid.replace p c }
        = (m.grid.replace p c).replace p m.block := terrain_of_rover hp
      _ = m.terrain := by rw [Grid.replace_replace, terrain_of_rover hp]
      _ = m₀.terrain := h.terrain hm

theorem Conserves.drill (h : m₀.Conserves m) (hp : m.rover = some p)
    (hgrid : m.grid.Drilled p grid) :
    m₀.Conserves { m with grid := grid, onboard := true } := by
  rcases hgrid with ⟨-, hgrid⟩ | ⟨-, rfl⟩
  · exact (h.put hp hgrid).of_fields rfl rfl rfl rfl rfl
  · exact h.of_fields rfl rfl rfl rfl rfl

theorem Conserves.interlude {w w' : World} (h : m₀.Conserves w.mission)
    (hw : Interlude w w') :
    m₀.Conserves w'.mission := by
  rw [hw.mission]
  exact h.of_fields rfl rfl rfl rfl rfl

end Mission

section Run

variable (history : Atlas → List Entry → Prop) {m₀ : Mission}
  {halted : Halt → World → Prop}

private theorem drive_conserves {direction : Direction}
    {w : World} (hquiet : Steady fun w => history w.atlas w.console.log)
    (hlink : ∀ w : World, history w.atlas w.console.log →
      history w.atlas (w.note (.say .linkTerminated)).console.log)
    (hhalted : ∀ h w, history w.atlas w.console.log → halted h w)
    (hw : m₀.Conserves w.mission) (hlog : history w.atlas w.console.log) :
    (drive direction).Yields w
      (fun _ w' => m₀.Conserves w'.mission ∧
        history w'.atlas w'.console.log) halted := by
  by_cases hm : m₀.Landed
  · obtain ⟨p, hp, hhas⟩ := hw.landed hm
    apply drive_landed hp hhas
    · exact fun _ w' h => hhalted _ w' (h.keeps hquiet hlink hlog)
    · exact fun _ htarget => ⟨hw.enter hp htarget, hlog⟩
    · exact fun _ _ => hhalted _ _ hlog
  by_cases hlost : m₀.rover = none
  · exact drive_lost (hw.lost hlost).1 (hhalted _ w hlog)
  -- A rover outside the grid: there is no ground to conserve, only the sector.
  have hframe : Steady fun w => (w.mission.level = m₀.level ∧
        w.mission.base = m₀.base) ∧ history w.atlas w.console.log := by
    rintro w w' h ⟨hplace, hlog⟩
    exact ⟨by rw [h.mission]; exact hplace, hquiet w w' h hlog⟩
  refine (drive_frame hframe (fun w _ _ _ hw => hw)
    (fun w hw => ⟨hw.1, hlink w hw.2⟩) ⟨⟨hw.level, hw.base⟩, hlog⟩
    (fun w hw => hhalted _ w hw.2) fun w _ hw => hhalted _ w hw.2).imp
    fun _ w' hw' => ?_
  exact ⟨⟨hw'.1.1, hw'.1.2, fun h => absurd h hm, fun h => absurd h hm,
    fun h => absurd h hlost⟩, hw'.2⟩

/-- Every instruction conserves the ground, next to whatever a history keeps as
long as no sector is entered, no line of a script is asked for and nothing is
delivered. -/
private theorem endures_conserves {advance : Flight Unit}
    (hkeep : ∀ atlas e log, e.isArrival = false → e.isScriptPrompt = false →
      e.isDelivery = false → history atlas log → history atlas (e :: log))
    (hdeliver : ∀ atlas m log, m₀.Conserves m →
      history atlas log → history atlas (⟨.say .sampleDelivered, m⟩ :: log))
    (hhalted : ∀ h w, history w.atlas w.console.log → halted h w)
    (hadvance : ∀ w, history w.atlas w.console.log →
      advance.Yields w (fun _ _ => False) halted) :
    Endures advance (fun w => m₀.Conserves w.mission ∧
        history w.atlas w.console.log) halted := by
  have hbackground : ∀ atlas e log, e.event.isMilestone = false →
      history atlas log → history atlas (e :: log) := by
    intro atlas e log he
    exact hkeep atlas e log (isArrival_of_background he)
      (isScriptPrompt_of_background he) (isDelivery_of_background he)
  have hquiet : Steady fun w => history w.atlas w.console.log := by
    intro w w' h hlog
    rw [h.atlas]
    exact h.history (hbackground w.atlas) hlog
  have hsteady : Steady fun w => m₀.Conserves w.mission ∧
      history w.atlas w.console.log :=
    fun w w' h hw => ⟨hw.1.interlude h, hquiet w w' h hw.2⟩
  constructor
  case steady => exact hsteady
  case exit => exact fun w hw => hhalted _ w hw.2
  case spend => exact fun w hw => ⟨hw.1.of_fields rfl rfl rfl rfl rfl, hw.2⟩
  case drive =>
    intro direction w hw
    exact drive_conserves history hquiet (fun w => hkeep _ _ _ rfl rfl rfl)
      hhalted hw.1 hw.2
  case collect =>
    intro w hw
    refine collect_keeps hsteady hw ?_ (fun w hw _ => hhalted _ w hw.2)
      fun w _ cause hw _ _ _ => hhalted _ w hw.2
    intro w p grid hw _ hp hgrid
    exact ⟨hw.1.drill hp hgrid, hkeep _ _ _ rfl rfl rfl hw.2⟩
  case deliver =>
    intro w hw hbase
    apply deliver_atBase hquiet hbase
    · intro w' h
      have hw' := hsteady _ w' h hw
      exact hdeliver _ _ _ hw'.1 hw'.2
    · exact fun w hlog _ _ => hhalted _ w hlog
    · exact fun w hlog _ => hhalted _ _ (hkeep _ _ _ rfl rfl rfl hlog)
    · exact fun w line rest hlog _ _ =>
        hadvance _ (hkeep _ _ _ rfl rfl rfl hlog)
    · intro w line rest w' hlog _ _ h
      exact hhalted _ w' (hquiet _ w' h (hkeep _ _ _ rfl rfl rfl hlog))
  case explore =>
    intro w hw _
    refine explore_keeps hsteady hw ?_ ?_ ?_ (fun w hw => hhalted _ w hw.2)
      (fun w hw _ => hhalted _ w hw.2) (fun w _ _ hw _ _ => hhalted _ w hw.2)
      fun w hw _ => hhalted _ _ hw.2
    · exact fun w p grid hw hp hgrid => ⟨hw.1.put hp hgrid, hw.2⟩
    · exact fun w hw =>
        ⟨hw.1.of_fields rfl rfl rfl rfl rfl, hkeep _ _ _ rfl rfl rfl hw.2⟩
    · exact fun w lot hw _ =>
        ⟨hw.1.of_fields rfl rfl rfl rfl rfl, hkeep _ _ _ rfl rfl rfl hw.2⟩
  case recharge =>
    intro w hw _
    refine recharge_keeps hsteady hw ?_ fun w hw _ => hhalted _ _ hw.2
    exact fun w hw =>
      ⟨hw.1.of_fields rfl rfl rfl rfl rfl, hkeep _ _ _ rfl rfl rfl hw.2⟩
  case display =>
    intro w hw
    exact showMap_yields (fun w' h => hsteady _ _ h hw) fun _ w' h =>
      hhalted _ w' (hsteady _ _ h hw).2
  case condition => exact fun _ w _ hw _ => hhalted _ w hw.2

end Run

def Atlas.Charts (atlas : Atlas) (m : Mission) : Prop :=
  ∃ sector, atlas.sector? m.level = some sector ∧ sector.map = some m.grid

/-- Whenever a line of a script is asked for and whenever the sample is
delivered, the ground is that of the sector as it was entered. -/
def Surveyed (atlas : Atlas) (e : Entry) (earlier : List Entry) : Prop :=
  e.isScriptPrompt = true ∨ e.isDelivery = true →
    ∃ m, arrival? earlier = some m ∧ atlas.Charts m ∧ m.Conserves e.mission

structure Visiting (chart : Atlas) (m : Mission) (atlas : Atlas)
    (log : List Entry) : Prop where
  atlas : atlas = chart
  charts : chart.Charts m
  arrival : arrival? log = some m
  surveyed : Chronicle (Surveyed chart) log

section Campaign

variable {chart : Atlas} {e : Entry} {log : List Entry}

private theorem surveyed_cons (hprompt : e.isScriptPrompt = false)
    (hdelivery : e.isDelivery = false) (hlog : Chronicle (Surveyed chart) log) :
    Chronicle (Surveyed chart) (e :: log) := by
  refine chronicle_cons.2 ⟨fun he => ?_, hlog⟩
  rw [hprompt, hdelivery] at he
  rcases he with he | he
  · cases he
  · cases he

theorem Visiting.cons {m : Mission} {atlas : Atlas}
    (h : Visiting chart m atlas log) (harrival : e.isArrival = false)
    (hprompt : e.isScriptPrompt = false) (hdelivery : e.isDelivery = false) :
    Visiting chart m atlas (e :: log) :=
  ⟨h.atlas, h.charts, (arrival?_cons harrival).trans h.arrival,
    surveyed_cons hprompt hdelivery h.surveyed⟩

theorem Visiting.survey {m : Mission} {atlas : Atlas}
    (h : Visiting chart m atlas log) (harrival : e.isArrival = false)
    (he : m.Conserves e.mission) :
    Visiting chart m atlas (e :: log) :=
  ⟨h.atlas, h.charts, (arrival?_cons harrival).trans h.arrival,
    chronicle_cons.2 ⟨fun _ => ⟨m, h.arrival, h.charts, he⟩, h.surveyed⟩⟩

def Explores (chart : Atlas) (w : World) : Prop :=
  ∃ m : Mission, m.Conserves w.mission ∧ Visiting chart m w.atlas w.console.log

theorem Explores.steady (chart : Atlas) : Steady (Explores chart) := by
  rintro w w' h ⟨m, hm, hlog⟩
  refine ⟨m, hm.interlude h, ?_⟩
  rw [h.atlas]
  refine h.history (fun e log he hlog => ?_) hlog
  exact hlog.cons (isArrival_of_background he) (isScriptPrompt_of_background he)
    (isDelivery_of_background he)

def Approaches (chart : Atlas) (w : World) : Prop :=
  w.atlas = chart ∧ Chronicle (Surveyed chart) w.console.log

theorem Approaches.steady (chart : Atlas) : Steady (Approaches chart) := by
  rintro w w' h ⟨hatlas, hlog⟩
  refine ⟨h.atlas.trans hatlas, h.history (fun e log he => ?_) hlog⟩
  exact surveyed_cons (isScriptPrompt_of_background he)
    (isDelivery_of_background he)

theorem Explores.endures {advance : Flight Unit}
    (hadvance : ∀ w, Approaches chart w → advance.Yields w (fun _ _ => False)
      fun _ w => Chronicle (Surveyed chart) w.console.log) :
    Endures advance (Explores chart)
      fun _ w => Chronicle (Surveyed chart) w.console.log := by
  refine Endures.ofFamily fun m =>
    endures_conserves (Visiting chart m) ?_ ?_ ?_ ?_
  · exact fun _ e log harrival hprompt hdelivery h =>
      h.cons harrival hprompt hdelivery
  · exact fun _ m' log hm h => h.survey rfl hm
  · exact fun _ w h => h.surveyed
  · exact fun w h => hadvance w ⟨h.atlas, h.surveyed⟩

private theorem loadSector_explores {w : World} (hw : Approaches chart w) :
    loadSector.Yields w (fun _ w' =>
      Explores chart (w'.note (.say (.controlGranted w'.mission.operatorName))))
      fun _ w' => Chronicle (Surveyed chart) w'.console.log := by
  obtain ⟨rfl, hlog⟩ := hw
  refine loadSector_yields (fun _ => hlog) (fun _ _ _ _ _ _ => hlog) ?_
  intro sector executions memory battery map hsector _ _ _ hmap
  have hland : Approaches w.atlas (w.land executions memory battery map) :=
    ⟨rfl, hlog⟩
  refine showMap_yields (fun w' h => ?_)
    fun _ w' h => (Approaches.steady _ _ _ h hland).2
  have hcharts : w.atlas.Charts w'.mission := by
    rw [h.mission]
    exact ⟨sector, hsector, hmap⟩
  have happroach := Approaches.steady _ _ _ h hland
  refine ⟨w'.mission, Mission.conserves_refl _, happroach.1, hcharts, ?_, ?_⟩
  · exact arrival?_arrival rfl
  · exact surveyed_cons rfl rfl happroach.2

theorem loadSector_sets (w : World) :
    loadSector.Yields w (fun _ w' => w.atlas.Charts w'.mission ∧
      w'.mission.level = w.mission.level ∧ w'.mission.block = w.mission.block ∧
      w'.mission.rover =
        (w'.mission.grid.locate? Cell.rover).or w.mission.rover)
      fun _ _ => True := by
  refine loadSector_yields (fun _ => trivial) (fun _ _ _ _ _ _ => trivial) ?_
  intro sector executions memory battery map hsector _ _ _ hmap
  refine showMap_yields (fun w' h => ?_) fun _ _ _ => trivial
  rw [h.mission]
  exact ⟨⟨sector, hsector, hmap⟩, rfl, rfl, rfl⟩

private theorem conduct_explores (chart : Atlas) :
    Conduct (fun _ => Approaches chart) (fun _ => Explores chart)
      (fun _ => Explores chart)
      (fun _ _ => Explores chart) (fun _ _ => Explores chart)
      fun _ w => Chronicle (Surveyed chart) w.console.log := by
  have hhalt : ∀ w, Explores chart w →
      Chronicle (Surveyed chart) w.console.log :=
    fun w ⟨m, _, hlog⟩ => hlog.surveyed
  have hsay : ∀ w message,
      Explores chart w → Entry.isArrival ⟨.say message, w.mission⟩ = false →
      Explores chart (w.note (.say message)) :=
    fun w message ⟨m, hm, hlog⟩ harrival => ⟨m, hm, hlog.survey harrival hm⟩
  have hweigh : ∀ w scriptSize executions remaining, Explores chart w →
      Explores chart (w.alter ({ · with scriptSize, executions, remaining })) :=
    fun w _ _ _ ⟨m, hm, hlog⟩ => ⟨m, hm.of_fields rfl rfl rfl rfl rfl, hlog⟩
  constructor
  case steadyEntering => exact fun _ => Approaches.steady chart
  case steadyComposing => exact fun _ => Explores.steady chart
  case steadyReading => exact fun _ _ => Explores.steady chart
  case steadySubmitted => exact fun _ _ => Explores.steady chart
  case load => exact fun _ w hw => loadSector_explores hw
  case exhausted => exact hhalt
  case start => exact fun _ w hw => hw
  case read =>
    rintro _ script w line rest ⟨m, hm, hlog⟩ _
    exact ⟨m, hm.of_fields rfl rfl rfl rfl rfl, hlog.survey rfl hm⟩
  case ended =>
    rintro _ script w ⟨m, hm, hlog⟩ _
    exact (hlog.survey rfl hm).surveyed
  case submit => exact fun _ _ w hw _ => hsay w _ hw rfl
  case reject =>
    intro _ script w hw _
    exact hsay _ _ (hsay _ _ (hweigh w _ _ w.mission.remaining hw) rfl) rfl
  case rejectHidden =>
    intro _ script w hw _
    exact hhalt _ (hsay _ _ (hweigh w _ _ w.mission.remaining hw) rfl)
  case accept => exact fun _ script w hw _ => hsay _ _ (hweigh w _ _ _ hw) rfl
  case acceptHidden => exact fun _ script w hw _ _ => hhalt w hw
  case run =>
    exact fun _ advance hadvance =>
      (Explores.endures hadvance).unlocked.turnwise
  case stop => exact fun _ w hw => hhalt w hw
  case overrun => exact fun _ _ w hw _ => hhalt w hw
  case next => exact fun _ w hw _ _ => hw

private theorem startSector_surveyed {w : World} (hw : Approaches chart w) :
    (startSector compose).Yields w (fun _ _ => False)
      fun _ w' => Chronicle (Surveyed chart) w'.console.log :=
  (conduct_explores chart).startSector (n := 0)
    (fun _ hw hlocked => (conduct_explores chart).compose hw hlocked) hw

theorem beginCampaign_surveyed {w : World} (hw : Approaches chart w) :
    beginCampaign.Yields w (fun _ _ => False)
      fun _ w' => Chronicle (Surveyed chart) w'.console.log := by
  refine beginCampaign_yields (Approaches.steady chart) ?_ ?_ ?_
    (fun w _ hw => hw) hw
  · exact fun _ _ _ w hquestion hw _ =>
      ⟨hw.1, surveyed_cons (isScriptPrompt_ask hquestion) rfl hw.2⟩
  · exact fun _ w hquestion hw _ =>
      surveyed_cons (isScriptPrompt_ask hquestion) rfl hw.2
  · exact fun w hw => startSector_surveyed hw

end Campaign

/-- Whatever is read and run, the ground with the rover taken away stays as it
was.  A sector is entered with its map and with the block that the rover covered
before.  So whenever a line of a script is asked for, the ground is the map of
the sector with that block in the place where the rover was set down. -/
theorem ground_is_conserved :
    (∀ (text : String) (w w' : World), w.mission.Landed →
      (Instruction.parse text).run (startSector compose) w = .ok () w' →
      w'.mission.Landed ∧ w'.mission.terrain = w.mission.terrain) ∧
    (∀ w w' : World, loadSector w = .ok () w' →
      w.atlas.Charts w'.mission ∧ w'.mission.level = w.mission.level ∧
        w'.mission.block = w.mission.block ∧
        w'.mission.rover =
          (w'.mission.grid.locate? Cell.rover).or w.mission.rover) ∧
    ∀ w : World, w.console.log = [] →
      ∀ flight ∈ [startSector compose, beginCampaign],
      ∀ e earlier, e :: earlier <:+ (flight.final w).console.log →
        e.isScriptPrompt = true →
        ∃ m, arrival? earlier = some m ∧ w.atlas.Charts m ∧
          e.mission.level = m.level ∧
          ∀ p, m.rover = some p → m.grid.Has p →
            e.mission.Landed ∧
            e.mission.terrain = m.grid.replace p m.block := by
  refine ⟨fun text w w' hw hrun => ?_,
    fun w w' hrun => ?_, fun w hlog flight hflight => ?_⟩
  · have hrule : Endures (startSector compose)
        (fun w' => w.mission.Conserves w'.mission ∧ True) fun _ _ => True :=
      endures_conserves (fun _ _ => True) (fun _ _ _ _ _ _ h => h)
        (fun _ _ _ _ h => h)
        (fun _ _ _ => trivial)
        fun w _ => startSector_never_returns w
    have hkept := (parse_yields hrule.turnwise (fun _ _ _ _ => trivial) text
      ⟨Mission.conserves_refl _, trivial⟩).ok hrun
    exact ⟨hkept.1.landed hw, hkept.1.terrain hw⟩
  · exact (loadSector_sets w).ok hrun
  · have hsurveyed : Chronicle (Surveyed w.atlas)
        (flight.final w).console.log := by
      have hw : Approaches w.atlas w := ⟨rfl, hlog ▸ chronicle_nil⟩
      simp only [List.mem_cons, List.not_mem_nil, or_false] at hflight
      rcases hflight with rfl | rfl
      · exact (startSector_surveyed hw).final_of_never
      · exact (beginCampaign_surveyed hw).final_of_never
    intro e earlier he hprompt
    obtain ⟨m, harrival, hcharts, hkept⟩ :=
      hsurveyed e earlier he (Or.inl hprompt)
    refine ⟨m, harrival, hcharts, hkept.level,
      fun p hp hhas => ⟨hkept.landed ⟨p, hp, hhas⟩, ?_⟩⟩
    rw [hkept.terrain ⟨p, hp, hhas⟩, Mission.terrain_of_rover hp]

def strip : World where
  mission := Mission.deploy {} [["[R]", "[S]", "[B]"]]
  console := { inputs := ["mve", "end"] }
  atlas := ⟨[(1, ⟨some 3, some 400, some 50, some [["[R]", "[S]", "[B]"]]⟩)]⟩

theorem ground_is_conserved_on_strip :
    (∃ w', (Instruction.parse "mve").run
        (startSector compose) strip = .ok () w' ∧
      w'.mission.rover = some ⟨0, 1⟩ ∧
      w'.mission.terrain = [["[X]", "[S]", "[B]"]]) ∧
    ∃ e earlier,
        e :: earlier <:+ ((startSector compose).final strip).console.log ∧
      e.isScriptPrompt = true ∧ e.mission.rover = some ⟨0, 1⟩ ∧
      e.mission.terrain = [["[X]", "[S]", "[B]"]] := by
  constructor
  · have hrun := ok_final (by decide +kernel : ((Instruction.parse "mve").run
        (startSector compose)).returns strip = true)
    refine ⟨_, hrun, by decide +kernel, ?_⟩
    exact (ground_is_conserved.1 _ _ _ ⟨⟨0, 0⟩, by decide +kernel⟩ hrun).2
  · obtain ⟨e, earlier, hlog⟩ := List.exists_cons_of_ne_nil
      (by decide +kernel : ((startSector compose).final strip).console.log ≠ [])
    have hprompt : ((startSector compose).final strip).console.log.head?.map
        (fun e => (e.isScriptPrompt, e.mission.rover)) =
        some (true, some ⟨0, 1⟩) := by
      decide +kernel
    have harrival : arrival?
        ((startSector compose).final strip).console.log.tail =
        some { strip.mission with
          executions := 3, memory := 400, remaining := 400, battery :=
            50 } := by
      decide +kernel
    have hsuffix : e :: earlier <:+
        ((startSector compose).final strip).console.log :=
      ⟨[], hlog.symm⟩
    simp only [hlog, List.head?_cons, List.tail_cons, Option.map_some,
      Option.some.injEq, Prod.mk.injEq] at hprompt harrival
    obtain ⟨m, hm, -, -, hground⟩ := ground_is_conserved.2.2 strip rfl _
      (List.mem_cons_self ..) e earlier hsuffix hprompt.1
    cases harrival.symm.trans hm
    exact ⟨e, earlier, hsuffix, hprompt.1, hprompt.2,
      (hground ⟨0, 0⟩ rfl (by decide)).2⟩

end Rover

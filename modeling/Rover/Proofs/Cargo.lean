import Rover.Proofs.Terrain

namespace Rover

open Flight

namespace Mission

structure Outset (m : Mission) : Prop where
  onboard : m.onboard = false
  block : m.block = Cell.path
  rover : m.rover = none ∨ m.Landed

end Mission

def Delivered (log : List Entry) : Prop :=
  ∃ e ∈ log, e.isDelivery = true

def Collected (log : List Entry) : Prop :=
  ∃ e ∈ log, e.isCollection = true

instance (log : List Entry) : Decidable (Delivered log) :=
  inferInstanceAs (Decidable (∃ e ∈ log, e.isDelivery = true))

instance (log : List Entry) : Decidable (Collected log) :=
  inferInstanceAs (Decidable (∃ e ∈ log, e.isCollection = true))

def Begun (m : Mission) (log : List Entry) : Prop :=
  (Delivered log ∧ m.AtBase) ∨ (¬Delivered log ∧ m.Outset)

def Accounted (e : Entry) (earlier : List Entry) : Prop :=
  (e.isArrival = true → Begun e.mission earlier) ∧
  (e.isDelivery = true → e.mission.AtBase ∧
    ∃ m, arrival? earlier = some m ∧ Begun m earlier ∧
      (m.onboard = true ∨ Collected (visit earlier)))

/-- A history in the sector that was entered with mission `m`. -/
structure Stowed (m : Mission) (onboard : Bool) (log : List Entry) : Prop where
  arrival : arrival? log = some m
  begun : Begun m log
  cargo : onboard = true → m.onboard = true ∨ Collected (visit log)
  accounts : Chronicle Accounted log

variable {m : Mission} {onboard : Bool} {e : Entry} {log : List Entry}

private theorem delivered_cons (h : e.isDelivery = false) :
    Delivered (e :: log) ↔ Delivered log := by
  simp [Delivered, h]

private theorem begun_cons (h : e.isDelivery = false) :
    Begun m (e :: log) ↔ Begun m log := by
  rw [Begun, Begun, delivered_cons h]

private theorem accounted_cons (harrival : e.isArrival = false)
    (hdelivery : e.isDelivery = false) (hlog : Chronicle Accounted log) :
    Chronicle Accounted (e :: log) := by
  refine chronicle_cons.2 ⟨⟨fun he => ?_, fun he => ?_⟩, hlog⟩
  · cases harrival.symm.trans he
  · cases hdelivery.symm.trans he

namespace Stowed

theorem cons (h : Stowed m onboard log) (harrival : e.isArrival = false)
    (hdelivery : e.isDelivery = false) : Stowed m onboard (e :: log) where
  arrival := (arrival?_cons harrival).trans h.arrival
  begun := (begun_cons hdelivery).2 h.begun
  cargo honboard := by
    rw [visit_cons harrival]
    refine (h.cargo honboard).imp id fun ⟨c, hc, hcollection⟩ => ?_
    exact ⟨c, List.mem_cons_of_mem e hc, hcollection⟩
  accounts := accounted_cons harrival hdelivery h.accounts

theorem collect (h : Stowed m onboard log) (m' : Mission) :
    Stowed m true (⟨.say .sampleCollected, m'⟩ :: log) :=
  { h.cons rfl rfl with
    cargo := fun _ => Or.inr ⟨_,
      by rw [visit_cons rfl]; exact List.mem_cons_self .., rfl⟩ }

end Stowed

def Carries (w : World) : Prop :=
  ∃ m, Stowed m w.mission.onboard w.console.log

structure Completed (w : World) : Prop where
  atBase : w.mission.AtBase
  delivered : Delivered w.console.log
  accounts : Chronicle Accounted w.console.log

structure Heading (m : Mission) (log : List Entry) : Prop where
  begun : Begun m log
  rover : ¬Delivered log → m.rover = none
  accounts : Chronicle Accounted log

theorem Carries.steady : Steady Carries := by
  rintro w w' h ⟨m, hm⟩
  refine ⟨m, ?_⟩
  rw [h.onboard]
  refine h.history (fun e log he hlog => ?_) hm
  exact hlog.cons (isArrival_of_background he) (isDelivery_of_background he)

theorem Completed.steady : Steady Completed := by
  intro w w' h hw
  refine ⟨⟨h.onboard.trans hw.atBase.1, h.ground.trans hw.atBase.2⟩, ?_, ?_⟩
  · exact h.history (fun e log he =>
        (delivered_cons (isDelivery_of_background he)).2) hw.delivered
  · refine h.history (fun e log he => ?_) hw.accounts
    exact accounted_cons (isArrival_of_background he)
      (isDelivery_of_background he)

theorem Heading.cons (h : Heading m log) (harrival : e.isArrival = false)
    (hdelivery : e.isDelivery = false) : Heading m (e :: log) where
  begun := (begun_cons hdelivery).2 h.begun
  rover hfirst := h.rover fun hlog => hfirst ((delivered_cons hdelivery).2 hlog)
  accounts := accounted_cons harrival hdelivery h.accounts

theorem Begun.interlude {w w' : World} (h : Interlude w w')
    (hw : Begun w.mission w.console.log) : Begun w'.mission w'.console.log := by
  have hlog : Begun w.mission w'.console.log :=
    h.history (fun e log he => (begun_cons (isDelivery_of_background he)).2) hw
  rw [h.mission]
  apply hlog.imp id
  rintro ⟨hfirst, houtset⟩
  exact ⟨hfirst, houtset.onboard, houtset.block, houtset.rover⟩

theorem Heading.steady : Steady fun w => Heading w.mission w.console.log := by
  intro w w' h hw
  have hlog : Heading w.mission w'.console.log := by
    apply h.history _ hw
    intro e log he hlog
    exact hlog.cons (isArrival_of_background he) (isDelivery_of_background he)
  exact ⟨hw.begun.interlude h,
    fun hfirst => h.rover.trans (hlog.rover hfirst), hlog.accounts⟩

theorem Carries.say {w : World} {message : Message} (hw : Carries w)
    (harrival : Entry.isArrival ⟨.say message, w.mission⟩ = false)
    (hdelivery : Entry.isDelivery ⟨.say message, w.mission⟩ = false) :
    Carries (w.note (.say message)) := by
  obtain ⟨m, hm⟩ := hw
  exact ⟨m, hm.cons harrival hdelivery⟩

theorem Carries.ask {w : World} {question : Prompt} (hw : Carries w) :
    Carries (w.note (.ask question)) := by
  obtain ⟨m, hm⟩ := hw
  exact ⟨m, hm.cons rfl rfl⟩

theorem Carries.accounts {w : World} (hw : Carries w) :
    Chronicle Accounted w.console.log := by
  obtain ⟨m, hm⟩ := hw
  exact hm.accounts

theorem Carries.deliver {w : World} (hw : Carries w)
    (hground : w.mission.ground = .base) (honboard : w.mission.onboard = true) :
    Completed (w.note (.say .sampleDelivered)) := by
  obtain ⟨m, hm⟩ := hw
  refine ⟨⟨honboard, hground⟩, ⟨_, List.mem_cons_self .., rfl⟩,
    chronicle_cons.2 ⟨?_, hm.accounts⟩⟩
  refine ⟨fun he => (by cases he),
    fun _ => ⟨⟨honboard, hground⟩, m, hm.arrival, hm.begun, ?_⟩⟩
  exact hm.cargo honboard

theorem Completed.heading {w : World} (hw : Completed w)
    (level remaining : Int) :
    Heading { w.mission with level, remaining }
      (⟨.ask .nextSector, w.mission⟩ :: w.console.log) := by
  have hdelivered : Delivered
      (⟨.ask .nextSector, w.mission⟩ :: w.console.log) :=
    (delivered_cons rfl).2 hw.delivered
  refine ⟨Or.inl ⟨hdelivered, hw.atBase⟩,
    fun hfirst => absurd hdelivered hfirst, ?_⟩
  exact accounted_cons rfl rfl hw.accounts

private theorem carries_endures {advance : Flight Unit}
    (hadvance : ∀ w, Heading w.mission w.console.log → advance.Yields w
      (fun _ _ => False) fun _ w => Chronicle Accounted w.console.log) :
    Endures advance Carries fun _ w => Chronicle Accounted w.console.log := by
  constructor
  case steady => exact Carries.steady
  case exit => exact fun w hw => hw.accounts
  case spend => exact fun w hw => hw
  case drive =>
    intro direction w hw
    exact drive_frame Carries.steady (fun w _ _ _ hw => hw)
      (fun w hw => Carries.say hw rfl rfl) hw (fun w hw => hw.accounts)
      fun w _ hw => hw.accounts
  case collect =>
    intro w hw
    refine collect_keeps Carries.steady hw ?_ (fun w hw _ => hw.accounts)
      fun w _ _ hw _ _ _ => hw.accounts
    rintro w p grid ⟨m, hm⟩ _ _ _
    exact ⟨m, hm.collect _⟩
  case deliver =>
    intro w hw hbase
    apply deliver_atBase Completed.steady hbase
    · intro w' h
      exact (Carries.steady _ w' h hw).deliver (h.ground.trans hbase.2)
        (h.onboard.trans hbase.1)
    · exact fun w hw _ _ => hw.accounts
    · exact fun w hw _ => accounted_cons rfl rfl hw.accounts
    · exact fun w line rest hw _ _ => hadvance _ (hw.heading _ _)
    · intro w line rest w' hw _ _ h
      refine h.history (fun e log he => ?_) (accounted_cons rfl rfl hw.accounts)
      exact accounted_cons (isArrival_of_background he)
        (isDelivery_of_background he)
  case explore =>
    intro w hw _
    refine explore_keeps Carries.steady hw (fun w _ _ hw _ _ => hw) ?_ ?_
      (fun w hw => hw.accounts) (fun w hw _ => hw.accounts)
      (fun w _ _ hw _ _ => hw.accounts) fun w hw _ => hw.accounts
    · exact fun w hw => Carries.say hw rfl rfl
    · exact fun w lot hw _ => Carries.say hw rfl rfl
  case recharge =>
    intro w hw _
    exact recharge_keeps Carries.steady hw (fun w hw => Carries.say hw rfl rfl)
      fun w hw _ => hw.accounts
  case display =>
    intro w hw
    exact showMap_yields (fun w' h => Carries.steady _ _ h hw) fun _ w' h =>
      (Carries.steady _ _ h hw).accounts
  case condition => exact fun _ w _ hw _ => hw.accounts

theorem Heading.land {w : World} (hw : Heading w.mission w.console.log)
    (executions memory battery : Int) (map : Grid) :
    Begun (w.land executions memory battery map).mission w.console.log := by
  rcases hw.begun with ⟨hdelivered, hbase⟩ | ⟨hfirst, houtset⟩
  · exact Or.inl ⟨hdelivered, hbase⟩
  · refine Or.inr ⟨hfirst, houtset.onboard, houtset.block, ?_⟩
    have hrover : (w.land executions memory battery map).mission.rover =
        (map.locate? Cell.rover).or w.mission.rover := rfl
    rw [hw.rover hfirst, Option.or_none] at hrover
    cases hmark : map.locate? Cell.rover with
    | none => exact Or.inl (hrover.trans hmark)
    | some p => exact Or.inr ⟨p, hrover.trans hmark, Grid.has_of_locate? hmark⟩

private theorem loadSector_carries {w : World}
    (hw : Heading w.mission w.console.log) :
    loadSector.Yields w
      (fun _ w' => Carries
          (w'.note (.say (.controlGranted w'.mission.operatorName))))
      fun _ w' => Chronicle Accounted w'.console.log := by
  refine loadSector_yields (fun _ => hw.accounts)
    (fun _ _ _ _ _ _ => hw.accounts) ?_
  intro sector executions memory battery map _ _ _ _ _
  have hlog : ∀ w', Interlude (w.land executions memory battery map) w' →
      Chronicle Accounted w'.console.log := by
    intro w' h
    apply h.history _ hw.accounts
    intro e log he
    exact accounted_cons (isArrival_of_background he)
      (isDelivery_of_background he)
  refine showMap_yields (fun w' h => ?_) fun _ => hlog
  have hbegun := (hw.land executions memory battery map).interlude h
  refine ⟨w'.mission, arrival?_arrival rfl,
    (begun_cons rfl).2 hbegun, Or.inl, ?_⟩
  exact chronicle_cons.2 ⟨⟨fun _ => hbegun, fun he => by cases he⟩, hlog w' h⟩

private theorem conduct_carries :
    Conduct (fun _ w => Heading w.mission w.console.log) (fun _ => Carries)
      (fun _ => Carries)
      (fun _ _ => Carries) (fun _ _ => Carries)
      fun _ w => Chronicle Accounted w.console.log := by
  constructor
  case steadyEntering => exact fun _ => Heading.steady
  case steadyComposing => exact fun _ => Carries.steady
  case steadyReading => exact fun _ _ => Carries.steady
  case steadySubmitted => exact fun _ _ => Carries.steady
  case load => exact fun _ w hw => loadSector_carries hw
  case exhausted => exact fun w hw => hw.accounts
  case start => exact fun _ w hw => hw
  case read => exact fun _ _ w _ _ hw _ => Carries.ask hw
  case ended => exact fun _ _ w hw _ => hw.ask.accounts
  case submit => exact fun _ _ w hw _ => hw.say rfl rfl
  case reject =>
    exact fun _ _ w hw _ => Carries.say (Carries.say hw rfl rfl) rfl rfl
  case rejectHidden =>
    exact fun _ _ w hw _ => accounted_cons rfl rfl hw.accounts
  case accept => exact fun _ _ w hw _ => Carries.say hw rfl rfl
  case acceptHidden => exact fun _ _ w hw _ _ => hw.accounts
  case run =>
    exact fun _ advance hadvance => (carries_endures hadvance).unlocked.turnwise
  case stop => exact fun _ w hw => hw.accounts
  case overrun => exact fun _ _ w hw _ => hw.accounts
  case next => exact fun _ w hw _ _ => hw

private theorem beginCampaign_accounted {w : World}
    (hw : Heading w.mission w.console.log) :
    beginCampaign.Yields w (fun _ _ => False)
      fun _ w' => Chronicle Accounted w'.console.log := by
  apply beginCampaign_yields Heading.steady _ _ _ _ hw
  · exact fun _ _ _ w _ hw _ => hw.cons rfl rfl
  · exact fun _ w _ hw _ => accounted_cons rfl rfl hw.accounts
  · intro w hw
    exact conduct_carries.startSector (n := 0)
      (fun w hw => conduct_carries.compose hw) hw
  · intro w name hw
    refine ⟨hw.begun.imp id
      fun ⟨hfirst, houtset⟩ => ⟨hfirst, ?_⟩, hw.rover, hw.accounts⟩
    exact ⟨houtset.onboard, houtset.block, houtset.rover⟩

def Grid.IsBase (g : Grid) (p : Position) : Prop :=
  g.Has p ∧ Cell.terrain (Ansi.strip (g.cellAt p)) = .base

theorem Mission.Conserves.base_of_outset {m' : Mission} (h : m.Conserves m')
    (houtset : m.Outset) (hground : m'.ground = .base) :
    ∃ p, m'.rover = some p ∧ m.grid.IsBase p := by
  have hmoved : m'.block ≠ m.block := by
    intro hblock
    rw [Mission.ground, hblock, houtset.block] at hground
    revert hground
    decide +kernel
  rcases houtset.rover with hlost | hlanded
  · exact absurd (h.lost hlost).2 hmoved
  · obtain ⟨q, hq, hhasq⟩ := hlanded
    obtain ⟨p, hp, hhasp⟩ := h.landed ⟨q, hq, hhasq⟩
    have hterrain := h.terrain ⟨q, hq, hhasq⟩
    rw [Mission.terrain_of_rover hp, Mission.terrain_of_rover hq] at hterrain
    have hhas : m.grid.Has p := by
      rw [← Grid.has_replace, ← hterrain, Grid.has_replace]
      exact hhasp
    have hcell := congrArg (Grid.cellAt · p) hterrain
    simp only [Grid.cellAt_replace_self hhasp] at hcell
    have hne : q ≠ p := by
      intro heq
      subst heq
      rw [Grid.cellAt_replace_self hhas] at hcell
      exact hmoved hcell
    rw [Grid.cellAt_replace_of_ne hhasq hhas hne] at hcell
    exact ⟨p, hp, hhas, by rw [← hcell]; exact hground⟩

theorem deliver_command_delivers {w : World} (hw : w.mission.AtBase) :
    ((Instruction.command .deliver).run (startSector compose)).Yields w
      (fun _ _ => False)
      fun _ w' => ∃ entries, w'.console.log = entries ++ w.console.log ∧
        Delivered entries := by
  let announced : List Entry → Prop := fun log =>
    ∃ entries, log = entries ++ w.console.log ∧ Delivered entries
  have hkeep : ∀ e log, announced log → announced (e :: log) := by
    rintro e log ⟨entries, rfl, d, hd, hdelivery⟩
    exact ⟨e :: entries, rfl, d, List.mem_cons_of_mem e hd, hdelivery⟩
  have hsteady := history_steady fun e log _ => hkeep e log
  unfold Instruction.run Command.run
  simp only [yields_bind, yields_update]
  have hspent : (w.alter fun m =>
      { m with battery := m.battery - m.moveCost }).mission.AtBase := hw
  apply deliver_atBase hsteady hspent
  · intro w' h
    obtain ⟨entries, hlog, -⟩ := h.log
    refine ⟨⟨.say .sampleDelivered, w'.mission⟩ :: entries, ?_, _,
      List.mem_cons_self .., rfl⟩
    rw [World.note_log, hlog]
    rfl
  · exact fun w hw _ _ => hw
  · exact fun w hw _ => hkeep _ _ hw
  · intro w' line rest hw' _ _
    exact (startSector_history hkeep (hkeep _ _ hw')).of_never
  · exact fun w line rest w' hw _ _ h => hsteady _ _ h (hkeep _ _ hw)

/-- In the first sector a sample is delivered only after it was collected there,
on a base of the map.  Every later sector is entered as if a delivery were due,
with a sample on board and over a base, and there `drp` delivers at once. -/
theorem only_first_sector_is_isolated (console : Console) (atlas : Atlas)
    (hlog : console.log = []) :
    (∀ e earlier,
      e :: earlier <:+ (beginCampaign.final { console, atlas }).console.log →
      e.isDelivery = true → e.mission.AtBase ∧
        ∃ m, arrival? earlier = some m ∧ atlas.Charts m ∧
          e.mission.level = m.level ∧
          (¬Delivered earlier → Collected (visit earlier) ∧
            (∃ p, e.mission.rover = some p ∧ m.grid.IsBase p) ∧
            ((∀ p, m.grid.IsBase p → m.base = some p) →
              e.mission.rover = e.mission.base))) ∧
    (∀ e earlier,
      e :: earlier <:+ (beginCampaign.final { console, atlas }).console.log →
      e.isArrival = true → (e.mission.AtBase ↔ Delivered earlier)) ∧
    ∀ w : World, w.mission.AtBase → ∃ entries,
      (((Instruction.parse "drp").run
          (startSector compose)).final w).console.log =
        entries ++ w.console.log ∧ Delivered entries := by
  have hnone : ¬Delivered console.log := by
    rw [hlog]
    rintro ⟨e, he, -⟩
    cases he
  have hnil : ∀ {rule : Entry → List Entry → Prop},
      Chronicle rule console.log := by
    intro rule
    rw [hlog]
    exact chronicle_nil
  have haccounted : Chronicle Accounted
      (beginCampaign.final { console, atlas }).console.log := by
    have houtset : Mission.Outset {} := ⟨rfl, rfl, Or.inl rfl⟩
    have hheading : Heading {} console.log :=
      ⟨Or.inr ⟨hnone, houtset⟩, fun _ => rfl, hnil⟩
    exact (beginCampaign_accounted
        (w := { console, atlas }) hheading).final_of_never
  have hsurveyed : Chronicle (Surveyed atlas)
      (beginCampaign.final { console, atlas }).console.log :=
    (beginCampaign_surveyed (w := { console, atlas })
        ⟨rfl, hnil⟩).final_of_never
  refine ⟨fun e earlier he hdelivery => ?_,
    fun e earlier he harrival => ?_, fun w hw => ?_⟩
  · obtain ⟨hbase, m, hm, hbegun, hcargo⟩ :=
      (haccounted e earlier he).2 hdelivery
    obtain ⟨m', hm', hcharts, hkept⟩ :=
      hsurveyed e earlier he (Or.inr hdelivery)
    cases hm.symm.trans hm'
    refine ⟨hbase, m, hm, hcharts, hkept.level, fun hfirst => ?_⟩
    have houtset : m.Outset := (hbegun.resolve_left fun h => hfirst h.1).2
    obtain ⟨p, hp, hcell⟩ := hkept.base_of_outset houtset hbase.2
    refine ⟨hcargo.resolve_left ?_, ⟨p, hp, hcell⟩, fun hall => ?_⟩
    · rw [houtset.onboard]
      exact Bool.false_ne_true
    · rw [hp, hkept.base, hall p hcell]
  · rcases (haccounted e earlier he).1 harrival with
      ⟨hdelivered, hbase⟩ | ⟨hfirst, houtset⟩
    · exact ⟨fun _ => hdelivered, fun _ => hbase⟩
    · refine ⟨fun hbase => ?_, fun hdelivered => absurd hdelivered hfirst⟩
      cases houtset.onboard.symm.trans hbase.1
  · have hparse : Instruction.parse "drp" = .command .deliver := by
      rw [Instruction.parse, Instruction.ofChars_eq]
      rfl
    rw [hparse]
    exact (deliver_command_delivers hw).final_of_never

def twinSectors : Atlas :=
  ⟨[1, 2].map fun level =>
    (level, ⟨some 5, some 800, some 100, some [["[R]", "[S]", "[B]"]]⟩)⟩

def hastyPlayer : Console :=
  { inputs := ["Ada", "n", "mve", "clt", "mve", "drp", "end", "y",
      "drp", "end", "n"] }

theorem second_sector_completed_at_once :
    ∃ e earlier,
      e :: earlier <:+
        (beginCampaign.final
            { console := hastyPlayer, atlas := twinSectors }).console.log ∧
      e.isDelivery = true ∧ e.mission.AtBase ∧ e.mission.level = 2 ∧
      Delivered earlier ∧
      ¬Collected (visit earlier) ∧ e.mission.rover = some ⟨0, 0⟩ ∧
      e.mission.base = some ⟨0, 2⟩ := by
  have hlog := only_first_sector_is_isolated hastyPlayer twinSectors rfl
  have hlatest : ((beginCampaign.final
        { console := hastyPlayer, atlas := twinSectors }).console.log.dropWhile
        (!·.isDelivery)).head?.map (fun e =>
        (e.isDelivery, e.mission.level, e.mission.rover, e.mission.base)) =
      some (true, 2, some ⟨0, 0⟩, some ⟨0, 2⟩) := by
    decide +kernel
  have hearlier : Delivered ((beginCampaign.final
        { console := hastyPlayer, atlas := twinSectors }).console.log.dropWhile
          (!·.isDelivery)).tail ∧
      ¬Collected (visit ((beginCampaign.final
        { console := hastyPlayer, atlas := twinSectors }).console.log.dropWhile
          (!·.isDelivery)).tail) := by
    decide +kernel
  generalize (beginCampaign.final
    { console := hastyPlayer, atlas := twinSectors }).console.log = log at *
  cases hdrop : log.dropWhile (!·.isDelivery) with
  | nil => simp [hdrop] at hlatest
  | cons e earlier =>
    have hsuffix : e :: earlier <:+ log := hdrop ▸ List.dropWhile_suffix _
    simp only [hdrop, List.head?_cons, Option.map_some, Option.some.injEq,
      Prod.mk.injEq] at hlatest
    simp only [hdrop, List.tail_cons] at hearlier
    obtain ⟨hdelivery, hlevel, hrover, hbase⟩ := hlatest
    have hat := (hlog.1 e earlier hsuffix hdelivery).1
    exact ⟨e, earlier, hsuffix, hdelivery, hat, hlevel, hearlier.1, hearlier.2,
      hrover, hbase⟩

end Rover

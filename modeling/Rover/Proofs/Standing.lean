import Rover.Proofs.Depletion
import Rover.Proofs.Foresight
import Rover.Proofs.Tandem
import Rover.Proofs.Unrolling

namespace Rover

open Flight Text

def Lots (draws : List Nat) (w : World) : Prop :=
  w.console.draws = draws

private theorem coupling_lots (draws : List Nat) :
    Coupling True (fun _ => True) fun w w' => w' = w ∧ Lots draws w := by
  apply Coupling.ofInvariant
  case hcount =>
    intro w hw
    unfold countDown
    split
    · exact hw
    · exact hw
    · exact hw
  all_goals intros; assumption

def Flight.Lotless {α : Type} (x : Flight α) : Prop :=
  ∀ w, x.Yields w (fun _ => Lots w.console.draws) fun _ => Lots w.console.draws

private theorem lotless_then_showMap {x : Flight Unit}
    (hx : ∀ draws, Coupled (fun w w' => w' = w ∧ Lots draws w) Eq x x) :
    Lotless (do x; showMap) :=
  fun w => Coupled.keeps (coupled_seq (hx w.console.draws) fun _ =>
    coupled_showMap (coupling_lots w.console.draws)) rfl

def World.take (w : World) (n : Nat) : World :=
  { w.note (.draw n) with console.draws := w.console.draws.tail }

private theorem draw_eq (n : Nat) (w : World) :
    draw n w = .ok (w.console.draws.headD 0 % n) (w.take n) := by
  obtain ⟨m, ⟨inputs, draws, keys, platform, unlockIn, log⟩, atlas⟩ := w
  cases draws with
  | nil =>
    change EStateM.Result.ok 0 _ = EStateM.Result.ok (0 % n) _
    rw [Nat.zero_mod]
    rfl
  | cons lot rest => rfl

section Uncharted

variable {w : World} {p : Position}

/-- The world in which a lot decides about the rover at `p`: it is back in its
cell. -/
def World.exposed (w : World) (p : Position) : World :=
  w.alter fun m => { m with grid := m.grid.replace p Cell.rover }

private theorem explore_exposed (hp : w.mission.rover = some p)
    (hhas : w.mission.grid.Has p) :
    explore w = (do
      if (← draw 2) = 0 then flare
        else interfere (5 + (← draw 16))) (w.exposed p) := by
  have hposition : position w = .ok p w := by
    rw [position, mission_bind, hp]
    rfl
  have hput : putCell p Cell.rover w = .ok () (w.exposed p) := by
    rw [putCell, mission_bind, Grid.put_of_has hhas]
    rfl
  rw [explore, bind_of_ok hposition, bind_of_ok hput]

private theorem explore_flare (hp : w.mission.rover = some p)
    (hhas : w.mission.grid.Has p) (hlot : w.console.draws.headD 0 % 2 = 0) :
    explore w = flare ((w.exposed p).take 2) := by
  rw [explore_exposed hp hhas, bind_of_ok (draw_eq 2 _)]
  exact congrFun (if_pos hlot) _

private theorem explore_interfere (hp : w.mission.rover = some p)
    (hhas : w.mission.grid.Has p) (hlot : w.console.draws.headD 0 % 2 ≠ 0) :
    explore w = interfere (5 + (w.console.draws.getD 1 0 % 16 : Nat))
      (((w.exposed p).take 2).take 16) := by
  rw [explore_exposed hp hhas, bind_of_ok (draw_eq 2 _)]
  refine (congrFun (if_neg hlot) _).trans ?_
  have hnext : ((w.exposed p).take 2).console.draws.headD 0 =
      w.console.draws.getD 1 0 := by
    change w.console.draws.tail.headD 0 = _
    rcases w.console.draws with _ | ⟨_, _ | ⟨_, _⟩⟩
    · rfl
    · rfl
    · rfl
  rw [bind_of_ok (draw_eq 16 _), hnext]

end Uncharted

namespace Numeral

private theorem isShowable_of_between {a b n : Int} (ha : isShowable a = true)
    (hb : isShowable b = true) (hlow : min a b ≤ n) (hhigh : n ≤ max a b) :
    isShowable n = true := by
  rw [isShowable, decide_eq_true_eq] at ha hb ⊢
  omega

end Numeral

namespace Mission

variable {m : Mission}

theorem showable_battery (h : m.isShowable = true) :
    Numeral.isShowable m.battery = true := by
  simp_all [isShowable]

theorem isShowable_with_battery (h : m.isShowable = true) {battery : Int}
    (hbattery : Numeral.isShowable battery = true) :
    ({ m with battery } : Mission).isShowable = true := by
  simp_all [isShowable]

variable {offer : Int} (hoffer : 0 ≤ offer ∧ offer ≤ 100)
include hoffer

theorem showable_intake (h : m.isShowable = true) :
    Numeral.isShowable (m.intake offer) = true := by
  have hoffered : Numeral.isShowable offer = true :=
    Numeral.isShowable_of_lt (by omega)
  have hsurplus : Numeral.isShowable (-m.battery) = true := by
    have hbattery := m.showable_battery h
    rwa [Numeral.isShowable, ← Int.natAbs_neg] at hbattery
  apply Numeral.isShowable_of_between hsurplus hoffered
  · rw [intake, fullCharge]
    omega
  · rw [intake]
    omega

theorem showable_charged (h : m.isShowable = true) :
    Numeral.isShowable (m.battery + m.intake offer) = true := by
  have hfull : Numeral.isShowable fullCharge = true :=
    Numeral.isShowable_of_lt (by decide)
  apply Numeral.isShowable_of_between (m.showable_battery h) hfull
  · rw [intake, fullCharge]
    omega
  · rw [intake, fullCharge]
    omega

end Mission

/-- The mission is the given one, but for the lock of the keyboard, and no line
was taken. -/
structure Resembles (w : World) (m : Mission) (w' : World) : Prop where
  mission : w'.mission = { m with locked := w'.mission.locked }
  inputs : w'.console.inputs = w.console.inputs

structure Becomes (w : World) (m : Mission) (lots : Nat) (w' : World) : Prop
    extends Resembles w m w' where
  draws : w'.console.draws = w.console.draws.drop lots

section Outcomes

variable {w w₁ w₂ : World} {m : Mission} {lots : Nat}
  {post : Unit → World → Prop}
  {halted : Halt → World → Prop} {x : Flight Unit}

theorem Resembles.of_interlude (h : Interlude w₁ w₂) (hmission : w₁.mission = m)
    (hinputs : w₁.console.inputs = w.console.inputs) : Resembles w m w₂ :=
  ⟨hmission ▸ h.mission, h.inputs.trans hinputs⟩

theorem Interlude.isShowable (h : Interlude w₁ w₂) :
    w₂.mission.isShowable = w₁.mission.isShowable := by
  rw [h.mission]
  rfl

private theorem showMap_shows (hshow : w₁.mission.isShowable = true)
    (hpost : ∀ w', Interlude w₁ w' → post () w') :
    showMap.Yields w₁ post halted :=
  showMap_yields hpost fun hhidden => by cases hshow.symm.trans hhidden

private theorem returns_becomes
    (hx : x.Yields w₁ (fun _ => Resembles w m) fun _ _ => False)
    (hlots : Lotless x)
    (hdraws : w₁.console.draws = w.console.draws.drop lots) :
    ∃ w', x w₁ = .ok () w' ∧ Becomes w m lots w' := by
  obtain ⟨_, w', hrun, hw'⟩ := hx.exists_ok
  exact ⟨w', hrun, ⟨hw', ((hlots w₁).ok hrun).trans hdraws⟩⟩

private theorem exits_becomes
    (hx : x.Yields w₁ (fun _ _ => False)
      fun h w' => h = .exit ∧ Resembles w m w')
    (hlots : Lotless x)
    (hdraws : w₁.console.draws = w.console.draws.drop lots) :
    ∃ w', x w₁ = .error .exit w' ∧ Becomes w m lots w' := by
  obtain ⟨_, w', hrun, rfl, hw'⟩ := hx.exists_error
  exact ⟨w', hrun, ⟨hw', ((hlots w₁).error hrun).trans hdraws⟩⟩

end Outcomes

private theorem perform_unread
    {text : String} (hbranch : branchLine? text.toList = none)
    (hloop : loopLine? text.toList = none)
    (hcommand : text ∉ Command.all.map Command.word) :
    perform text = settle := by
  have hword : Command.ofWord? text = none := by
    refine List.find?_eq_none.2 fun c hc heq => hcommand ?_
    exact List.mem_map.2 ⟨c, hc, beq_iff_eq.1 heq⟩
  have hparse : Instruction.parse text = .unknown := by
    rw [Instruction.parse, Instruction.ofChars_eq, hbranch]
    dsimp only
    rw [hloop]
    dsimp only
    rw [String.ofList_toList, hword]
  rw [perform, hparse, Instruction.run]

section Grounds

variable {w : World} {p : Position}

private theorem settle_eq (w : World) :
    settle w = (do encounter w.mission.ground; showMap) w :=
  mission_bind _

private theorem settle_plain (h : w.mission.ground.isPlain = true) :
    Becomes w w.mission 0 (settle.final w) ∧
      (w.mission.isShowable = true → settle.returns w = true) := by
  have hlots : Lotless (do encounter w.mission.ground; showMap) := by
    apply lotless_then_showMap
    intro draws
    cases hground : w.mission.ground with
    | uncharted =>
      rw [hground] at h
      cases h
    | charger => exact coupled_recharge (coupling_lots draws)
    | obstacle => exact coupled_crash (coupling_lots draws)
    | _ => exact coupled_pure rfl
  have hdraws := hlots w
  have hyields : (do encounter w.mission.ground; showMap).Yields w
      (fun _ => Resembles w w.mission) fun _ w' =>
      w.mission.isShowable = false ∧ Resembles w w.mission w' := by
    rw [yields_bind]
    refine encounter_plain h
      (showMap_yields (fun w' h' => ?_) fun hhidden w' h' => ⟨hhidden, ?_⟩)
    · exact .of_interlude h' rfl rfl
    · exact .of_interlude h' rfl rfl
  rw [Flight.final, Flight.returns, settle_eq]
  cases hrun : (do encounter w.mission.ground; showMap : Flight Unit) w with
  | ok _ w' => exact ⟨⟨hyields.ok hrun, hdraws.ok hrun⟩, fun _ => rfl⟩
  | error _ w' =>
    obtain ⟨hhidden, hw'⟩ := hyields.error hrun
    exact ⟨⟨hw', hdraws.error hrun⟩,
      fun hshow => by cases hshow.symm.trans hhidden⟩

private theorem settle_charger (hshow : w.mission.isShowable = true)
    (h : w.mission.ground = .charger) :
    ∃ w', settle w = .ok () w' ∧
      Becomes w { w.mission with
        battery := w.mission.battery + w.mission.intake 25 } 0 w' := by
  have hoffer : (0 : Int) ≤ 25 ∧ (25 : Int) ≤ 100 := by decide
  rw [settle_eq, h]
  refine returns_becomes ?_ (lotless_then_showMap fun draws =>
    coupled_recharge (coupling_lots draws)) rfl
  rw [yields_bind]
  apply recharge_yields
  · intro w₁ h₁
    apply showMap_shows
    · rw [h₁.isShowable]
      exact Mission.isShowable_with_battery hshow
        (Mission.showable_charged hoffer hshow)
    · exact fun w' h' => .of_interlude (h₁.trans h') rfl rfl
  · intro hhidden
    cases hhidden.symm.trans (Mission.showable_intake hoffer hshow)

private theorem settle_obstacle (h : w.mission.ground = .obstacle) :
    ∃ w', settle w = .error .exit w' ∧ Becomes w w.mission 0 w' := by
  rw [settle_eq, h]
  refine exits_becomes ?_ (lotless_then_showMap fun draws =>
    coupled_crash (coupling_lots draws)) rfl
  rw [yields_bind]
  exact closing_crash.yields fun w' h' => ⟨rfl, .of_interlude h' rfl rfl⟩

section Uncharted

variable (hp : w.mission.rover = some p) (hhas : w.mission.grid.Has p)
include hp hhas

private theorem settle_flare
    (hshow : w.mission.isShowable = true) (h : w.mission.ground = .uncharted)
    (hlot : w.console.draws.headD 0 % 2 = 0) :
    ∃ w', settle w = .ok () w' ∧
      Becomes w { w.mission with
        grid := w.mission.grid.replace p Cell.rover
        battery := w.mission.battery + w.mission.intake 15 } 1 w' := by
  have hoffer : (0 : Int) ≤ 15 ∧ (15 : Int) ≤ 100 := by decide
  have hrun : settle w = (do flare; showMap) ((w.exposed p).take 2) := by
    rw [settle_eq, h]
    exact bind_congr_world (explore_flare hp hhas hlot)
  rw [hrun]
  refine returns_becomes ?_ (lotless_then_showMap fun draws =>
    coupled_flare (coupling_lots draws)) ?_
  · rw [yields_bind]
    refine flare_yields (fun w₁ h₁ => ?_) fun hhidden => ?_
    · apply showMap_shows
      · rw [h₁.isShowable]
        exact Mission.isShowable_with_battery hshow
          (Mission.showable_charged hoffer hshow)
      · exact fun w' h' => .of_interlude (h₁.trans h') rfl rfl
    · cases hhidden.symm.trans (Mission.showable_intake hoffer hshow)
  · exact List.drop_one.symm

private theorem settle_interfere (hshow : w.mission.isShowable = true)
    (h : w.mission.ground = .uncharted)
    (hlot : w.console.draws.headD 0 % 2 ≠ 0) :
    let drain : Int := 5 + (w.console.draws.getD 1 0 % 16 : Nat)
    (drain < w.mission.battery → ∃ w', settle w = .ok () w' ∧
      Becomes w { w.mission with
        grid := w.mission.grid.replace p Cell.rover
        battery := w.mission.battery - drain } 2 w') ∧
    (w.mission.battery ≤ drain → ∃ w', settle w = .error .exit w' ∧
      Becomes w { w.mission with
        grid := w.mission.grid.replace p Cell.rover
        battery := 0 } 2 w') := by
  intro drain
  have hbounds : 5 ≤ drain ∧ drain ≤ 20 := by omega
  have hdrain : Numeral.isShowable drain = true :=
    Numeral.isShowable_of_lt (by omega)
  have hrun : settle w =
      (do interfere drain; showMap) (((w.exposed p).take 2).take 16) := by
    rw [settle_eq, h]
    exact bind_congr_world (explore_interfere hp hhas hlot)
  have hlots : Lotless (do interfere drain; showMap) :=
    lotless_then_showMap fun draws =>
      coupled_interfere (coupling_lots draws) drain
  have hdraws : (((w.exposed p).take 2).take 16).console.draws =
      w.console.draws.drop 2 := by
    change w.console.draws.tail.tail = _
    rw [← List.drop_one, ← List.drop_one, List.drop_drop]
  have hbattery : (((w.exposed p).take 2).take 16).mission.battery =
      w.mission.battery := rfl
  rw [hrun]
  refine ⟨fun hleft => returns_becomes ?_ hlots hdraws,
    fun hempty => exits_becomes ?_ hlots hdraws⟩
  · rw [yields_bind]
    refine interfere_yields hdrain (fun _ w₁ h₁ => ?_)
      fun hempty => absurd hleft (Int.not_lt.2 hempty)
    rw [hbattery, Int.max_eq_right (by omega)] at h₁
    apply showMap_shows
    · have hzero : Numeral.isShowable 0 = true :=
        Numeral.isShowable_of_lt (by decide)
      have hrest : Numeral.isShowable (w.mission.battery - drain) = true :=
        Numeral.isShowable_of_between (Mission.showable_battery hshow) hzero
          (by omega) (by omega)
      rw [h₁.isShowable]
      exact Mission.isShowable_with_battery hshow hrest
    · exact fun w' h' => .of_interlude (h₁.trans h') rfl rfl
  · rw [yields_bind]
    refine interfere_yields hdrain
      (fun hleft => absurd hleft (Int.not_lt.2 hempty)) fun _ w' h' => ?_
    rw [hbattery, Int.max_eq_left (by omega)] at h'
    exact ⟨rfl, .of_interlude h' rfl rfl⟩

end Uncharted

end Grounds

/-- A line that is not understood costs nothing and does nothing of its own:
rover, block and cargo stay as they are, however it ends.  On plain ground
everything else does, too.  Otherwise the ground acts as after a command: it
charges the rover, tries its luck or wrecks it.  The line returns as long as the
numbers on the display can be shown. -/
theorem unread_line_leaves_the_rover_to_the_ground
    (text : String) (w : World) (hbranch : branchLine? text.toList = none)
    (hloop : loopLine? text.toList = none)
    (hcommand : text ∉ Command.all.map Command.word) :
    Abides w ((perform text).final w) ∧
    (w.mission.ground.isPlain = true →
      Becomes w w.mission 0 ((perform text).final w) ∧
      (w.mission.isShowable = true → (perform text).returns w = true)) ∧
    (w.mission.ground = .obstacle →
      ∃ w', perform text w = .error .exit w' ∧ Becomes w w.mission 0 w') ∧
    (w.mission.isShowable = true → w.mission.ground = .charger →
      ∃ w', perform text w = .ok () w' ∧
        Becomes w { w.mission with
          battery := w.mission.battery + w.mission.intake 25 } 0 w') ∧
    (w.mission.isShowable = true → w.mission.ground = .uncharted →
      ∀ p, w.mission.rover = some p → w.mission.grid.Has p →
        let outcome := fun battery =>
          { w.mission with
            grid := w.mission.grid.replace p Cell.rover, battery := battery }
        let drain : Int := 5 + (w.console.draws.getD 1 0 % 16 : Nat)
        (w.console.draws.headD 0 % 2 = 0 → ∃ w', perform text w = .ok () w' ∧
          Becomes w (outcome (w.mission.battery + w.mission.intake 15)) 1 w') ∧
        (w.console.draws.headD 0 % 2 ≠ 0 →
          (drain < w.mission.battery → ∃ w', perform text w = .ok () w' ∧
            Becomes w (outcome (w.mission.battery - drain)) 2 w') ∧
          (w.mission.battery ≤ drain → ∃ w', perform text w = .error .exit w' ∧
            Becomes w (outcome 0) 2 w'))) := by
  rw [perform_unread hbranch hloop hcommand]
  refine ⟨(settle_abides w).final_of_both, settle_plain, settle_obstacle,
    settle_charger, fun hshow hground p hp hhas => ⟨?_, ?_⟩⟩
  · exact settle_flare hp hhas hshow hground
  · exact settle_interfere hp hhas hshow hground

theorem unread_line_leaves_the_rover_to_the_ground_at_chargingStation :
    (∃ w', perform "charge!" chargingStation = .ok () w' ∧
      Becomes chargingStation
        { chargingStation.mission with battery := 35 } 0 w') ∧
    (perform "charge!").returns ledge = true ∧
    Becomes ledge ledge.mission 0 ((perform "charge!").final ledge) := by
  obtain ⟨-, -, -, hcharger, -⟩ := unread_line_leaves_the_rover_to_the_ground
    "charge!" chargingStation rfl rfl (by decide)
  obtain ⟨-, hplain, -⟩ := unread_line_leaves_the_rover_to_the_ground "charge!"
    ledge rfl rfl (by decide)
  obtain ⟨hbecomes, hreturns⟩ := hplain rfl
  exact ⟨hcharger (by decide +kernel) rfl,
    hreturns (by decide +kernel), hbecomes⟩

theorem nonsense_charges_the_battery :
    branchLine? "charge!".toList = none ∧ loopLine? "charge!".toList = none ∧
    "charge!" ∉ Command.all.map Command.word ∧
    ((perform "charge!").final chargingStation).mission.battery ≠
      chargingStation.mission.battery :=
  ⟨rfl, rfl, by decide, by decide +kernel⟩

end Rover

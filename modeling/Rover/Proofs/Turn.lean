import Rover.Proofs.Frame
import Rover.Proofs.Terrain

/-!
What a turn does.  It is a command, or none if the word was not understood, and
then whatever the ground does.  From a rover on a cell, every turn that returns
leaves the ground as it is and the rover on a cell that is no obstacle; the rest
is told cell by cell, entry by entry.
-/

namespace Rover

open Flight

section Ground

variable {m m' : Mission} {p : Position}

theorem Mission.block_eq (hp : m.rover = some p) (hhas : m.grid.Has p) :
    m.block = m.terrain.cellAt p := by
  rw [Mission.terrain_of_rover hp, Grid.cellAt_replace_self hhas]

theorem Mission.grid_eq (hp : m.rover = some p) (hhas : m.grid.Has p) :
    m.grid = m.terrain.replace p (m.grid.cellAt p) := by
  rw [Mission.terrain_of_rover hp, Grid.replace_replace,
    Grid.replace_cellAt hhas]

def Mission.groundAt (m : Mission) (p : Position) : Terrain :=
  Cell.terrain (Ansi.strip (m.terrain.cellAt p))

theorem Mission.ground_eq (hp : m.rover = some p) (hhas : m.grid.Has p) :
    m.ground = m.groundAt p := by
  rw [Mission.ground, Mission.groundAt, ← Mission.block_eq hp hhas]

theorem Mission.Conserves.groundAt (h : m.Conserves m') (hm : m.Landed)
    (p : Position) :
    m'.groundAt p = m.groundAt p := by
  rw [Mission.groundAt, Mission.groundAt, h.terrain hm]

end Ground

namespace Entry

def isOutcome (e : Entry) : Bool :=
  match e.event with
  | .say (.solarFlare _) | .say (.interference _) => true
  | _ => false

end Entry

def tallyAt (kind : Entry → Bool) (p : Position) (log : List Entry) : Nat :=
  log.countP fun e => kind e && decide (e.mission.rover = some p)

section Tally

variable {kind : Entry → Bool} {e : Entry} {log : List Entry} {w w' : World}

private theorem isOutcome_of_background (he : e.event.isMilestone = false) :
    e.isOutcome = false := by
  unfold Entry.isOutcome
  split
  · next hevent =>
    rw [hevent] at he
    cases he
  · next hevent =>
    rw [hevent] at he
    cases he
  · rfl

private theorem isCollection_of_background (he : e.event.isMilestone = false) :
    e.isCollection = false := by
  unfold Entry.isCollection
  rw [decide_eq_false_iff_not]
  intro hevent
  rw [hevent] at he
  cases he

private theorem tallyAt_cons (p : Position) :
    tallyAt kind p (e :: log) =
    tallyAt kind p log + if kind e = true ∧ e.mission.rover = some p
      then 1 else 0 := by
  simp [tallyAt, List.countP_cons]

private theorem tallyAt_miss (p : Position) (he : kind e = false) :
    tallyAt kind p (e :: log) = tallyAt kind p log := by
  rw [tallyAt_cons, if_neg (by simp [he]), Nat.add_zero]

theorem Interlude.tallyAt (h : Interlude w w')
    (hkind : ∀ e, e.event.isMilestone = false → kind e = false) (p : Position) :
    tallyAt kind p w'.console.log = tallyAt kind p w.console.log := by
  have hkeep : ∀ e log, e.event.isMilestone = false →
      Rover.tallyAt kind p log = Rover.tallyAt kind p w.console.log →
      Rover.tallyAt kind p (e :: log) = Rover.tallyAt kind p w.console.log := by
    intro e log he hlog
    rw [tallyAt_miss p (hkind e he), hlog]
  exact h.history hkeep rfl

theorem Interlude.outcomes (h : Interlude w w') (p : Position) :
    Rover.tallyAt Entry.isOutcome p w'.console.log =
      Rover.tallyAt Entry.isOutcome p w.console.log :=
  h.tallyAt (fun _ => isOutcome_of_background) p

theorem Interlude.collections (h : Interlude w w') (p : Position) :
    Rover.tallyAt Entry.isCollection p w'.console.log =
      Rover.tallyAt Entry.isCollection p w.console.log :=
  h.tallyAt (fun _ => isCollection_of_background) p

end Tally

def Position.after (p : Position) : Option Command → Position
  | some (.move direction) => p.step direction
  | _ => p

/-- What the cell of the rover shows after a deed. -/
def Mission.shown (m : Mission) (p : Position) : Option Command → Cell
  | some (.move _) => Cell.rover
  | some .collect =>
    if m.ground = .sample ∧ m.grid.spans p = true then Cell.path
      else m.grid.cellAt p
  | _ => m.grid.cellAt p

/-- What a command does that begins with the rover at `p` and returns. -/
structure Acted (w : World) (p : Position) (c : Command) (w' : World) :
    Prop where
  conserves : w.mission.Conserves w'.mission
  rover : w'.mission.rover = some (p.after (some c))
  perimeter : ∀ direction, c = .move direction →
    w.mission.grid.spans (p.step direction) = true
  shown : w'.mission.grid.cellAt (p.after (some c)) = w.mission.shown p (some c)
  battery : w'.mission.battery = w.mission.battery - w.mission.moveCost
  outcomes : ∀ q, tallyAt Entry.isOutcome q w'.console.log =
    tallyAt Entry.isOutcome q w.console.log
  collections : ∀ q, tallyAt Entry.isCollection q w'.console.log =
    tallyAt Entry.isCollection q w.console.log +
      if c = .collect ∧ w.mission.ground = .sample ∧ p = q then 1 else 0

/-- What the ground does to a rover at `p`, if it lets go of it. -/
structure Met (w : World) (p : Position) (w' : World) : Prop where
  conserves : w.mission.Conserves w'.mission
  rover : w'.mission.rover = w.mission.rover
  ground : w'.mission.ground = w.mission.ground
  safe : w.mission.ground ≠ .obstacle
  shown : w'.mission.grid.cellAt p =
    if w.mission.ground = .uncharted then Cell.rover
      else w.mission.grid.cellAt p
  battery : w.mission.ground ≠ .uncharted → w.mission.ground ≠ .charger →
    w'.mission.battery = w.mission.battery
  outcomes : ∀ q, tallyAt Entry.isOutcome q w'.console.log =
    tallyAt Entry.isOutcome q w.console.log +
      if w.mission.ground = .uncharted ∧ p = q then 1 else 0
  collections : ∀ q, tallyAt Entry.isCollection q w'.console.log =
    tallyAt Entry.isCollection q w.console.log

/-- What a turn does that begins with the rover at `p` and returns. -/
structure Turned (w : World) (p : Position) (deed : Option Command)
    (w' : World) : Prop where
  frame : Frame w w'
  conserves : w.mission.Conserves w'.mission
  rover : w'.mission.rover = some (p.after deed)
  perimeter : ∀ direction, deed = some (.move direction) →
    w.mission.grid.spans (p.step direction) = true
  safe : w'.mission.ground ≠ .obstacle
  shown : w'.mission.grid.cellAt (p.after deed) =
    if w'.mission.ground = .uncharted then Cell.rover
      else w.mission.shown p deed
  battery : w'.mission.ground ≠ .uncharted → w'.mission.ground ≠ .charger →
    w'.mission.battery =
      w.mission.battery - if deed.isSome then w.mission.moveCost else 0
  outcomes : ∀ q, tallyAt Entry.isOutcome q w'.console.log =
    tallyAt Entry.isOutcome q w.console.log +
      if w'.mission.ground = .uncharted ∧ p.after deed = q then 1 else 0
  collections : ∀ q, tallyAt Entry.isCollection q w'.console.log =
    tallyAt Entry.isCollection q w.console.log +
      if deed = some .collect ∧ w.mission.ground = .sample ∧ p = q then 1 else 0

def World.spend (w : World) : World :=
  w.alter fun m => { m with battery := m.battery - m.moveCost }

theorem World.conserves_spend (w : World) :
    w.mission.Conserves w.spend.mission :=
  w.mission.conserves_refl.of_fields rfl rfl rfl rfl rfl

section Commands

variable {w w' : World} {p : Position} {c : Command}

theorem Acted.of_interlude
    (hp : w.mission.rover = some p) (hafter : p.after (some c) = p)
    (hshown : w.mission.shown p (some c) = w.mission.grid.cellAt p)
    (hnone : c = .collect → w.mission.ground ≠ .sample)
    (h : Interlude w.spend w') :
    Acted w p c w' where
  conserves := w.conserves_spend.interlude h
  rover := by
    rw [hafter, h.rover]
    exact hp
  perimeter := by
    rintro direction rfl
    exact absurd hafter (p.step_ne direction)
  shown := by
    rw [hafter, hshown, h.grid]
    rfl
  battery := h.battery
  outcomes := h.outcomes
  collections q := by
    have hmiss : ¬(c = .collect ∧ w.mission.ground = .sample ∧ p = q) :=
      fun hq => hnone hq.1 hq.2.1
    rw [if_neg hmiss, Nat.add_zero]
    exact h.collections q

theorem Acted.of_enter {direction : Direction} (hp : w.mission.rover = some p)
    (hspans : w.mission.grid.spans (p.step direction) = true)
    (hhas : w.mission.grid.Has (p.step direction)) :
    Acted w p (.move direction)
      (w.spend.alter (·.enter (p.step direction))) where
  conserves := w.conserves_spend.enter hp hhas
  rover := rfl
  perimeter := by
    rintro _ ⟨⟩
    exact hspans
  shown := by
    have hground : w.spend.mission.terrain.Has (p.step direction) := by
      rw [Mission.terrain_of_rover (m := w.spend.mission) hp]
      exact Grid.has_replace.2 hhas
    exact Grid.cellAt_replace_self hground
  battery := rfl
  outcomes _ := rfl
  collections q := by
    rw [if_neg (by simp)]
    rfl

theorem Grid.drilled_eq {g g' : Grid} (hhas : g.Has p) (h : g.Drilled p g') :
    g' = if g.spans p = true then g.replace p Cell.path else g := by
  rcases h with ⟨hspans, hput⟩ | ⟨hspans, rfl⟩
  · rw [Grid.put_of_has hhas] at hput
    cases hput
    rw [if_pos hspans]
  · rw [if_neg (by simp [hspans])]

theorem Acted.of_collect
    {w₁ : World} {grid : Grid} (hp : w.mission.rover = some p)
    (hhas : w.mission.grid.Has p) (hground : w.mission.ground = .sample)
    (h₁ : Interlude w.spend w₁) (hgrid : w.mission.grid.Drilled p grid)
    (h : Interlude (w₁.collect grid) w') : Acted w p .collect w' where
  conserves := by
    have hdrill : w₁.mission.grid.Drilled p grid := h₁.grid ▸ hgrid
    have hw₁ := w.conserves_spend.interlude h₁
    exact (hw₁.drill (h₁.rover.trans hp) hdrill).interlude
      (w := w₁.collect grid) h
  rover := by
    rw [h.rover]
    exact h₁.rover.trans hp
  perimeter := nofun
  shown := by
    rw [h.grid]
    change grid.cellAt p = if w.mission.ground = .sample ∧
      w.mission.grid.spans p = true then
      Cell.path else w.mission.grid.cellAt p
    rw [Grid.drilled_eq hhas hgrid]
    by_cases hspans : w.mission.grid.spans p = true
    · rw [if_pos hspans, if_pos ⟨hground, hspans⟩,
        Grid.cellAt_replace_self hhas]
    · rw [if_neg hspans, if_neg fun hboth => hspans hboth.2]
  battery := by
    rw [h.battery]
    exact h₁.battery
  outcomes q := by
    rw [h.outcomes]
    exact (tallyAt_miss q rfl).trans (h₁.outcomes q)
  collections q := by
    rw [h.collections]
    refine (tallyAt_cons q).trans ?_
    have hrover : (w₁.alter ({ · with grid := grid })).mission.rover = some p :=
      h₁.rover.trans hp
    have hlog := h₁.collections q
    simp only [World.alter_console, hrover, Option.some.injEq]
    rw [hlog]
    simp [hground, Entry.isCollection, World.spend]

theorem command_acts (hp : w.mission.rover = some p)
    (hhas : w.mission.grid.Has p) (c : Command) :
    (c.run (startSector compose)).Yields w (fun _ => Acted w p c)
      fun _ _ => True := by
  have hstill : ∀ {c : Command} {w' : World}, p.after (some c) = p →
      w.mission.shown p (some c) = w.mission.grid.cellAt p → c ≠ .collect →
      Interlude w.spend w' → Acted w p c w' :=
    fun hafter hshown hne h =>
        .of_interlude hp hafter hshown (fun hc => absurd hc hne) h
  unfold Command.run
  rw [yields_bind, yields_update]
  cases c with
  | move direction =>
    apply drive_landed (w := w.spend) hp hhas
    · exact fun _ _ _ => trivial
    · exact fun hspans htarget => .of_enter hp hspans htarget
    · exact fun _ _ => trivial
  | observe => exact quiet_observe.yields fun _ _ h => hstill rfl rfl nofun h
  | collect =>
    apply collect_yields (w := w.spend)
    · intro hground w' h
      have hshown : w.mission.shown p (some .collect) =
          w.mission.grid.cellAt p :=
        if_neg fun hboth => hground hboth.1
      exact .of_interlude hp rfl hshown (fun _ => hground) h
    · intro hground w₁ q grid w' h₁ hq hgrid h
      cases hp.symm.trans (h₁.rover.symm.trans hq)
      rw [h₁.grid] at hgrid
      exact .of_collect hp hhas hground h₁ hgrid h
    · exact fun _ _ _ => trivial
    · exact fun _ _ _ _ _ _ _ => trivial
  | deliver =>
    by_cases hbase : w.mission.AtBase
    · exact (deliver_never_returns (w := w.spend) hbase).of_never
    · exact deliver_elsewhere (w := w.spend) hbase
        fun w' h => hstill rfl rfl nofun h
  | finish => exact (yields_pure _).2 (hstill rfl rfl nofun (Interlude.refl _))

end Commands

section Encounters

variable {w w' : World} {p : Position}

theorem Met.of_interlude
    (hground : w.mission.ground ≠ .uncharted ∧ w.mission.ground ≠ .obstacle)
    (h : Interlude w w') : Met w p w' where
  conserves := w.mission.conserves_refl.interlude h
  rover := h.rover
  ground := h.ground
  safe := hground.2
  shown := by rw [if_neg hground.1, h.grid]
  battery _ _ := h.battery
  outcomes q := by
    rw [if_neg fun hboth => hground.1 hboth.1, Nat.add_zero]
    exact h.outcomes q
  collections := h.collections

theorem Met.of_charge
    {battery charge : Int} (hground : w.mission.ground = .charger)
    (h : Interlude (w.power battery (.charged charge)) w') : Met w p w' where
  conserves := by
    refine Mission.Conserves.interlude ?_ h
    exact w.mission.conserves_refl.of_fields rfl rfl rfl rfl rfl
  rover := h.rover
  ground := h.ground
  safe := by simp [hground]
  shown := by
    rw [if_neg (by simp [hground]), h.grid]
    rfl
  battery _ hne := absurd hground hne
  outcomes q := by
    rw [if_neg (by simp [hground]), h.outcomes]
    exact tallyAt_miss q rfl
  collections q := by
    rw [h.collections]
    exact tallyAt_miss q rfl

def Explored (w : World) (p : Position) (w' : World) : Prop :=
  ∃ w₁ battery message,
    Interlude (w.alter ({ · with grid := w.mission.grid.replace p Cell.rover }))
      w₁ ∧
    (∀ m, Entry.isOutcome ⟨.say message, m⟩ = true ∧
      Entry.isCollection ⟨.say message, m⟩ = false) ∧
    Interlude (w₁.power battery message) w'

theorem Explored.steady (w : World) (p : Position) : Steady (Explored w p) := by
  rintro w₂ w₃ h ⟨w₁, battery, message, h₁, hmessage, h₂⟩
  exact ⟨w₁, battery, message, h₁, hmessage, h₂.trans h⟩

private theorem explore_explores (hp : w.mission.rover = some p)
    (hhas : w.mission.grid.Has p) :
    explore.Yields w (fun _ => Explored w p) fun _ _ => True := by
  have hfound : Steady (Interlude
        (w.alter ({ · with grid := w.mission.grid.replace p Cell.rover }))) :=
    fun _ _ h h₁ => h₁.trans h
  apply explore_stages hfound (Explored.steady w p)
  · intro q grid hq hput
    cases hp.symm.trans hq
    rw [Grid.put_of_has hhas] at hput
    cases hput
    exact Interlude.refl _
  · exact fun w₁ h₁ => ⟨w₁, _, _, h₁, fun _ => ⟨rfl, rfl⟩, Interlude.refl _⟩
  · exact fun w₁ _ h₁ _ => ⟨w₁, _, _, h₁, fun _ => ⟨rfl, rfl⟩, Interlude.refl _⟩
  · exact fun _ _ => trivial
  · exact fun _ => trivial
  · exact fun _ _ _ _ => trivial
  · exact fun _ _ _ => trivial

theorem Met.of_explored (hp : w.mission.rover = some p)
    (hhas : w.mission.grid.Has p) (hground : w.mission.ground = .uncharted)
    (h : Explored w p w') : Met w p w' := by
  obtain ⟨w₁, battery, message, h₁, hmessage, h₂⟩ := h
  have hrover : w₁.mission.rover = some p := h₁.rover.trans hp
  constructor
  case conserves =>
    have hput :=
      w.mission.conserves_refl.put hp (Grid.put_of_has hhas Cell.rover)
    have hw₁ : w.mission.Conserves w₁.mission :=
      hput.interlude (w := w.alter _) h₁
    refine Mission.Conserves.interlude ?_ h₂
    exact hw₁.of_fields rfl rfl rfl rfl rfl
  case rover => exact h₂.rover.trans h₁.rover
  case ground => exact h₂.ground.trans h₁.ground
  case safe => simp [hground]
  case shown =>
    rw [if_pos hground, h₂.grid]
    change w₁.mission.grid.cellAt p = Cell.rover
    rw [h₁.grid]
    exact Grid.cellAt_replace_self hhas
  case battery => exact fun hne => absurd hground hne
  case outcomes =>
    intro q
    rw [h₂.outcomes]
    refine (tallyAt_cons q).trans ?_
    have hlog := h₁.outcomes q
    simp only [World.alter_console, World.alter_mission, hrover,
      Option.some.injEq] at hlog ⊢
    rw [hlog]
    simp [hground, hmessage]
  case collections =>
    intro q
    rw [h₂.collections]
    exact (tallyAt_miss q (hmessage _).2).trans (h₁.collections q)

private theorem settle_meets (hp : w.mission.rover = some p)
    (hhas : w.mission.grid.Has p) :
    settle.Yields w (fun _ => Met w p) fun _ _ => True := by
  have hmap : ∀ w₁, (∀ w', Interlude w₁ w' → Met w p w') →
      showMap.Yields w₁ (fun _ => Met w p) fun _ _ => True :=
    fun w₁ hmet => showMap_yields hmet fun _ _ _ => trivial
  have hplain : w.mission.ground ≠ .uncharted ∧ w.mission.ground ≠ .obstacle →
      showMap.Yields w (fun _ => Met w p) fun _ _ => True :=
    fun hground => hmap w fun w' h => .of_interlude hground h
  rw [settle, yields_bind, yields_mission, yields_bind]
  cases hground : w.mission.ground with
  | uncharted =>
    refine (explore_explores hp hhas).imp fun _ w₁ hw₁ => hmap w₁ fun w' h => ?_
    exact .of_explored hp hhas hground (Explored.steady w p w₁ w' h hw₁)
  | charger =>
    refine recharge_yields (fun w₁ h₁ => hmap w₁ fun w' h => ?_)
      fun _ => trivial
    exact .of_charge hground (h₁.trans h)
  | obstacle => exact closing_crash.yields fun _ _ => trivial
  | _ => exact (yields_pure _).2 (hplain (by simp [hground]))

end Encounters

section Turns

variable {w w₁ w' : World} {p : Position}

theorem turn_eq (advance : Flight Unit) (deed : Option Command) :
    turn advance deed =
      Instruction.run advance (deed.elim .unknown .command) := by
  cases deed with
  | none => rw [Option.elim, Instruction.run, turn]
  | some c => rw [Option.elim, Instruction.run, turn]

theorem Turned.of_met (hframe : Frame w w') (h : Met w p w')
    (hp : w.mission.rover = some p) :
    Turned w p none w' where
  frame := hframe
  conserves := h.conserves
  rover := h.rover.trans hp
  perimeter := nofun
  safe := h.ground ▸ h.safe
  shown := by
    rw [h.ground]
    exact h.shown
  battery hne hne' := by
    rw [h.ground] at hne hne'
    rw [h.battery hne hne']
    simp
  outcomes q := by
    rw [h.ground]
    exact h.outcomes q
  collections q := by
    rw [if_neg (by simp), Nat.add_zero]
    exact h.collections q

theorem Turned.of_acted {c : Command} (hframe : Frame w w') (h : Acted w p c w₁)
    (h' : Met w₁ (p.after (some c)) w') : Turned w p (some c) w' where
  frame := hframe
  conserves := h.conserves.trans h'.conserves
  rover := h'.rover.trans h.rover
  perimeter direction hdeed := h.perimeter direction (Option.some.inj hdeed)
  safe := h'.ground ▸ h'.safe
  shown := by rw [h'.ground, h'.shown, h.shown]
  battery hne hne' := by
    rw [h'.ground] at hne hne'
    rw [h'.battery hne hne', h.battery]
    rfl
  outcomes q := by rw [h'.ground, h'.outcomes, h.outcomes]
  collections q := by
    rw [h'.collections, h.collections]
    simp only [Option.some.injEq]

theorem turn_turns (hp : w.mission.rover = some p) (hhas : w.mission.grid.Has p)
    (deed : Option Command) :
    (turn (startSector compose) deed).Yields w (fun _ => Turned w p deed)
      fun _ _ => True := by
  have hframe := run_frame (deed.elim .unknown .command) w
  rw [← turn_eq] at hframe
  cases deed with
  | none =>
    refine (hframe.and (settle_meets hp hhas)).mono (fun _ w' h => ?_)
      fun _ _ _ => trivial
    exact .of_met h.1 h.2 hp
  | some c =>
    have hacts : (turn (startSector compose) (some c)).Yields w
        (fun _ w' => ∃ w₁, Acted w p c w₁ ∧ Met w₁ (p.after (some c)) w')
        fun _ _ => True := by
      refine (command_acts hp hhas c).bind fun _ w₁ hw₁ => ?_
      have hhas₁ := (hw₁.conserves.landed ⟨p, hp, hhas⟩).has hw₁.rover
      exact (settle_meets hw₁.rover hhas₁).imp fun _ w' hw' => ⟨w₁, hw₁, hw'⟩
    refine (hframe.and hacts).mono (fun _ w' h => ?_) fun _ _ _ => trivial
    obtain ⟨hframe, w₁, hacted, hmet⟩ := h
    exact .of_acted hframe hacted hmet

theorem Turned.ground_eq {deed : Option Command} (h : Turned w p deed w')
    (hp : w.mission.rover = some p) (hhas : w.mission.grid.Has p) :
    w'.mission.ground = w.mission.groundAt (p.after deed) := by
  have hlanded : w.mission.Landed := ⟨p, hp, hhas⟩
  have hhas' := (h.conserves.landed hlanded).has h.rover
  rw [Mission.ground_eq h.rover hhas', h.conserves.groundAt hlanded]

end Turns

end Rover

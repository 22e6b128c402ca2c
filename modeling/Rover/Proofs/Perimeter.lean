import Rover.Proofs.Foresight
import Rover.Proofs.Survival

/-!
The perimeter and the cells.  The first row is the measure of the perimeter, so
on a map whose rows differ in length it can take in places without a cell, and
leave out cells that are there.  A move ends as it should exactly if its target
is neither of these.
-/

namespace Rover

open Flight

namespace Grid

def reach (g : Grid) (p : Position) : Nat :=
  (g.getD p.row.toNat []).length

/-- The row of the position ends before it, and the first row does not. -/
def Overstates (g : Grid) (p : Position) : Prop :=
  0 ≤ p.row ∧ p.row < g.length ∧ g.reach p ≤ p.col ∧ p.col < g.width

/-- The first row ends before the position, and its own row does not. -/
def Understates (g : Grid) (p : Position) : Prop :=
  0 ≤ p.row ∧ g.width ≤ p.col ∧ p.col < g.reach p

instance (g : Grid) (p : Position) : Decidable (g.Overstates p) :=
  inferInstanceAs (Decidable (_ ∧ _ ∧ _ ∧ _))

instance (g : Grid) (p : Position) : Decidable (g.Understates p) :=
  inferInstanceAs (Decidable (_ ∧ _ ∧ _))

variable {g : Grid} {p : Position}

theorem has_iff_reach :
    g.Has p ↔ 0 ≤ p.row ∧ 0 ≤ p.col ∧ p.col < g.reach p := by
  unfold Has reach
  omega

theorem spans_iff :
    g.spans p = true ↔ (0 ≤ p.row ∧ p.row < g.length) ∧ 0 ≤ p.col ∧
    p.col < g.width := by
  simp only [spans, Bool.and_eq_true, decide_eq_true_eq]
  omega

theorem row_lt_of_has (h : g.Has p) : p.row < g.length := by
  obtain ⟨_, -, hrow, -⟩ := h.exists_row
  have := h.1
  omega

theorem overstates_iff : g.Overstates p ↔ g.spans p = true ∧ ¬g.Has p := by
  rw [spans_iff, has_iff_reach, Overstates]
  omega

theorem understates_iff : g.Understates p ↔ g.spans p = false ∧ g.Has p := by
  constructor
  · rintro ⟨hrow, hwidth, hreach⟩
    refine ⟨Bool.eq_false_iff.2
      fun hspans => ?_, has_iff_reach.2 ⟨hrow, by omega, hreach⟩⟩
    have := (spans_iff.1 hspans).2.2
    omega
  · rintro ⟨hspans, hhas⟩
    have hlength := row_lt_of_has hhas
    have hout := mt spans_iff.2 (Bool.eq_false_iff.1 hspans)
    obtain ⟨hrow, hcol, hreach⟩ := has_iff_reach.1 hhas
    exact ⟨hrow, by omega, hreach⟩

end Grid

structure Mission.Entered (m : Mission) (target : Position) (m' : Mission) :
    Prop where
  rover : m'.rover = some target
  block : m'.block = m.grid.cellAt target
  grid : m'.grid = m.terrain.replace target Cell.rover

def Halt.IsPlaced (h : Halt) : Prop :=
  ∀ cause, h = .fault cause → cause.isMisplaced = false

/-- A move ends as it should.  If there is no cell ahead, the signal is lost and
nothing has moved; if there is one, the rover is there, the signal is not lost,
and no cell is missed. -/
structure MovesCleanly (w : World) (p : Position) (d : Direction) : Prop where
  lost : ¬w.mission.grid.Has (p.step d) →
    perform d.word w = loseSignal w.spend ∧
      ∃ w', perform d.word w = .error .exit w' ∧ w.mission.Unmoved w'.mission
  entered : w.mission.grid.Has (p.step d) →
    perform d.word w ≠ loseSignal w.spend ∧
      w.mission.Entered (p.step d) ((perform d.word).final w).mission
  placed : ∀ h w', perform d.word w = .error h w' → h.IsPlaced

section Settling

variable {w : World} {m : Mission} {target : Position}

theorem Mission.Entered.steady (m : Mission) (target : Position) :
    Steady fun w => m.Entered target w.mission :=
  fun _ _ h hw =>
      ⟨h.rover.trans hw.rover, h.block.trans hw.block, h.grid.trans hw.grid⟩

theorem Mission.Entered.landed (h : m.Entered target w.mission)
    (hhas : m.terrain.Has target) :
    w.mission.Landed :=
  ⟨target, h.rover, by rw [h.grid]; exact Grid.has_replace.2 hhas⟩

private theorem settle_entered (h : m.Entered target w.mission)
    (hhas : m.terrain.Has target) :
    settle.Yields w (fun _ w' => m.Entered target w'.mission)
      fun _ w' => m.Entered target w'.mission := by
  have hsteady := Mission.Entered.steady m target
  have hmap : ∀ w', m.Entered target w'.mission →
      showMap.Yields w' (fun _ w'' => m.Entered target w''.mission) fun _ w'' =>
      m.Entered target w''.mission :=
    fun w' hw' => showMap_yields (fun w'' h' => hsteady w' w'' h' hw')
      fun _ w'' h' => hsteady w' w'' h' hw'
  have hpower : ∀ (w' : World) (battery : Int), m.Entered target w'.mission →
      m.Entered target { w'.mission with battery } :=
    fun _ _ hw' => ⟨hw'.rover, hw'.block, hw'.grid⟩
  simp only [settle, yields_bind, yields_mission]
  refine Yields.mono ?_ (fun _ => hmap) fun _ _ h => h
  unfold encounter
  split
  · apply explore_keeps hsteady h
    · intro w' q grid hw' hq hput
      cases hw'.rover.symm.trans hq
      have hcell : w'.mission.grid.Has target := by
        rw [hw'.grid]
        exact Grid.has_replace.2 hhas
      rw [Grid.put_of_has hcell, hw'.grid, Grid.replace_replace] at hput
      cases hput
      exact ⟨hw'.rover, hw'.block, rfl⟩
    · exact fun w' hw' => hpower w' _ hw'
    · exact fun w' _ hw' _ => hpower w' _ hw'
    · exact fun _ hw' => hw'
    · exact fun _ hw' _ => hw'
    · exact fun _ _ _ hw' _ _ => hw'
    · exact fun w' hw' _ => hpower w' _ hw'
  · apply recharge_keeps hsteady h
    · exact fun w' hw' => hpower w' _ hw'
    · exact fun w' hw' _ => hpower w' _ hw'
  · exact closing_crash.yields fun w' h' => hsteady w w' h' h
  · exact (yields_pure _).2 h

private theorem settle_placed (hlanded : w.mission.Landed) :
    settle.Yields w (fun _ _ => True) fun h _ => h.IsPlaced := by
  -- A fault of this kind could only come from a later level, but the level
  -- stays.
  refine ((settle_beyond hlanded (w.mission.level + 1)).and
      (settle_abides w)).mono (fun _ _ _ => trivial)
    fun h w' hw' cause hcause => ?_
  obtain ⟨hbeyond, habides⟩ := hw'
  refine Bool.eq_false_iff.2 fun hmisplaced => ?_
  have hlevel : w.mission.level + 1 ≤ w'.mission.level :=
    hbeyond cause hcause hmisplaced
  rw [habides.mission] at hlevel
  exact absurd hlevel (by dsimp only; omega)

end Settling

section Moves

variable {w : World} {p : Position} {d : Direction}

private theorem perform_move_eq_turn (d : Direction) :
    perform d.word = turn (startSector compose) (some (.move d)) := by
  have hparse : Instruction.parse d.word = .command (.move d) :=
    Instruction.parse_word (.move d)
  rw [perform, hparse, Instruction.run, turn]

private theorem perform_move_lost (hp : w.mission.rover = some p)
    (hspans : w.mission.grid.spans (p.step d) = false) :
    perform d.word w = loseSignal w.spend ∧
      ∃ w', perform d.word w = .error .exit w' ∧
        w.mission.Unmoved w'.mission := by
  refine ⟨perform_move_beyond hp hspans, ?_⟩
  obtain ⟨w', hturn, -, hunmoved⟩ :=
    turn_out_exits (startSector compose) ⟨p, d, hp, rfl, hspans⟩
  rw [perform_move_eq_turn]
  exact ⟨w', hturn, hunmoved⟩

private theorem perform_move_missed
    (hp : w.mission.rover = some p) (hhas : w.mission.grid.Has p)
    (hover : w.mission.grid.Overstates (p.step d)) :
    perform d.word w =
      .error (.fault .outOfRange)
        (w.spend.alter fun m => { m with grid := m.terrain }) := by
  obtain ⟨hspans, hmissing⟩ := Grid.overstates_iff.1 hover
  have hdrive : (drive d).Yields w.spend (fun _ _ => False) fun h w' =>
      h = .fault .outOfRange ∧
      w' = w.spend.alter fun m => { m with grid := m.terrain } := by
    apply drive_landed (w := w.spend) hp hhas
    · exact fun hout => by cases hspans.symm.trans hout
    · exact fun _ htarget => absurd htarget hmissing
    · exact fun _ _ => ⟨rfl, rfl⟩
  obtain ⟨_, _, hrun, rfl, rfl⟩ := hdrive.exists_error
  rw [perform_move]
  exact bind_of_error hrun

private theorem entered_enter (hp : w.mission.rover = some p)
    (hhas : w.mission.grid.Has p) (htarget : w.mission.grid.Has (p.step d)) :
    w.mission.Entered (p.step d) (w.spend.mission.enter (p.step d)) where
  rover := rfl
  block := by
    change w.mission.terrain.cellAt (p.step d) = _
    rw [Mission.terrain_of_rover hp,
      Grid.cellAt_replace_of_ne hhas htarget (Position.step_ne p d).symm]
  grid := rfl

private theorem perform_move_entered (hp : w.mission.rover = some p)
    (hhas : w.mission.grid.Has p)
    (hspans : w.mission.grid.spans (p.step d) = true)
    (htarget : w.mission.grid.Has (p.step d)) :
    (perform d.word).Yields w
      (fun _ w' => w.mission.Entered (p.step d) w'.mission)
      fun h w' => w.mission.Entered (p.step d) w'.mission ∧ h.IsPlaced := by
  have hterrain : w.mission.terrain.Has (p.step d) := by
    rw [Mission.terrain_of_rover hp]
    exact Grid.has_replace.2 htarget
  have hentered := entered_enter hp hhas htarget
  have hmove : (do drive d; settle).Yields w.spend
      (fun _ w' => w.mission.Entered (p.step d) w'.mission)
      fun h w' => w.mission.Entered (p.step d) w'.mission ∧ h.IsPlaced := by
    rw [yields_bind]
    apply drive_landed (w := w.spend) hp hhas
    · exact fun hout => by cases hspans.symm.trans hout
    · intro _ _
      have hlanded :=
        hentered.landed (w := w.spend.alter (·.enter (p.step d))) hterrain
      exact ((settle_entered hentered hterrain).and
          (settle_placed hlanded)).mono (fun _ _ h => h.1) fun _ _ h => h
    · exact fun _ hmissing => absurd htarget hmissing
  apply yields_of_run
  · exact fun _ w' hrun => hmove.ok ((perform_move d w).symm.trans hrun)
  · exact fun h w' hrun => hmove.error ((perform_move d w).symm.trans hrun)

private theorem movesCleanly_of_spans_iff (hp : w.mission.rover = some p)
    (hhas : w.mission.grid.Has p)
    (hfits : w.mission.grid.spans (p.step d) = true ↔
      w.mission.grid.Has (p.step d)) :
    MovesCleanly w p d := by
  by_cases htarget : w.mission.grid.Has (p.step d)
  · have hmove := perform_move_entered hp hhas (hfits.2 htarget) htarget
    have hentered : w.mission.Entered (p.step d)
        ((perform d.word).final w).mission :=
      (hmove.mono (fun _ _ h => h) fun _ _ h => h.1).final_of_both
    refine ⟨fun h => absurd htarget h, fun _ => ⟨fun hlost => ?_, hentered⟩,
      fun _ _ hrun => (hmove.error hrun).2⟩
    have hrover := hentered.rover
    rw [rover_of_lost hlost, hp] at hrover
    exact Position.step_ne p d (Option.some.inj hrover).symm
  · have hspans := Bool.eq_false_iff.2 (mt hfits.1 htarget)
    obtain ⟨hlost, w₁, hexit, hunmoved⟩ := perform_move_lost hp hspans
    exact ⟨fun _ => ⟨hlost, w₁, hexit, hunmoved⟩, fun h => absurd h htarget,
      fun _ _ hrun => by cases hexit.symm.trans hrun; exact nofun⟩

end Moves

/-- From a cell of any map, whatever the lengths of its rows, a move ends as it
should if and only if the length of the first row does not misstate that of the
row of the target.  If it overstates it, the move looks for a cell that is not
there, and by then the rover is gone from the map, though not from its place.
If it understates it, the signal is lost on a cell of the map. -/
theorem only_uneven_rows_mislead_a_move
    (w : World) (p : Position) (d : Direction) (hp : w.mission.rover = some p)
    (hhas : w.mission.grid.Has p) :
    (MovesCleanly w p d ↔
      ¬w.mission.grid.Overstates (p.step d) ∧
      ¬w.mission.grid.Understates (p.step d)) ∧
    (w.mission.grid.Overstates (p.step d) →
      ¬w.mission.grid.Has (p.step d) ∧
      perform d.word w =
        .error (.fault .outOfRange)
          (w.spend.alter fun m => { m with grid := m.terrain })) ∧
    (w.mission.grid.Understates (p.step d) →
      w.mission.grid.Has (p.step d) ∧ perform d.word w = loseSignal w.spend ∧
      ∃ w', perform d.word w = .error .exit w' ∧
        w.mission.Unmoved w'.mission) := by
  refine ⟨⟨fun hclean => ⟨fun hover => ?_, fun hunder => ?_⟩,
      fun ⟨hnot, hnot'⟩ => ?_⟩, fun hover => ?_, fun hunder => ?_⟩
  · cases hclean.placed _ _ (perform_move_missed hp hhas hover) _ rfl
  · obtain ⟨hspans, htarget⟩ := Grid.understates_iff.1 hunder
    exact (hclean.entered htarget).1 (perform_move_beyond hp hspans)
  · apply movesCleanly_of_spans_iff hp hhas
    rw [Grid.overstates_iff] at hnot
    rw [Grid.understates_iff] at hnot'
    cases hspans : w.mission.grid.spans (p.step d) with
    | true =>
      exact iff_of_true rfl (Decidable.not_not.1 fun h => hnot ⟨hspans, h⟩)
    | false => exact iff_of_false Bool.false_ne_true fun h => hnot' ⟨hspans, h⟩
  · exact ⟨(Grid.overstates_iff.1 hover).2, perform_move_missed hp hhas hover⟩
  · obtain ⟨hspans, htarget⟩ := Grid.understates_iff.1 hunder
    exact ⟨htarget, perform_move_lost hp hspans⟩

def shoreline (p : Position) : World where
  mission := {
    grid := Grid.replace [["[X]", "[X]"], ["[X]"],
      ["[X]", "[X]", "[S]"]] p Cell.rover
    rover := some p }
  atlas := ⟨[]⟩

/-- In the short row the move to the east misses its cell and wipes out the
rover, while the moves to the north and the west end as they should; in the long
row the signal is lost on the sample. -/
theorem shoreline_misleads_a_move :
    (perform "mve" (shoreline ⟨1, 0⟩) = .error (.fault .outOfRange)
      ((shoreline ⟨1, 0⟩).spend.alter fun m => { m with grid := m.terrain }) ∧
      ((perform "mve").final (shoreline ⟨1, 0⟩)).mission.grid =
        [["[X]", "[X]"], ["[X]"], ["[X]", "[X]", "[S]"]]) ∧
    MovesCleanly (shoreline ⟨1, 0⟩) ⟨1, 0⟩ .north ∧
    MovesCleanly (shoreline ⟨1, 0⟩) ⟨1, 0⟩ .west ∧
    (shoreline ⟨2, 1⟩).mission.grid.cellAt ⟨2, 2⟩ = "[S]" ∧
    perform "mve" (shoreline ⟨2, 1⟩) = loseSignal (shoreline ⟨2, 1⟩).spend := by
  obtain ⟨-, heast, -⟩ := only_uneven_rows_mislead_a_move (shoreline ⟨1, 0⟩)
    ⟨1, 0⟩ .east rfl (by decide)
  obtain ⟨hnorth, -⟩ := only_uneven_rows_mislead_a_move (shoreline ⟨1, 0⟩)
    ⟨1, 0⟩ .north rfl (by decide)
  obtain ⟨hwest, -⟩ := only_uneven_rows_mislead_a_move (shoreline ⟨1, 0⟩)
    ⟨1, 0⟩ .west rfl (by decide)
  obtain ⟨-, -, hsample⟩ := only_uneven_rows_mislead_a_move (shoreline ⟨2, 1⟩)
    ⟨2, 1⟩ .east rfl (by decide)
  exact ⟨⟨(heast (by decide)).2, by decide +kernel⟩, hnorth.2 (by decide),
    hwest.2 (by decide),
    rfl, (hsample (by decide)).2.1⟩

end Rover

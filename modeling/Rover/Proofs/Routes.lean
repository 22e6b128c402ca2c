import Rover.Proofs.Journey

namespace Rover

open Flight

def displacement (moves : List Direction) : Int × Int :=
  ((moves.count .south : Int) - moves.count .north,
    (moves.count .east : Int) - moves.count .west)

namespace Position

def shift (p : Position) (offset : Int × Int) : Position :=
  ⟨p.row + offset.1, p.col + offset.2⟩

def route (p : Position) : List Direction → List Position
  | [] => []
  | direction :: moves => p.step direction :: (p.step direction).route moves

theorem shift_nil (p : Position) : p.shift (displacement []) = p := by
  simp [shift, displacement]

theorem shift_cons (p : Position) (direction : Direction)
    (moves : List Direction) :
    p.shift (displacement (direction :: moves)) =
      (p.step direction).shift (displacement moves) := by
  cases direction <;> simp [shift, displacement, step] <;> omega

end Position

def Mission.InertAt (m : Mission) (p : Position) : Prop :=
  m.groundAt p ≠ .uncharted ∧ m.groundAt p ≠ .charger

instance (m : Mission) (p : Position) : Decidable (m.InertAt p) :=
  inferInstanceAs (Decidable (_ ∧ _))

/-- What a series of moves does that begins with the rover at `p` and
returns. -/
structure Drove (w : World) (p : Position) (moves : List Direction)
    (w' : World) : Prop where
  conserves : w.mission.Conserves w'.mission
  rover : w'.mission.rover = some (p.shift (displacement moves))
  shown : w'.mission.grid.cellAt (p.shift (displacement moves)) =
    if moves = [] then w.mission.grid.cellAt p else Cell.rover
  battery : (∀ q ∈ p.route moves, w.mission.InertAt q) →
    w'.mission.battery = w.mission.battery - w.mission.moveCost * moves.length

namespace Drove

variable {w w₁ w' : World} {p : Position} {moves : List Direction}

theorem refl (hp : w.mission.rover = some p) : Drove w p [] w where
  conserves := w.mission.conserves_refl
  rover := by rw [p.shift_nil, hp]
  shown := by rw [p.shift_nil, if_pos rfl]
  battery _ := by simp

theorem step {direction : Direction} (hp : w.mission.rover = some p)
    (hhas : w.mission.grid.Has p) (h : Turned w p (some (.move direction)) w₁)
    (h' : Drove w₁ (p.step direction) moves w') :
    Drove w p (direction :: moves) w' where
  conserves := h.conserves.trans h'.conserves
  rover := by rw [p.shift_cons, h'.rover]
  shown := by
    have hmark : w₁.mission.grid.cellAt (p.step direction) = Cell.rover := by
      have hshown := h.shown
      rw [Mission.shown, ite_self] at hshown
      exact hshown
    rw [p.shift_cons, h'.shown, hmark, ite_self, if_neg (List.cons_ne_nil _ _)]
  battery hinert := by
    have hlanded : w.mission.Landed := ⟨p, hp, hhas⟩
    have hground := h.ground_eq hp hhas
    obtain ⟨huncharted, hcharger⟩ := hinert _ (List.mem_cons_self ..)
    have hfirst := h.battery (hground ▸ huncharted) (hground ▸ hcharger)
    -- The first turn conserves the ground, so what lies ahead is still inert.
    have hrest := h'.battery fun q hq => by
      rw [Mission.InertAt, h.conserves.groundAt hlanded]
      exact hinert q (List.mem_cons_of_mem _ hq)
    have hcost : w₁.mission.moveCost = w.mission.moveCost := by
      rw [h.frame.mission.fields]
    rw [hrest, hfirst, hcost, Option.isSome_some, if_pos rfl, List.length_cons,
      Int.natCast_add, Int.mul_add]
    omega

theorem place (h : Drove w p moves w') (hlanded : w.mission.Landed)
    (hmoves : moves ≠ []) :
    w'.mission.grid =
        w.mission.terrain.replace (p.shift (displacement moves)) Cell.rover ∧
      w'.mission.block =
        w.mission.terrain.cellAt (p.shift (displacement moves)) := by
  have hhas := (h.conserves.landed hlanded).has h.rover
  have hterrain := h.conserves.terrain hlanded
  have hgrid := Mission.grid_eq h.rover hhas
  rw [h.shown, if_neg hmoves, hterrain] at hgrid
  exact ⟨hgrid, hterrain ▸ Mission.block_eq h.rover hhas⟩

end Drove

private theorem obey_drives (moves : List Direction) {w : World} {p : Position}
    (hp : w.mission.rover = some p) (hhas : w.mission.grid.Has p) :
    (obey (moves.map Direction.word)).Yields w (fun _ => Drove w p moves)
      fun _ _ => True := by
  induction moves generalizing w p with
  | nil => exact (yields_pure PUnit.unit).2 (.refl hp)
  | cons direction moves ih =>
    have hword : (Instruction.parse direction.word).run (startSector compose) =
        turn (startSector compose) (some (.move direction)) := by
      rw [turn_eq]
      exact congrArg (Instruction.run _)
        (Instruction.parse_word (.move direction))
    change ((Instruction.parse direction.word).run
        (startSector compose) >>= fun _ =>
      obey (moves.map Direction.word)).Yields w _ _
    rw [hword]
    refine (turn_turns hp hhas _).bind fun _ w₁ hw₁ => ?_
    have hhas₁ := (hw₁.conserves.landed ⟨p, hp, hhas⟩).has hw₁.rover
    exact (ih hw₁.rover hhas₁).imp fun _ w' hw' => hw'.step hp hhas hw₁

/-- Two series of moves that lead from one cell to the same place leave the same
map, with the rover there and the same cell under it, whatever was met and drawn
on the way.  On inert ground each has taken the battery down by the cost of its
moves. -/
theorem driving_is_path_independent
    (moves moves' : List Direction) (w u w' u' : World) (p : Position)
    (hmission : u.mission = w.mission) (hp : w.mission.rover = some p)
    (hhas : w.mission.grid.Has p) (hmoves : moves ≠ [])
    (hmoves' : moves' ≠ []) (hsame : displacement moves' = displacement moves)
    (hrun : obey (moves.map Direction.word) w = .ok () w')
    (hrun' : obey (moves'.map Direction.word) u = .ok () u') :
    (w'.mission.rover = some (p.shift (displacement moves)) ∧
      u'.mission.rover = w'.mission.rover ∧ u'.mission.grid = w'.mission.grid ∧
      u'.mission.block = w'.mission.block) ∧
    ((∀ q ∈ p.route moves, w.mission.InertAt q) →
      w'.mission.battery =
        w.mission.battery - w.mission.moveCost * moves.length) ∧
    ((∀ q ∈ p.route moves', w.mission.InertAt q) →
      u'.mission.battery =
        w.mission.battery - w.mission.moveCost * moves'.length) := by
  have hdrove := (obey_drives moves hp hhas).ok hrun
  have hdrove' :=
    (obey_drives moves' (hmission ▸ hp) (hmission ▸ hhas)).ok hrun'
  obtain ⟨hgrid, hblock⟩ := hdrove.place ⟨p, hp, hhas⟩ hmoves
  obtain ⟨hgrid', hblock'⟩ := hdrove'.place (hmission ▸ ⟨p, hp, hhas⟩) hmoves'
  rw [hsame, hmission] at hgrid' hblock'
  refine ⟨⟨hdrove.rover, ?_, hgrid'.trans hgrid.symm,
      hblock'.trans hblock.symm⟩, hdrove.battery, hmission ▸ hdrove'.battery⟩
  rw [hdrove'.rover, hdrove.rover, hsame]

def plateau : World where
  mission := Mission.deploy {} [["[R]", "[X]", "[S]"], ["[X]", "[?]", "[B]"]]
  atlas := ⟨[]⟩

theorem plateau_driving_is_path_independent :
    ∃ w' u', obey ["mve", "mve", "mvs"] plateau = .ok () w' ∧
      obey ["mvs", "mve", "mve"]
        { plateau with console.draws := [1, 7] } = .ok () u' ∧
      w'.mission.rover = some ⟨1, 2⟩ ∧ u'.mission.grid = w'.mission.grid ∧
      u'.mission.block = w'.mission.block ∧ w'.mission.battery = 94 ∧
      u'.mission.battery = 82 := by
  have hrun := ok_final
    (by decide +kernel : (obey ["mve", "mve", "mvs"]).returns plateau = true)
  have hrun' :=
    ok_final (by decide +kernel : (obey ["mvs", "mve", "mve"]).returns
      { plateau with console.draws := [1, 7] } = true)
  obtain ⟨⟨hrover, -, hgrid, hblock⟩, hbattery, -⟩ :=
    driving_is_path_independent [.east, .east, .south]
    [.south, .east, .east] plateau { plateau with console.draws := [1, 7] }
    _ _ ⟨0, 0⟩ rfl rfl (by decide) (by decide) (by decide)
      (by decide) hrun hrun'
  exact ⟨_, _, hrun, hrun', hrover, hgrid, hblock, hbattery (by decide +kernel),
    by decide +kernel⟩

end Rover

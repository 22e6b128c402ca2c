import Rover.Proofs.ScriptRun

namespace Rover

open Flight

namespace Instruction

/-- What an instruction can come down to once its conditions are decided.  A
condition that decides nothing leaves nothing to do. -/
def leaves : Instruction → List Instruction
  | .branch _ yes no => .skip :: (yes.leaves ++ no.leaves)
  | i => [i]

def isLoop : Instruction → Bool
  | .loop _ _ | .burst _ _ => true
  | _ => false

def IsStep (i : Instruction) : Prop :=
  i = .skip ∨ i = .unknown ∨ ∃ c, i = .command c

theorem isStep_of_mem_leaves : ∀ {i leaf : Instruction}, leaf ∈ i.leaves →
    leaf.isLoop = true ∨ leaf.IsStep
  | .branch _ yes no, leaf, hleaf => by
    rcases List.mem_cons.1 hleaf with rfl | hleaf
    · exact Or.inr (Or.inl rfl)
    · rcases List.mem_append.1 hleaf with hleaf | hleaf
      · exact isStep_of_mem_leaves hleaf
      · exact isStep_of_mem_leaves hleaf
  | .command c, _, hleaf => by
    rw [List.mem_singleton.1 hleaf]
    exact Or.inr (Or.inr (Or.inr ⟨c, rfl⟩))
  | .loop _ _, _, hleaf => by
    rw [List.mem_singleton.1 hleaf]
    exact Or.inl rfl
  | .burst _ _, _, hleaf => by
    rw [List.mem_singleton.1 hleaf]
    exact Or.inl rfl
  | .skip, _, hleaf => Or.inr (Or.inl (List.mem_singleton.1 hleaf))
  | .unknown, _, hleaf => Or.inr (Or.inr (Or.inl (List.mem_singleton.1 hleaf)))

end Instruction

private theorem repeated_succ (body : Flight Unit) (n : Nat) :
    repeated body (n + 1) = (do
      repeated body n
      body) := by
  induction n with
  | zero => simp [repeated]
  | succ n ih =>
    calc repeated body (n + 1 + 1)
      _ = (do
          body
          repeated body (n + 1)) := rfl
      _ = (do
          body
          repeated body n
          body) := by rw [ih]
      _ = (do
          repeated body (n + 1)
          body) := by rw [repeated, bind_assoc]

private theorem quiet_repeated {body : Flight Unit}
    (hbody : Quiet body) (n : Nat) :
    Quiet (repeated body n) := by
  intro w
  refine repeated_yields (fun w' h => ?_) n (Interlude.refl w)
  exact hbody.yields fun _ _ h' => h.trans h'

section Leaves

variable {advance : Flight Unit} {w : World}

/-- The instruction runs as one of its leaves, with pauses behind it. -/
def Instruction.RunsAs (i : Instruction) (advance : Flight Unit) (w : World)
    (leaf : Instruction) (rests : Nat) : Prop :=
  i.run advance w = (do
    leaf.run advance
    repeated (millis 500) rests : Flight Unit) w

theorem Instruction.runsAs_self (i : Instruction) : i.RunsAs advance w i 0 := by
  change i.run advance w = (i.run advance >>= pure) w
  rw [bind_pure]

theorem Instruction.RunsAs.rest {i chosen leaf : Instruction} {rests : Nat}
    (h : chosen.RunsAs advance w leaf rests)
    (hrun : i.run advance w = (do
      chosen.run advance
      millis 500 : Flight Unit) w) : i.RunsAs advance w leaf (rests + 1) := by
  have hany : (chosen.run advance).Yields w (fun _ _ => True) fun _ _ => True :=
    yields_of_run (fun _ _ _ => trivial) fun _ _ _ => trivial
  rw [RunsAs, hrun, repeated_succ, ← bind_assoc]
  exact bind_eq h hany fun _ _ _ => rfl

/-- Deciding conditions changes nothing, so all of them are decided where the
instruction starts. -/
theorem Instruction.run_leaf : ∀ (i : Instruction) (w : World),
    (∃ cause, i.run advance w = .error (.fault cause) w) ∨
      ∃ leaf ∈ i.leaves, ∃ rests, i.RunsAs advance w leaf rests
  | .branch condition yes no, w => by
    have hchoose : ∀ {chosen : Instruction},
        (∃ cause, chosen.run advance w = .error (.fault cause) w) ∨
        (∃ leaf ∈ chosen.leaves, ∃ rests, chosen.RunsAs advance w leaf rests) →
        chosen.leaves ⊆ yes.leaves ++ no.leaves →
        (branch condition yes no).run advance w = (do
          chosen.run advance
          millis 500 : Flight Unit) w →
        (∃ cause, (branch condition yes no).run advance w =
            .error (.fault cause) w) ∨
          ∃ leaf ∈ (branch condition yes no).leaves, ∃ rests,
            (branch condition yes no).RunsAs advance w leaf rests := by
      intro chosen hchosen hleaves hrun
      rcases hchosen with ⟨cause, hcause⟩ | ⟨leaf, hleaf, rests, h⟩
      · exact Or.inl ⟨cause, by rw [hrun, bind_of_error hcause]⟩
      · exact Or.inr ⟨leaf, List.mem_cons_of_mem _ (hleaves hleaf),
          rests + 1, h.rest hrun⟩
    cases hdecide : condition.decide w.mission with
    | error cause =>
      refine Or.inl ⟨cause, ?_⟩
      rw [run, mission_bind, hdecide]
      rfl
    | ok outcome =>
      match outcome with
      | none =>
        refine Or.inr ⟨.skip, List.mem_cons_self .., 0, ?_⟩
        rw [RunsAs, run, mission_bind, hdecide, run]
        rfl
      | some true =>
        refine hchoose (run_leaf yes w) (List.subset_append_left ..) ?_
        rw [run, mission_bind, hdecide]
        rfl
      | some false =>
        refine hchoose (run_leaf no w) (List.subset_append_right ..) ?_
        rw [run, mission_bind, hdecide]
        rfl
  | .command c, w => Or.inr ⟨_, List.mem_singleton.2 rfl, 0, runsAs_self _⟩
  | .loop count body, w =>
    Or.inr ⟨_, List.mem_singleton.2 rfl, 0, runsAs_self _⟩
  | .burst count body, w =>
    Or.inr ⟨_, List.mem_singleton.2 rfl, 0, runsAs_self _⟩
  | .skip, w => Or.inr ⟨_, List.mem_singleton.2 rfl, 0, runsAs_self _⟩
  | .unknown, w => Or.inr ⟨_, List.mem_singleton.2 rfl, 0, runsAs_self _⟩

end Leaves

section Lines

variable {line : String} {leaf : Instruction} {rests : Nat} {w w₀ w₁ w₂ : World}

private theorem runLine_depleted
    (hline : (Instruction.parse line).RunsAs (startSector compose) w leaf rests)
    (hleaf : leaf.run (startSector compose) w = .ok () w₁)
    (hpower : w₁.mission.battery ≤ 0) :
    (runLine compose line).Yields w (fun _ _ => False) fun h w' => h = .exit ∧
    Interlude w₁ w' := by
  have hrun : ((Instruction.parse line).run (startSector compose)).Yields w
      (fun _ => Interlude w₁) fun h w' => h = .exit ∧ Interlude w₁ w' := by
    refine Yields.of_eq ((yields_bind _ _).2 ?_) hline
    refine yields_of_run (fun _ w' hok => ?_) fun h w' herror => ?_
    · cases hleaf.symm.trans hok
      exact (quiet_repeated (quiet_millis 500) rests).yields fun _ _ h => h
    · cases hleaf.symm.trans herror
  rw [runLine, runPowered, bind_assoc]
  refine hrun.bind fun _ w₂ h₂ => ?_
  rw [bind_assoc]
  refine (quiet_millis _).bind_yields fun _ w₃ h₃ => ?_
  have hstill := h₂.trans h₃
  rw [bind_assoc, yields_bind, yields_mission,
    if_pos (hstill.battery ▸ hpower)]
  have hclosing : Closing (stopWith .powerDepleted) := closing_stopWith rfl rfl
  exact (yields_bind _ _).2 (hclosing.yields fun w₄ h₄ =>
    ⟨rfl, hstill.trans h₄⟩)

private theorem executeScript_depleted {before after : List String}
    (hfits : w.mission.Fits (before ++ line :: after))
    (hload : loadScript (before ++ line :: after) w = .ok () w₀)
    (hbefore : before.forM (runLine compose) w₀ = .ok () w₁)
    (hline : (Instruction.parse line).RunsAs (startSector compose) w₁ leaf
      rests)
    (hleaf : leaf.run (startSector compose) w₁ = .ok () w₂)
    (hpower : w₂.mission.battery ≤ 0) :
    ∃ w₃, executeScript compose (before ++ line :: after) w = .error .exit w₃ ∧
      Interlude w₂ w₃ := by
  have hstop := runLine_depleted hline hleaf hpower
  have hlines : (before ++ line :: after).forM (runLine compose) = (do
      before.forM (runLine compose)
      runLine compose line
      after.forM (runLine compose)) := List.forM_append
  rw [executeScript_eq, if_pos hfits, bind_of_ok hload, hlines, bind_assoc,
    bind_of_ok hbefore, bind_assoc]
  obtain ⟨_, w₃, hrun, rfl, h₃⟩ := hstop.exists_error
  exact ⟨w₃, bind_of_error hrun, h₃⟩

end Lines

namespace Position

def ahead (p : Position) : Direction → Nat → Position
  | .north, n => ⟨p.row - n, p.col⟩
  | .east, n => ⟨p.row, p.col + n⟩
  | .south, n => ⟨p.row + n, p.col⟩
  | .west, n => ⟨p.row, p.col - n⟩

theorem ahead_zero (p : Position) (direction : Direction) :
    p.ahead direction 0 = p := by
  cases direction <;> simp [ahead]

theorem ahead_step (p : Position) (direction : Direction) (n : Nat) :
    (p.step direction).ahead direction n = p.ahead direction (n + 1) := by
  cases direction <;> simp only [ahead, step] <;> congr 1 <;> omega

theorem ahead_ne (p : Position) (direction : Direction) (n : Nat) :
    p ≠ p.ahead direction (n + 1) := by
  intro h
  have hrow := congrArg Position.row h
  have hcol := congrArg Position.col h
  cases direction <;> simp only [ahead] at hrow hcol <;> omega

end Position

def Terrain.isPlain : Terrain → Bool
  | .uncharted | .charger | .obstacle => false
  | _ => true

theorem encounter_plain {terrain : Terrain} {post : Unit → World → Prop}
    {halted : Halt → World → Prop} {w : World} (h : terrain.isPlain = true)
    (hpost : post () w) :
    (encounter terrain).Yields w post halted := by
  cases terrain with
  | uncharted => cases h
  | charger => cases h
  | obstacle => cases h
  | _ => exact (yields_pure _).2 hpost

/-- The rover stands at `p`, and there are `n` plain cells before it. -/
structure Mission.Clear (m : Mission) (p : Position)
    (direction : Direction) (n : Nat) : Prop where
  rover : m.rover = some p
  landed : m.grid.Has p
  ahead : ∀ k < n, m.grid.spans (p.ahead direction (k + 1)) = true ∧
    m.grid.Has (p.ahead direction (k + 1)) ∧ (Cell.terrain
      (Ansi.strip (m.grid.cellAt (p.ahead direction (k + 1))))).isPlain = true
  instruments : m.isShowable = true
  battery : ∀ k < n,
    Numeral.isShowable (m.battery - (k + 1 : Nat) * m.moveCost) = true

section Loops

variable {advance : Flight Unit} {p : Position} {direction : Direction}
  {n : Nat} {w w' : World}

theorem Mission.Clear.interlude (h : w.mission.Clear p direction n)
    (hw' : Interlude w w') :
    w'.mission.Clear p direction n := by
  rw [hw'.mission]
  exact { h with }

theorem Mission.Clear.step_ahead {m : Mission}
    (h : m.Clear p direction (n + 1)) :
    m.grid.spans (p.step direction) = true ∧ m.grid.Has (p.step direction) ∧
      (Cell.terrain (Ansi.strip
          (m.terrain.cellAt (p.step direction)))).isPlain = true := by
  have hstep : p.ahead direction 1 = p.step direction := by
    rw [← Position.ahead_step, Position.ahead_zero]
  have hahead := h.ahead 0 (Nat.succ_pos n)
  have hne := Position.ahead_ne p direction 0
  rw [Nat.zero_add, hstep] at hahead hne
  rw [Mission.terrain_of_rover h.rover,
    Grid.cellAt_replace_of_ne h.landed hahead.2.1 hne]
  exact hahead

theorem Mission.Clear.enter {m m' : Mission} (h : m.Clear p direction (n + 1))
    (hm' : m' = Mission.enter { m with battery := m.battery - m.moveCost }
      (p.step direction)) :
    m'.Clear (p.step direction) direction n := by
  obtain ⟨-, hhas, -⟩ := h.step_ahead
  have hgrid : m'.grid =
      (m.grid.replace p m.block).replace (p.step direction) Cell.rover := by
    rw [hm']
    exact congrArg (fun g : Grid => g.replace (p.step direction) Cell.rover)
      (Mission.terrain_of_rover h.rover)
  constructor
  case rover => rw [hm']; rfl
  case landed => simpa [hgrid] using hhas
  case ahead =>
    intro k hk
    obtain ⟨hspans, htarget, hplain⟩ := h.ahead (k + 1) (Nat.succ_lt_succ hk)
    have hne := Position.ahead_ne p direction (k + 1)
    have hne' := Position.ahead_ne (p.step direction) direction k
    rw [Position.ahead_step] at hne' ⊢
    rw [hgrid, Grid.cellAt_replace_of_ne
      (Grid.has_replace.2 hhas) (Grid.has_replace.2 htarget) hne',
      Grid.cellAt_replace_of_ne h.landed htarget hne]
    simpa using ⟨hspans, htarget, hplain⟩
  case instruments =>
    have hinstruments := h.instruments
    have hbattery := h.battery 0 (Nat.succ_pos n)
    rw [Nat.zero_add, Int.natCast_one, Int.one_mul] at hbattery
    simp only [Mission.isShowable, List.all_cons, Bool.and_eq_true]
      at hinstruments ⊢
    rw [hm']
    exact ⟨hbattery, hinstruments.2⟩
  case battery =>
    intro k hk
    have hbattery := h.battery (k + 1) (Nat.succ_lt_succ hk)
    have hsum : m.battery - (k + 1 + 1 : Nat) * m.moveCost =
        m.battery - m.moveCost - (k + 1 : Nat) * m.moveCost := by
      rw [Int.natCast_add (k + 1) 1, Int.add_mul]
      omega
    rw [hsum] at hbattery
    rw [hm']
    exact hbattery

private theorem move_clear (h : w.mission.Clear p direction (n + 1)) :
    (Instruction.run advance (.command (.move direction))).Yields w
      (fun _ w' => w'.mission.Clear (p.step direction) direction n ∧
        w'.mission.battery = w.mission.battery - w.mission.moveCost ∧
        w'.mission.moveCost = w.mission.moveCost) fun _ _ => False := by
  obtain ⟨hspans, hhas, hplain⟩ := h.step_ahead
  rw [Instruction.run, Command.run, yields_bind, yields_bind, yields_update]
  refine drive_landed h.rover h.landed (fun hlost => ?_) (fun _ _ => ?_)
    fun _ hragged => ?_
  · cases hspans.symm.trans hlost
  · have hclear := h.enter rfl
    rw [settle, yields_bind, yields_mission, yields_bind]
    refine encounter_plain hplain ?_
    refine showMap_yields (fun w' h' => ⟨hclear.interlude h', ?_⟩)
      fun hhidden => ?_
    · rw [h'.mission]
      exact ⟨rfl, rfl⟩
    · cases hclear.instruments.symm.trans hhidden
  · exact absurd hhas hragged

private theorem moves_clear (h : w.mission.Clear p direction n) :
    (repeated (Instruction.runEach advance (millis 500)
        [.command (.move direction)]) n).Yields w
      (fun _ w' => w'.mission.rover = some (p.ahead direction n) ∧
        w'.mission.battery =
          w.mission.battery - n * w.mission.moveCost) fun _ _ => False := by
  induction n generalizing w p with
  | zero =>
    rw [repeated, yields_pure, Position.ahead_zero]
    exact ⟨h.rover, by simp⟩
  | succ n ih =>
    rw [repeated, yields_bind, Instruction.runEach, yields_bind]
    refine (move_clear h).imp fun _ w₁ hw₁ => ?_
    obtain ⟨hclear, hbattery, hcost⟩ := hw₁
    refine (quiet_millis _).bind_yields fun _ w₂ h₂ => ?_
    rw [Instruction.runEach, yields_pure]
    refine (ih (hclear.interlude h₂)).imp fun _ w₃ hw₃ => ?_
    obtain ⟨hrover₃, hbattery₃⟩ := hw₃
    rw [Position.ahead_step] at hrover₃
    refine ⟨hrover₃, ?_⟩
    rw [hbattery₃, h₂.mission]
    dsimp only
    rw [hbattery, hcost, Int.natCast_add, Int.add_mul]
    omega

private theorem loopRounds_of_lt (hn : n < instructionSpace) :
    loopRounds 1 n = .ok n :=
  loopRounds_of_fits Nat.one_pos (by rwa [Nat.mul_one])

private theorem loop_drives (hn : n < instructionSpace)
    (h : w.mission.Clear p direction n) (advance : Flight Unit) :
    (Instruction.run advance
        (.loop (.ok n) [.command (.move direction)])).Yields w
      (fun _ w' => w'.mission.rover = some (p.ahead direction n) ∧
        w'.mission.battery =
          w.mission.battery - n * w.mission.moveCost) fun _ _ => False := by
  rw [Instruction.run, yields_bind]
  refine yields_ofExcept (fun rounds hok => ?_) fun cause herror => ?_
  · rw [Except.bind, List.length_singleton, loopRounds_of_lt hn] at hok
    cases hok
    exact moves_clear h
  · rw [Except.bind, List.length_singleton, loopRounds_of_lt hn] at herror
    cases herror

end Loops

/-- A line stops at a condition that cannot be decided, or it runs one of its
leaves, and a leaf is one command at most unless it is a loop.  Once a leaf has
run and left no power, the mission ends with the rover where it is.  A loop of
moves, however, drives on as long as the ground is plain, and its last move is
made whatever the first one has left in the battery. -/
theorem only_loops_drive_without_power (w : World) :
    (∀ i : Instruction,
      (∃ cause, i.run (startSector compose) w = .error (.fault cause) w) ∨
      ∃ leaf ∈ i.leaves, (leaf.isLoop = true ∨ leaf.IsStep) ∧
        ∃ rests, i.RunsAs (startSector compose) w leaf rests) ∧
    (∀ before line after w₀ w₁ leaf rests w₂,
      w.mission.Fits (before ++ line :: after) →
      loadScript (before ++ line :: after) w = .ok () w₀ →
      before.forM (runLine compose) w₀ = .ok () w₁ →
      (Instruction.parse line).RunsAs (startSector compose) w₁ leaf rests →
      leaf.run (startSector compose) w₁ = .ok () w₂ → w₂.mission.battery ≤ 0 →
      ∃ w₃, executeScript compose (before ++ line :: after) w =
          .error .exit w₃ ∧
        Interlude w₂ w₃) ∧
    ∀ n p direction, n < instructionSpace → w.mission.Clear p direction n →
      ∃ w', (Instruction.loop (.ok n) [.command (.move direction)]).run
          (startSector compose) w = .ok () w' ∧
        w'.mission.rover = some (p.ahead direction n) ∧
        w'.mission.battery = w.mission.battery - n * w.mission.moveCost := by
  refine ⟨fun i => ?_, ?_, fun n p direction hn hclear => ?_⟩
  · rcases i.run_leaf w with hfault | ⟨leaf, hleaf, hrun⟩
    · exact Or.inl hfault
    · exact Or.inr ⟨leaf, hleaf, Instruction.isStep_of_mem_leaves hleaf, hrun⟩
  · intro before line after w₀ w₁ leaf rests w₂ hfits hload hbefore
      hline hleaf hpower
    exact executeScript_depleted hfits hload hbefore hline hleaf hpower
  · obtain ⟨_, w', hrun, hdriven⟩ :=
      (loop_drives hn hclear (startSector compose)).exists_ok
    exact ⟨w', hrun, hdriven⟩

def lastStep : World where
  mission := Mission.deploy
    { battery := 2, executions := 5, memory := 800, remaining := 800 }
    [["[R]", "[X]", "[X]", "[X]"]]
  atlas := ⟨[]⟩

private theorem lastStep_clear : lastStep.mission.Clear ⟨0, 0⟩ .east 3 where
  rover := by decide +kernel
  landed := by decide +kernel
  ahead := by decide +kernel
  instruments := by decide +kernel
  battery := by decide +kernel

theorem loop_drives_beyond_last_step :
    (∃ w', (Instruction.parse "for 3 >> mve").run
        (startSector compose) lastStep = .ok () w' ∧
      w'.mission.rover = some ⟨0, 3⟩ ∧ w'.mission.battery = -4) ∧
    ∃ w', executeScript compose ["mve", "mve", "mve", "end"] lastStep =
        .error .exit w' ∧
      w'.mission.rover = some ⟨0, 1⟩ ∧ w'.mission.battery = 0 := by
  obtain ⟨-, hdepleted, hloop⟩ := only_loops_drive_without_power lastStep
  have hparse : Instruction.parse "for 3 >> mve" =
      .loop (.ok (3 : Nat)) [.command (.move .east)] := by
    cbv
  refine ⟨?_, ?_⟩
  · rw [hparse]
    exact hloop 3 ⟨0, 0⟩ .east (by decide) lastStep_clear
  · have hload := ok_final (by decide +kernel :
      (loadScript ["mve", "mve", "mve", "end"]).returns lastStep = true)
    have hmove := ok_final (by decide +kernel :
      (Instruction.run (startSector compose) (.command (.move .east))).returns
        ((loadScript ["mve", "mve", "mve", "end"]).final lastStep) = true)
    have hline : (Instruction.parse "mve").RunsAs (startSector compose)
        ((loadScript ["mve", "mve", "mve", "end"]).final lastStep)
        (.command (.move .east)) 0 := by
      rw [Instruction.parse, Instruction.ofChars_eq]
      exact Instruction.runsAs_self _
    obtain ⟨w', hrun, h⟩ := hdepleted [] "mve" ["mve", "mve", "end"] _ _ _ 0 _
      (by decide +kernel) hload rfl hline hmove (by decide +kernel)
    exact ⟨w', hrun, h.rover.trans (by decide +kernel),
      h.battery.trans (by decide +kernel)⟩

end Rover

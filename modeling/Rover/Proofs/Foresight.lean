import Rover.Proofs.BranchText
import Rover.Proofs.Confinement
import Rover.Proofs.Journey
import Rover.Proofs.ScriptRun

namespace Rover

open Flight Text

structure Stays (w w' : World) : Prop where
  rover : w'.mission.rover = w.mission.rover
  block : w'.mission.block = w.mission.block

private theorem stays_steady (w : World) : Steady (Stays w) :=
  fun _ _ h hw => ⟨h.rover.trans hw.rover, h.block.trans hw.block⟩

/-- Nothing has changed in the mission but cells and power, and no line was
taken. -/
structure Abides (w w' : World) : Prop where
  mission : w'.mission = { w.mission with
    grid := w'.mission.grid
    battery := w'.mission.battery
    locked := w'.mission.locked }
  inputs : w'.console.inputs = w.console.inputs

namespace Abides

variable {w w' : World}

theorem stays (h : Abides w w') : Stays w w' :=
  ⟨by rw [h.mission], by rw [h.mission]⟩

theorem steady (w : World) : Steady (Abides w) := by
  intro w₁ w₂ h hw₁
  refine ⟨?_, h.inputs.trans hw₁.inputs⟩
  rw [h.mission, hw₁.mission]

theorem alter (h : Abides w w') (grid : Grid) (battery : Int) :
    Abides w (w'.alter ({ · with grid, battery })) := by
  refine ⟨?_, h.inputs⟩
  rw [World.alter_mission, h.mission]

end Abides

theorem settle_abides (w : World) :
    settle.Yields w (fun _ => Abides w) fun _ => Abides w := by
  have hsteady := Abides.steady w
  have hstart : Abides w w := ⟨rfl, rfl⟩
  have hpower : ∀ w' battery, Abides w w' →
      Abides w (w'.alter ({ · with battery })) :=
    fun w' battery h => h.alter w'.mission.grid battery
  have hnote : ∀ w' battery message, Abides w w' →
      Abides w (w'.power battery message) :=
    fun w' battery _ h => ⟨(hpower w' battery h).mission, h.inputs⟩
  have hmap : ∀ w', Abides w w' →
      showMap.Yields w' (fun _ => Abides w) fun _ => Abides w :=
    fun w' hw' => showMap_yields (fun w'' h => hsteady w' w'' h hw')
      fun _ w'' h => hsteady w' w'' h hw'
  simp only [settle, yields_bind, yields_mission]
  refine Yields.mono ?_ (fun _ => hmap) fun _ _ h => h
  unfold encounter
  split
  · apply explore_keeps hsteady hstart
    · exact fun w' _ grid h _ _ => h.alter grid w'.mission.battery
    · exact fun w' h => hnote w' _ _ h
    · exact fun w' _ h _ => hnote w' _ _ h
    · exact fun _ h => h
    · exact fun _ h _ => h
    · exact fun _ _ _ h _ _ => h
    · exact fun w' h _ => hpower w' _ h
  · apply recharge_keeps hsteady hstart
    · exact fun w' h => hnote w' _ _ h
    · exact fun w' h _ => hpower w' _ h
  · exact closing_crash.yields fun w' h => hsteady w w' h hstart
  · exact (yields_pure _).2 hstart

private theorem settle_stays (w : World) :
    settle.Yields w (fun _ => Stays w) fun _ => Stays w :=
  (settle_abides w).mono (fun _ _ h => h.stays) fun _ _ h => h.stays

theorem Flight.final_congr {α : Type} {x y : Flight α} {w w' : World}
    (h : x w = y w') :
    x.final w = y.final w' := by
  rw [Flight.final, Flight.final, h]

section Moves

variable {w : World} {p : Position} {d : Direction}

theorem perform_move (d : Direction) (w : World) :
    perform d.word w = (do drive d; settle) w.spend := by
  have hparse : Instruction.parse d.word = .command (.move d) :=
    Instruction.parse_word (.move d)
  rw [perform, hparse, Instruction.run, Command.run]
  rfl

theorem perform_move_beyond (hp : w.mission.rover = some p)
    (hspans : w.mission.grid.spans (p.step d) = false) :
    perform d.word w = loseSignal w.spend := by
  have hdrive : drive d w.spend = loseSignal w.spend := drive_out hp hspans
  have hlost : (loseSignal : Flight Unit).Yields w.spend (fun _ _ => False)
      fun _ _ => True :=
    loseSignal_yields fun _ _ => trivial
  obtain ⟨h, w', hrun, -⟩ := hlost.exists_error
  rw [perform_move, hrun]
  exact bind_of_error (hdrive.trans hrun)

theorem rover_of_lost (hlost : perform d.word w = loseSignal w.spend) :
    ((perform d.word).final w).mission.rover = w.mission.rover := by
  have hcutoff : (loseSignal : Flight Unit).Yields w.spend
      (fun _ _ => False) fun _ => Cutoff w.spend :=
    loseSignal_yields fun _ h => h
  rw [Flight.final_congr hlost, hcutoff.final_of_never.mission]
  rfl

private theorem perform_move_within (hp : w.mission.rover = some p)
    (hhas : w.mission.grid.Has p) (hfull : w.mission.grid.Full)
    (hspans : w.mission.grid.spans (p.step d) = true) :
    ((perform d.word).final w).mission.rover = some (p.step d) ∧
      ((perform d.word).final w).mission.block =
        w.mission.grid.cellAt (p.step d) := by
  have htarget := hfull _ hspans
  have hblock : (w.spend.mission.enter (p.step d)).block =
      w.mission.grid.cellAt (p.step d) := by
    change w.mission.terrain.cellAt (p.step d) = _
    rw [Mission.terrain_of_rover hp,
      Grid.cellAt_replace_of_ne hhas htarget (Position.step_ne p d).symm]
  have hyields : (do drive d; settle).Yields w.spend
      (fun _ => Stays (w.spend.alter (·.enter (p.step d))))
      (fun _ => Stays (w.spend.alter (·.enter (p.step d)))) := by
    rw [yields_bind]
    refine drive_landed hp hhas (fun hout => ?_) (fun _ _ => settle_stays _)
      fun _ hragged => ?_
    · cases hspans.symm.trans hout
    · exact absurd htarget hragged
  have hstays := hyields.final_of_both
  rw [Flight.final_congr (perform_move d w)]
  exact ⟨hstays.rover, hstays.block.trans hblock⟩

private theorem lookAhead_eq {m : Mission} (hp : m.rover = some p)
    (hfull : m.grid.Full) :
    m.lookAhead d = .ok (if m.grid.spans (p.step d) then
      .text (Cell.mark (Ansi.strip (m.grid.cellAt (p.step d))))
        else .nothing) := by
  unfold Mission.lookAhead
  rw [hp]
  dsimp only
  split
  · next hspans => rw [Grid.cell?_of_has (hfull _ hspans)]
  · rfl

end Moves

/-- The text of a branch that looks ahead for an obstacle: it does `word` if
there is one, and moves if there is none. -/
def lookoutText (d : Direction) (word : String) : String :=
  branchText d.word " " .equal " " "#" word d.word ""

namespace Instruction

theorem run_branch (advance : Flight Unit) (condition : Condition)
    (yes no : Instruction) (w : World) :
    (Instruction.branch condition yes no).run advance w =
      match condition.decide w.mission with
      | .error cause => .error (.fault cause) w
      | .ok none => .ok () w
      | .ok (some outcome) =>
        (do (if outcome then yes else no).run advance; millis 500) w := by
  rw [run, mission_bind]
  cases condition.decide w.mission with
  | error cause => rfl
  | ok outcome =>
    cases outcome with
    | none => rfl
    | some outcome =>
      cases outcome with
      | true => rfl
      | false => rfl

theorem parse_lookout (d : Direction) {word : String}
    (hword : IsWord word.toList) :
    parse (lookoutText d word) =
      .branch ⟨.ahead d, some .equal, .text "#"⟩ (ofWord word.toList)
        (.command (.move d)) := by
  have hmove : IsWord d.word.toList := by cases d <;> decide
  have hsign : IsWord "#".toList := by decide
  have hspace : AllBlank " ".toList := by decide
  have hline : branchLine? (lookoutText d word).toList =
      some ⟨d.word.toList, .equal, "#".toList, word.toList, d.word.toList⟩ := by
    rw [lookoutText, toList_branchText, BranchLine.branchLine?_write
      ⟨hmove, hsign, hword, hmove⟩ hspace (fun h => by cases h) hspace
      (by decide), BranchLine.taken_of_clear (by decide)]
    exact fun h => absurd rfl h
  have hleft : Operand.ofText d.word.toList = .ahead d := by cases d <;> rfl
  have hno : ofWord d.word.toList = .command (.move d) := by
    have hfor : (keyword? "for".toList d.word.toList).isSome = false := by
      cases d <;> rfl
    rw [ofWord_eq, hfor]
    exact parse_word (.move d)
  rw [parse, ofChars_eq, hline]
  dsimp only
  rw [ofCondition, hleft, hno]
  rfl

end Instruction

section Lookout

variable {w : World} {d : Direction} {v : Value} {word : String}

private theorem decide_lookout {m : Mission} (hv : m.lookAhead d = .ok v) :
    Condition.decide m ⟨.ahead d, some .equal, .text "#"⟩ =
      .ok (some (decide (v = .text "#"))) := by
  rw [Condition.decide, Operand.value, hv]
  rfl

private theorem perform_lookout (hv : w.mission.lookAhead d = .ok v)
    (hword : IsWord word.toList) :
    perform (lookoutText d word) w =
      if v = .text "#" then
        (do
          (Instruction.ofWord word.toList).run (startSector compose)
          millis 500) w
      else (do perform d.word; millis 500) w := by
  have hmove : perform d.word =
      (Instruction.command (.move d)).run (startSector compose) := by
    rw [perform, ← Instruction.parse_word (.move d)]
    rfl
  rw [perform, Instruction.parse_lookout d hword, Instruction.run_branch,
    decide_lookout hv, hmove]
  by_cases hsign : v = .text "#"
  · simp only [hsign, decide_true, if_true]
  · simp only [hsign, decide_false, if_false, Bool.false_eq_true]

private theorem stays_final_bind {α β : Type} {x : Flight α} {y : Flight β}
    (hy : Quiet y) (w : World) :
    Stays (x.final w) ((do let _ ← x; y).final w) := by
  apply Yields.final_of_both
  rw [yields_bind]
  apply yields_of_run
  · intro a w' hrun
    have hfinal : x.final w = w' := by rw [Flight.final, hrun]
    rw [hfinal]
    exact hy.yields fun _ w'' h => stays_steady w' w' w'' h ⟨rfl, rfl⟩
  · intro halt w' hrun
    have hfinal : x.final w = w' := by rw [Flight.final, hrun]
    rw [hfinal]
    exact ⟨rfl, rfl⟩

private theorem perform_lookout_clear (hv : w.mission.lookAhead d = .ok v)
    (hne : v ≠ .text "#") (hword : IsWord word.toList) :
    perform (lookoutText d word) w = (do perform d.word; millis 500) w ∧
      Stays ((perform d.word).final w)
        ((perform (lookoutText d word)).final w) := by
  have hrun := perform_lookout hv hword
  rw [if_neg hne] at hrun
  refine ⟨hrun, ?_⟩
  rw [Flight.final_congr hrun]
  exact stays_final_bind (quiet_millis 500) w

end Lookout

/-- What a condition sees ahead is what a move finds.  It sees nothing exactly
if the move would lose the signal; else the rover ends up in the cell ahead, on
what was seen, whether the move returns or not.  Looking leaves the world as it
is.  So a branch that moves unless it sees an obstacle does not drive onto
one. -/
theorem moves_find_what_was_seen (w : World) (p : Position) (d : Direction)
    (hp : w.mission.rover = some p) (hhas : w.mission.grid.Has p)
    (hrectangle : w.mission.grid.IsRectangle) :
    ∃ v, (Operand.ofText d.word.toList).value w.mission = .ok v ∧
      (v = .nothing ↔ perform d.word w = loseSignal w.spend) ∧
      (v ≠ .nothing →
        ((perform d.word).final w).mission.rover = some (p.step d) ∧
          v = .text
            (Cell.mark (Ansi.strip ((perform d.word).final w).mission.block))) ∧
      (∀ advance condition yes no,
        (Instruction.branch condition yes no).run advance w =
        match condition.decide w.mission with
        | .error cause => .error (.fault cause) w
        | .ok none => .ok () w
        | .ok (some outcome) =>
          (do
            (if outcome then yes else no).run advance
            millis 500) w) ∧
      ∀ word : String, IsWord word.toList →
        (v = .text "#" →
          perform (lookoutText d word) w =
            (do
              (Instruction.ofWord word.toList).run (startSector compose)
              millis 500) w) ∧
        (v ≠ .text "#" →
          perform (lookoutText d word) w = (do perform d.word; millis 500) w ∧
            let w' := (perform (lookoutText d word)).final w
            w'.mission.rover = some (p.step d) →
            Ansi.strip w'.mission.block ≠ "[#]") := by
  have hfull := hrectangle.full
  have hsight := lookAhead_eq hp hfull (d := d)
  have hvalue : (Operand.ofText d.word.toList).value w.mission =
      w.mission.lookAhead d := by
    cases d <;> rfl
  have hmoved : some p ≠ some (p.step d) :=
    fun h => Position.step_ne p d (Option.some.inj h).symm
  cases hspans : w.mission.grid.spans (p.step d) with
  | false =>
    rw [hspans, if_neg Bool.false_ne_true] at hsight
    have hlost := perform_move_beyond hp hspans
    refine ⟨.nothing, hvalue.trans hsight, iff_of_true rfl hlost,
      fun h => absurd rfl h, fun advance condition yes no =>
      Instruction.run_branch advance condition yes no w, ?_⟩
    refine fun word hword => ⟨nofun, fun hne => ?_⟩
    obtain ⟨hrun, hstays⟩ := perform_lookout_clear hsight hne hword
    refine ⟨hrun, fun hrover => ?_⟩
    rw [hstays.rover, rover_of_lost hlost, hp] at hrover
    exact absurd hrover hmoved
  | true =>
    rw [hspans, if_pos rfl] at hsight
    obtain ⟨hrover, hblock⟩ := perform_move_within hp hhas hfull hspans
    refine ⟨_, hvalue.trans hsight, iff_of_false nofun
      fun hlost => ?_, fun _ => ⟨hrover, ?_⟩, fun advance condition yes no =>
      Instruction.run_branch advance condition yes no w, ?_⟩
    · rw [rover_of_lost hlost, hp] at hrover
      exact hmoved hrover
    · rw [hblock]
    · refine fun word hword => ⟨fun hsign => ?_, fun hne => ?_⟩
      · rw [perform_lookout hsight hword, if_pos hsign]
      · obtain ⟨hrun, hstays⟩ := perform_lookout_clear hsight hne hword
        refine ⟨hrun, fun _ hobstacle => hne ?_⟩
        rw [hstays.block, hblock] at hobstacle
        rw [hobstacle]
        rfl

def ledge : World where
  mission := {
    grid := [["[R]", "[#]"], ["[X]", "[X]"]]
    rover := some ⟨0, 0⟩ }
  atlas := ⟨[]⟩

theorem moves_find_what_was_seen_at_ledge :
    ((perform "mve").final ledge).mission.rover = some ⟨0, 1⟩ ∧
    Cell.mark (Ansi.strip ((perform "mve").final ledge).mission.block) = "#" ∧
    perform "if mve == # then mvs else mve" ledge =
      (do
        (Instruction.ofWord "mvs".toList).run (startSector compose)
        millis 500) ledge ∧
    perform "mvn" ledge = loseSignal ledge.spend := by
  obtain ⟨east, heast, -, hmove, -, hbranch⟩ :=
    moves_find_what_was_seen ledge ⟨0, 0⟩ .east rfl (by decide) (by decide)
  obtain ⟨north, hnorth, hlost, -⟩ :=
    moves_find_what_was_seen ledge ⟨0, 0⟩ .north rfl (by decide) (by decide)
  cases heast
  cases hnorth
  obtain ⟨hrover, hblock⟩ := hmove nofun
  exact ⟨hrover, (Value.text.inj hblock).symm,
    (hbranch "mvs" (by decide)).1 rfl, hlost.1 rfl⟩

end Rover

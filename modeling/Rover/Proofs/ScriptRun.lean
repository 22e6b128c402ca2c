import Rover.Proofs.Frame
import Rover.Proofs.Recursion

/-!
How far a script runs.  The count of executions goes down before a script starts
and is looked at after every line.  With an execution to spare that look never
stops anything; on the last execution it stops the script after its first line.
-/

namespace Rover

open Flight

namespace Flight

variable {α : Type} {w : World}

theorem mission_bind (f : Mission → Flight α) :
    (mission >>= f) w = f w.mission w :=
  rfl

end Flight

section

variable {next : Flight Unit} {script : List String}
  {post : Unit → World → Prop}
  {halted : Halt → World → Prop} {w : World}

theorem executeScript_eq (next : Flight Unit) (script : List String)
    (w : World) :
    executeScript next script w =
      if w.mission.Fits script then
        (do
          loadScript script
          script.forM (runLine next)
          if 0 < (← mission).executions then next : Flight Unit) w
      else
        (do
          rejectScript script
          next : Flight Unit) w := by
  rw [executeScript, mission_bind]
  split <;> rfl

theorem executeScript_of_fits (hfits : w.mission.Fits script)
    (hload : (loadScript script).Yields w (fun _ w' =>
      (do
        script.forM (runLine next)
        if 0 < (← mission).executions then next : Flight Unit).Yields w' post
          halted) halted) :
    (executeScript next script).Yields w post halted := by
  have heq := executeScript_eq next script w
  rw [if_pos hfits] at heq
  exact Yields.of_eq ((yields_bind _ _).2 hload) heq

theorem executeScript_of_not_fits (hfits : ¬w.mission.Fits script)
    (hreject : (rejectScript script).Yields w
      (fun _ w' => next.Yields w' post halted) halted) :
    (executeScript next script).Yields w post halted := by
  have heq := executeScript_eq next script w
  rw [if_neg hfits] at heq
  exact Yields.of_eq ((yields_bind _ _).2 hreject) heq

theorem executions_steady (n : Int) :
    Steady fun w => w.mission.executions = n := by
  intro w w' h hw
  rw [h.mission]
  exact hw

theorem loadScript_yields
    (hloaded : ∀ w', w'.mission.executions = w.mission.executions - 1 →
      post () w')
    (hhidden : (Message.scriptLoaded
      (w.mission.sizeOfScript script)).isShowable = false →
      ∀ w', halted (.fault .notShowable) w') :
    (loadScript script).Yields w post halted := by
  refine loadScript_stages (fun w₁ w' h₁ _ h' => hloaded w' ?_)
    fun w₁ h₁ h => ?_
  · have hexecutions := executions_steady w.mission.executions _ w₁ h₁ rfl
    exact executions_steady _ _ w' h' (congrArg (· - 1) hexecutions)
  · have hsize : w₁.mission.sizeOfScript script =
        w.mission.sizeOfScript script := by
      rw [h₁.mission]
      rfl
    exact hhidden (hsize ▸ h) _

private theorem loadScript_spends (script : List String) (w : World) :
    (loadScript script).Yields w
      (fun _ w' => w'.mission.executions = w.mission.executions - 1)
      fun _ _ => True :=
  loadScript_yields (fun _ h => h) fun _ _ => trivial

private theorem runPowered_frame (line : String) (w : World) :
    (runPowered compose line).Yields w (fun _ => Frame w) fun _ _ => True := by
  rw [runPowered]
  refine (run_frame _ w).bind fun _ w₁ hw₁ => ?_
  refine (quiet_millis _).bind_yields fun _ w₂ h₂ => ?_
  rw [yields_bind, yields_mission]
  refine yields_ite (fun _ => ?_) fun _ =>
    (yields_pure ()).2 (hw₁.trans (.of_interlude h₂))
  exact (closing_stopWith rfl rfl).yields fun _ _ => trivial

private theorem runLine_spared (line : String) (hw : 0 < w.mission.executions) :
    runLine compose line w = runPowered compose line w := by
  calc runLine compose line w
      = (runPowered compose line >>= pure) w := by
        refine bind_eq rfl (runPowered_frame line w) fun _ w' hw' => ?_
        have hexecutions := hw'.mission.executions
        rw [mission_bind, if_neg (by omega)]
    _ = runPowered compose line w := by rw [bind_pure]

private theorem runLines_spared (script : List String)
    (hw : 0 < w.mission.executions) :
    script.forM (runLine compose) w = script.forM (runPowered compose) w := by
  induction script generalizing w with
  | nil => rfl
  | cons line rest ih =>
    refine bind_eq (runLine_spared line hw) (runLine_frame line w)
      fun _ w' hw' => ih ?_
    rw [hw'.mission.executions]
    exact hw

private theorem runLine_stops (line : String) (rest : Unit → Flight Unit)
    (hw : w.mission.executions ≤ 0) :
    (runLine compose line >>= rest) w = (do
      runPowered compose line
      stopWith .executionLimit : Flight Unit) w := by
  simp only [runLine, bind_assoc]
  refine bind_eq rfl (runPowered_frame line w) fun _ w' hw' => ?_
  have hexecutions := hw'.mission.executions
  have hnever : (stopWith .executionLimit).Yields w' (fun _ _ => False)
      fun _ _ => True :=
    (closing_stopWith rfl rfl).yields fun _ _ => trivial
  rw [mission_bind, if_pos (by omega)]
  calc (stopWith .executionLimit >>= rest) w'
      = (stopWith .executionLimit >>= pure) w' := bind_of_never hnever
    _ = stopWith .executionLimit w' := by rw [bind_pure]

end

/-- A script that fits the memory runs line by line, as long as there is power,
if it is not the last execution.  On the last one its first line is run and then
the mission ends, however many lines follow. -/
theorem last_execution_runs_one_line (w : World) (script : List String)
    (hfits : w.mission.Fits script) :
    (2 ≤ w.mission.executions →
      executeScript compose script w = (do
        loadScript script
        script.forM (runPowered compose)
        compose : Flight Unit) w) ∧
    ∀ line rest, script = line :: rest → w.mission.executions ≤ 1 →
      executeScript compose script w = (do
        loadScript script
        runPowered compose line
        stopWith .executionLimit : Flight Unit) w := by
  rw [executeScript_eq, if_pos hfits]
  constructor
  · intro hexecutions
    refine bind_eq rfl (loadScript_spends script w) fun _ w₁ hw₁ => ?_
    have hleft : 0 < w₁.mission.executions := by omega
    refine bind_eq (runLines_spared script hleft) (runLines_frame script w₁)
      fun _ w₂ hw₂ => ?_
    have hnext : 0 < w₂.mission.executions := by
      rw [hw₂.mission.executions]
      exact hleft
    rw [mission_bind, if_pos hnext]
  · rintro line rest rfl hexecutions
    refine bind_eq rfl (loadScript_spends _ w) fun _ w₁ hw₁ => ?_
    have hnone : w₁.mission.executions ≤ 0 := by omega
    change ((runLine compose line >>= fun _ => rest.forM (runLine compose)) >>=
        _) w₁ = _
    rw [bind_assoc]
    exact runLine_stops line _ hnone

def corridor (executions : Int) : World where
  mission := Mission.deploy { executions, memory := 400, remaining := 400 }
    [["[R]", "[X]", "[X]"]]
  atlas := ⟨[]⟩

theorem last_execution_in_corridor :
    executeScript compose ["mve", "mve", "end"] (corridor 2) = (do
        loadScript ["mve", "mve", "end"]
        ["mve", "mve", "end"].forM (runPowered compose)
        compose : Flight Unit) (corridor 2) ∧
      ((executeScript compose ["mve", "mve", "end"]).final
          (corridor 2)).mission.rover =
        some ⟨0, 2⟩ ∧
    executeScript compose ["mve", "mve", "end"] (corridor 1) = (do
        loadScript ["mve", "mve", "end"]
        runPowered compose "mve"
        stopWith .executionLimit : Flight Unit) (corridor 1) ∧
      ((executeScript compose ["mve", "mve", "end"]).final
          (corridor 1)).mission.rover =
        some ⟨0, 1⟩ := by
  refine ⟨?_, by decide +kernel, ?_, by decide +kernel⟩
  · exact (last_execution_runs_one_line (corridor 2) _ (by decide +kernel)).1
      (by decide)
  · exact (last_execution_runs_one_line (corridor 1) _ (by decide +kernel)).2 _
      _ rfl (by decide)

end Rover

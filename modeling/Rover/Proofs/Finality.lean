import Rover.Proofs.Cargo
import Rover.Proofs.ScriptRun
import Rover.Proofs.Termination

namespace Rover

open Flight

namespace Flight

variable {α β : Type} {x : Flight α} {w : World}

/-- The flight ends without returning: it exits, or something goes wrong. -/
def Breaks (x : Flight α) (w : World) : Prop :=
  ∃ h w', x w = .error h w' ∧ h ≠ .stalled

def Delivers (x : Flight α) (w : World) : Prop :=
  ∃ entries, (x.final w).console.log = entries ++ w.console.log ∧
    Delivered entries

theorem Yields.breaks {past : List Entry}
    (hx : x.Yields w (fun _ _ => False) (Proceeds past)) :
    x.Breaks w := by
  obtain ⟨h, w', hrun, hend⟩ := hx.exists_error
  exact ⟨h, w', hrun, hend.halt⟩

theorem Yields.returns_iff {p : Prop}
    (hx : x.Yields w (fun _ _ => p) fun _ _ => ¬p) :
    x.returns w = true ↔ p := by
  unfold Flight.returns
  cases hrun : x w with
  | ok a w' => exact iff_of_true rfl (hx.ok hrun)
  | error h w' => exact iff_of_false Bool.false_ne_true (hx.error hrun)

theorem Yields.not_returns
    (hx : x.Yields w (fun _ _ => False) fun _ _ => True) :
    x.returns w = false := by
  have hreturns : x.returns w = true ↔ False :=
    (hx.mono (fun _ _ h => h) fun _ _ _ => id).returns_iff
  simpa using hreturns

theorem Breaks.never (hx : x.Breaks w) :
    x.Yields w (fun _ _ => False) fun _ _ => True := by
  obtain ⟨h, w', hrun, -⟩ := hx
  exact yields_of_run (fun a w' hok => by cases hrun.symm.trans hok)
    fun _ _ _ => trivial

/-- What returns within a frame has delivered nothing, so what has delivered
does not return. -/
theorem bind_of_delivers
    {x : Flight Unit} (hframe : x.Yields w (fun _ => Frame w) fun _ _ => True)
    (hdelivers : x.Delivers w) (rest : Flight Unit) : (do x; rest) w = x w := by
  cases hrun : x w with
  | error h w' => exact bind_of_error hrun
  | ok _ w' =>
    obtain ⟨entries, hlog, e, he, hdelivery⟩ := hdelivers
    obtain ⟨entries', hlog', hroutine⟩ := (hframe.ok hrun).log
    rw [Flight.final, hrun] at hlog
    cases List.append_cancel_right (hlog.symm.trans hlog')
    cases (isDelivery_of_routine (hroutine e he).1).symm.trans hdelivery

theorem awaitUnlock_unlocks (patience : Nat) (hlocked : w.mission.locked = true)
    (hunlock : w.console.unlockIn = patience + 1) :
    (awaitUnlock (patience + 1)).Yields w
      (fun _ w' => w'.mission.locked = false ∧
      w'.console.inputs = w.console.inputs) fun _ _ => False := by
  induction patience generalizing w with
  | zero =>
    have hdown : countDown (w.note .wait) = { w.note .wait with
        console.unlockIn := 0, mission.locked := false } := by
      rw [countDown]
      simp [World.note, hunlock]
    rw [awaitUnlock, yields_bind, yields_mission, if_pos hlocked, yields_bind,
      yields_record, yields_bind, yields_modify, hdown]
    exact awaitUnlock_unlocked _ rfl ⟨rfl, rfl⟩
  | succ patience ih =>
    have hdown : countDown (w.note .wait) =
        { w.note .wait with console.unlockIn := patience + 1 } := by
      rw [countDown]
      simp [World.note, hunlock]
    rw [awaitUnlock, yields_bind, yields_mission, if_pos hlocked, yields_bind,
      yields_record, yields_bind, yields_modify, hdown]
    exact ih hlocked rfl

theorem prompt_unlocks (hlocked : w.mission.locked = true)
    (hunlock : w.console.unlockIn ≠ 0) :
    ∃ w', w'.mission.locked = false ∧ w'.console.inputs = w.console.inputs ∧
      ∀ question, prompt question w = prompt question w' := by
  obtain ⟨patience, hpatience⟩ := Nat.exists_eq_succ_of_ne_zero hunlock
  have hawait := awaitUnlock_unlocks patience hlocked hpatience
  cases hrun : awaitUnlock (patience + 1) w with
  | error h w' => exact (hawait.error hrun).elim
  | ok _ w' =>
    obtain ⟨hlocked', hinputs⟩ := hawait.ok hrun
    refine ⟨w', hlocked', hinputs, fun question => ?_⟩
    -- Both ask from `w'`: one after waiting, the other at once.
    change (awaitUnlock w.console.unlockIn >>= fun _ => _) w =
      (awaitUnlock w'.console.unlockIn >>= fun _ => _) w'
    rw [hpatience]
    change EStateM.bind _ _ w = EStateM.bind _ _ w'
    rw [EStateM.bind, EStateM.bind, hrun, awaitUnlock_eq hlocked']

end Flight

section Scripts

variable {w : World} {script : List String}

private theorem readScript_congr {w' : World}
    (hinputs : w'.console.inputs = w.console.inputs)
    (hprompt : ∀ question, prompt question w = prompt question w') :
    readScript w = readScript w' := by
  change readLines (w.console.inputs.length + 1) 1 w =
    readLines (w'.console.inputs.length + 1) 1 w'
  rw [hinputs, readLines]
  exact bind_congr_world (hprompt _)

private theorem compose_unlocks (hlocked : w.mission.locked = true)
    (hunlock : w.console.unlockIn ≠ 0) :
    ∃ w', w'.mission.locked = false ∧ compose w = compose w' := by
  obtain ⟨w', hlocked', hinputs, hprompt⟩ := prompt_unlocks hlocked hunlock
  refine ⟨w', hlocked', ?_⟩
  rw [compose_eq, compose_eq]
  exact bind_congr_world (readScript_congr hinputs hprompt)

private theorem compose_stalls (hlocked : w.mission.locked = true)
    (hunlock : w.console.unlockIn = 0) :
    compose w = .error .stalled w := by
  have hread : readScript w = .error .stalled w := by
    change readLines (w.console.inputs.length + 1) 1 w = _
    rw [readLines]
    exact bind_of_error (prompt_stalls hlocked hunlock _)
  rw [compose_eq]
  exact bind_of_error hread

private theorem supplied_now (w : World) :
    Supplied w.console.log (w.console.inputs.length + 1) w :=
  ⟨Nat.lt_succ_self _, unhindered_refl _⟩

private theorem compose_breaks_iff (w : World) :
    compose.Breaks w ↔ ¬(w.mission.locked = true ∧ w.console.unlockIn = 0) := by
  constructor
  · rintro ⟨h, w', hrun, hstalled⟩ ⟨hlocked, hunlock⟩
    cases hrun.symm.trans (compose_stalls hlocked hunlock)
    exact hstalled rfl
  · intro hopen
    by_cases hlocked : w.mission.locked = true
    · obtain ⟨w', hlocked', heq⟩ :=
        compose_unlocks hlocked fun hunlock => hopen ⟨hlocked, hunlock⟩
      obtain ⟨h, w'', hrun, hhalt⟩ :=
        (compose_supplied (supplied_now w') hlocked').breaks
      exact ⟨h, w'', heq.trans hrun, hhalt⟩
    · exact (compose_supplied (supplied_now w) (by simpa using hlocked)).breaks

private theorem compose_never_returns (w : World) :
    compose.Yields w (fun _ _ => False) fun _ _ => True := by
  by_cases hstuck : w.mission.locked = true ∧ w.console.unlockIn = 0
  · have hrun := compose_stalls hstuck.1 hstuck.2
    exact yields_of_run (fun a w' hok => by cases hrun.symm.trans hok)
      fun _ _ _ => trivial
  · exact ((compose_breaks_iff w).2 hstuck).never

private theorem executeScript_never_returns (hscript : script ≠ []) :
    (executeScript compose script).Yields w (fun _ _ => False)
      fun _ _ => True := by
  have hnever : (executeScript compose script).Yields w (fun _ _ => False)
      (Proceeds w.console.log) := by
    apply (conduct_supplied w.console.log).executeScript
    · exact fun w hw hlocked => compose_supplied hw hlocked
    · exact (supplied_now w).note nofun
    · exact fun hempty => absurd hempty hscript
  exact hnever.mono (fun _ _ h => h) fun _ _ _ => trivial

private theorem executeScript_nil (hremaining : 0 ≤ w.mission.remaining) :
    (executeScript compose []).Yields w (fun _ _ => w.mission.executions ≤ 1)
      fun _ _ => ¬w.mission.executions ≤ 1 := by
  have hsize : w.mission.sizeOfScript [] = 0 := by
    simp [Mission.sizeOfScript, scriptLength]
  have hfits : w.mission.Fits [] := by
    rw [Mission.Fits, hsize]
    exact hremaining
  apply executeScript_of_fits hfits
  refine loadScript_yields (fun w₁ hw₁ => ?_) fun hhidden => ?_
  · rw [yields_bind]
    refine (yields_pure PUnit.unit).2 ?_
    rw [yields_bind, yields_mission]
    refine yields_ite (fun hleft => ?_) fun hleft => ?_
    · exact (compose_never_returns w₁).mono (fun _ _ h => h.elim)
        fun _ _ _ => by
        omega
    · exact (yields_pure _).2 (by omega)
  · have hshow : Numeral.isShowable 0 = true :=
      Numeral.isShowable_of_lt (by omega)
    simp [hsize, Message.isShowable, Message.numbers, hshow] at hhidden

private theorem executeScript_rejected (hfits : ¬w.mission.Fits script) :
    (executeScript compose script).Yields w (fun _ _ => False)
      fun _ _ => True := by
  apply executeScript_of_not_fits hfits
  exact yields_of_run (fun _ w' _ => compose_never_returns w')
    fun _ _ _ => trivial

private theorem executeScript_returns_iff (script : List String) (w : World) :
    (executeScript compose script).returns w = true ↔
      script = [] ∧ w.mission.executions ≤ 1 ∧ 0 ≤ w.mission.remaining := by
  apply Yields.returns_iff
  by_cases hscript : script = []
  · subst hscript
    by_cases hremaining : 0 ≤ w.mission.remaining
    · refine (executeScript_nil hremaining).mono
        (fun _ _ hlast => ⟨rfl, hlast, hremaining⟩) ?_
      exact fun _ _ hlast h => hlast h.2.1
    · refine (executeScript_rejected ?_).mono (fun _ _ h => h.elim)
        fun _ _ _ h => hremaining h.2.2
      rw [Mission.Fits]
      simpa [Mission.sizeOfScript, scriptLength] using hremaining
  · exact (executeScript_never_returns hscript).mono (fun _ _ h => h.elim)
      fun _ _ _ h =>
      hscript h.1

end Scripts

theorem Instruction.parse_deliver :
    Instruction.parse "drp" = .command .deliver :=
  Instruction.parse_word .deliver

/-- A delivery made somewhere in an instruction or in the lines of a script is
the last thing that they do: whatever was to follow, in a loop, in the script or
in the sector, does not. -/
theorem abandoned_script_is_never_resumed :
    (∀ w : World, compose.returns w = false ∧
      (compose.Breaks w ↔
        ¬(w.mission.locked = true ∧ w.console.unlockIn = 0))) ∧
    (∀ w : World, (startSector compose).Breaks w ∧ orient.Breaks w ∧
      beginCampaign.Breaks w) ∧
    (∀ w : World, w.mission.AtBase →
      ((Instruction.parse "drp").run (startSector compose)).Breaks w) ∧
    (∀ (w : World) (script : List String),
      (executeScript compose script).returns w = true ↔
      script = [] ∧ w.mission.executions ≤ 1 ∧ 0 ≤ w.mission.remaining) ∧
    (∀ (w : World) (i : Instruction), (i.run (startSector compose)).Delivers w →
      ∀ rest : Flight Unit,
        (do i.run (startSector compose); rest : Flight Unit) w =
          i.run (startSector compose) w) ∧
    ∀ (w : World) (lines : List String),
        (lines.forM (runLine compose)).Delivers w →
      ∀ rest : Flight Unit,
        (do lines.forM (runLine compose); rest : Flight Unit) w =
          lines.forM (runLine compose) w := by
  refine ⟨fun w => ⟨(compose_never_returns w).not_returns,
      compose_breaks_iff w⟩, fun w => ?_, fun w hw => ?_,
    fun w script => executeScript_returns_iff script w, ?_, ?_⟩
  · have hw := supplied_now w
    exact ⟨(startSector_supplied hw).breaks, (orient_supplied hw).breaks,
      (beginCampaign_supplied hw).breaks⟩
  · have hnever : ((Instruction.parse "drp").run (startSector compose)).Yields w
        (fun _ _ => False) fun _ _ => True := by
      rw [Instruction.parse_deliver]
      exact (deliver_command_delivers hw).mono (fun _ _ h => h)
        fun _ _ _ => trivial
    exact ((hnever.and (run_supplied (supplied_now w) _)).mono
        (fun _ _ h => h.1) fun _ _ h => h.2).breaks
  · exact fun w i hdelivers => bind_of_delivers (run_frame i w) hdelivers
  · exact fun w lines hdelivers =>
      bind_of_delivers (runLines_frame lines w) hdelivers

def homecoming : World where
  mission := { (Mission.deploy {} [["[R]", "[X]"]]) with
    block := "[B]", onboard := true }
  console := { inputs := ["n"] }
  atlas := ⟨[]⟩

theorem homecoming_is_final :
    homecoming.mission.AtBase ∧
    ((Instruction.parse "drp").run (startSector compose)).Breaks homecoming ∧
    (["for 3 >> drp, mve"].forM (runLine compose)).Delivers homecoming ∧
    (do
      ["for 3 >> drp, mve"].forM (runLine compose)
      ["mve", "end"].forM (runLine compose) : Flight Unit) homecoming =
        ["for 3 >> drp, mve"].forM (runLine compose) homecoming ∧
    ((["for 3 >> drp, mve"].forM (runLine compose)).final
        homecoming).mission.rover =
      some ⟨0, 0⟩ := by
  have hbase : homecoming.mission.AtBase := ⟨rfl, by decide +kernel⟩
  have hdelivers : (["for 3 >> drp, mve"].forM (runLine compose)).Delivers
      homecoming := by
    refine ⟨_, (List.append_nil _).symm, ?_⟩
    decide +kernel
  obtain ⟨-, -, hdrop, -, -, hlines⟩ := abandoned_script_is_never_resumed
  exact ⟨hbase, hdrop _ hbase, hdelivers, hlines _ _ hdelivers _,
    by decide +kernel⟩

end Rover

import Rover.Campaign
import Rover.Proofs.Counts

/-!
One induction for whole campaigns.  A mission alternates between entering a
sector, writing a script and running it; an assertion for each of these, kept by
every step between them, holds in every run, and none of the runs returns.
-/

namespace Rover

open Flight

namespace World

def readLine (w : World) (number : Nat) (line : String) (rest : List String) :
    World :=
  (w.hear (.scriptLine number) rest).alter
    fun m => { m with scriptSize := m.sizeOf line }

def refuse (w : World) (script : List String) : World :=
  (w.alter fun m =>
    { m with
      scriptSize := m.sizeOfScript script,
      executions := m.executions - 1 }).note
      (.say .memoryOverflow)

theorem refuse_mission (w : World) (script : List String) :
    (w.refuse script).mission =
      { w.mission with
        scriptSize := w.mission.sizeOfScript script
        executions := w.mission.executions - 1 } := rfl

def store (w : World) (script : List String) : World :=
  w.alter fun m =>
    { m with
      scriptSize := m.sizeOfScript script
      executions := m.executions - 1
      remaining := m.remaining - m.sizeOfScript script }

def land (w : World) (executions memory battery : Int) (map : Grid) : World :=
  w.alter fun m =>
    { m with
      executions, memory, remaining := memory, battery, grid := [] }.deploy map

end World

variable {post : Unit → World → Prop} {halted : Halt → World → Prop} {w : World}

theorem unlocking_approachSector : Unlocking approachSector := by
  unfold approachSector
  iterate 6 refine Quiet.bind_unlocking (by simp) fun _ => ?_
  refine unlocking_bind (unlocking_loadBar _ _) fun _ => ?_
  iterate 2 refine quiet_bind (by simp) fun _ => ?_
  refine quiet_draw_bind (by decide) fun lot hlot => ?_
  have hshow : Numeral.isShowable (10 + lot) = true :=
    Numeral.isShowable_of_lt (by omega)
  have hmessage : (Message.sectorLocked (10 + lot)).isShowable = true := by
    simp [Message.isShowable, Message.numbers, hshow]
  refine quiet_bind (quiet_say hmessage rfl) fun _ => ?_
  iterate 2 refine quiet_bind (by simp) fun _ => ?_
  exact quiet_millis _

theorem loadSector_yields (hmissing : w.atlas.sector? w.mission.level = none →
      halted (.fault (.missingSector w.mission.level)) w)
    (hfield : ∀ sector field m, w.atlas.sector? w.mission.level = some sector →
      (sector.executions = none ∨
      sector.memory = none ∨ sector.battery = none ∨ sector.map = none) →
      (m.battery = w.mission.battery ∨ sector.battery = some m.battery) →
      halted (.fault (.missingField field)) (w.alter fun _ => m))
    (hland : ∀ sector executions memory battery map,
      w.atlas.sector? w.mission.level = some sector →
      sector.executions = some executions → sector.memory = some memory →
      sector.battery = some battery → sector.map = some map →
      showMap.Yields (w.land executions memory battery map) post halted) :
    loadSector.Yields w post halted := by
  simp only [loadSector, yields_bind, yields_mission, yields_get]
  refine yields_ofOption (fun sector hsector => ?_) hmissing
  refine yields_ofOption (fun executions hexecutions => ?_) fun h => ?_
  rotate_left
  · exact hfield sector _ w.mission hsector (Or.inl h) (Or.inl rfl)
  rw [yields_update]
  refine yields_ofOption (fun memory hmemory => ?_) fun h => ?_
  rotate_left
  · exact hfield sector _ _ hsector (Or.inr (Or.inl h)) (Or.inl rfl)
  rw [yields_update]
  refine yields_ofOption (fun battery hbattery => ?_) fun h => ?_
  rotate_left
  · exact hfield sector _ _ hsector (Or.inr (Or.inr (Or.inl h))) (Or.inl rfl)
  rw [yields_update]
  refine yields_ofOption (fun map hmap => ?_) fun h => ?_
  rotate_left
  · exact hfield sector _ _ hsector (Or.inr (Or.inr (Or.inr h)))
      (Or.inr hbattery)
  rw [yields_update]
  exact hland sector executions memory battery map hsector hexecutions
    hmemory hbattery hmap

theorem loadSector_unlocked (hlocked : w.mission.locked = false) :
    loadSector.Yields w (fun _ w' => w'.mission.locked = false)
      fun _ _ => True := by
  refine loadSector_yields (fun _ => trivial) (fun _ _ _ _ _ _ => trivial) ?_
  intro sector executions memory battery map _ _ _ _ _
  exact showMap_yields (fun w' h => h.unlocked hlocked) fun _ _ _ => trivial

theorem startSector_yields {compose : Flight Unit} {entering : World → Prop}
    (hsteady : Steady entering) (hw : entering w)
    (hload : ∀ w, entering w → w.mission.locked = false →
      loadSector.Yields w (fun _ w' => compose.Yields (w'.note
      (.say (.controlGranted w'.mission.operatorName))) post halted) halted) :
    (startSector compose).Yields w post halted := by
  simp only [startSector, yields_bind, yields_mission]
  refine unlocking_approachSector.yields fun _ w₁ h₁ hlocked => ?_
  refine (hload w₁ (hsteady _ _ h₁ hw) hlocked).imp fun _ w₂ hw₂ => ?_
  exact say_yields (fun _ => hw₂) fun h => by cases h

def Fault.IsLoop : Fault → Prop :=
  Endures.RefusesCount Fault.IsLength

section Script

variable {running : World → Prop} {compose : Flight Unit} {script : List String}

theorem parse_yields (hrun : Turnwise (startSector compose) running halted)
    (hcount : ∀ cause w, cause.IsLoop → running w → halted (.fault cause) w)
    (line : String) (hw : running w) :
    ((Instruction.parse line).run (startSector compose)).Yields w
      (fun _ => running) halted :=
  hrun.run hcount _ w (Instruction.counted_parse line) hw

theorem runLine_yields (hrun : Turnwise (startSector compose) running halted)
    (hstop : ∀ w, running w → halted .exit w)
    (hcount : ∀ cause w, cause.IsLoop → running w → halted (.fault cause) w)
    (line : String) (hw : running w) :
    (runLine compose line).Yields w
      (fun _ w' => running w' ∧ 0 < w'.mission.battery ∧
        0 < w'.mission.executions) halted := by
  have hexit : ∀ {w : World}, running w →
      ∀ w', Interlude w w' → halted .exit w' :=
    fun hw w' h => hstop w' (hrun.steady _ _ h hw)
  have hpowered : (runPowered compose line).Yields w
      (fun _ w' => running w' ∧ 0 < w'.mission.battery) halted := by
    rw [runPowered]
    refine (parse_yields hrun hcount line hw).bind fun _ w₁ hw₁ => ?_
    refine (quiet_millis _).bind_yields fun _ w₂ h₂ => ?_
    have hw₂ := hrun.steady _ _ h₂ hw₁
    rw [yields_bind, yields_mission]
    refine yields_ite (fun _ => ?_) fun hbattery => ?_
    · exact (closing_stopWith rfl rfl).yields (hexit hw₂)
    · exact (yields_pure _).2 ⟨hw₂, Int.not_le.1 hbattery⟩
  rw [runLine]
  refine hpowered.bind fun _ w₁ hw₁ => ?_
  rw [yields_bind, yields_mission]
  refine yields_ite (fun _ => ?_) fun hexecutions => ?_
  · exact (closing_stopWith rfl rfl).yields (hexit hw₁.1)
  · exact (yields_pure _).2 ⟨hw₁.1, hw₁.2, Int.not_le.1 hexecutions⟩

theorem runLines_yields (hrun : Turnwise (startSector compose) running halted)
    (hstop : ∀ w, running w → halted .exit w)
    (hcount : ∀ cause w, cause.IsLoop → running w → halted (.fault cause) w)
    (hw : running w) :
    (script.forM (runLine compose)).Yields w (fun _ w' => running w' ∧
      (script = [] ∨ 0 < w'.mission.battery ∧
        0 < w'.mission.executions)) halted := by
  cases script with
  | nil => exact (yields_pure PUnit.unit).2 ⟨hw, Or.inl rfl⟩
  | cons line rest =>
    change (runLine compose line >>=
        fun _ => rest.forM (runLine compose)).Yields w _ _
    refine (runLine_yields hrun hstop hcount line hw).bind fun _ w₁ hw₁ => ?_
    refine (yields_forM
        (fun w => running w ∧ 0 < w.mission.battery ∧ 0 < w.mission.executions)
        (fun line _ w hw => runLine_yields hrun hstop hcount line hw.1) hw₁).imp
      fun _ w₂ hw₂ => ⟨hw₂.1, Or.inr hw₂.2⟩

theorem Interlude.fits {w' : World} (h : Interlude w w')
    (script : List String) :
    w'.mission.Fits script ↔ w.mission.Fits script := by
  rw [h.mission]
  rfl

theorem compileScript_yields {post : Int → World → Prop}
    (hcompiled : ∀ w', Interlude (w.note (.say .compiling)) w' →
      w'.mission.locked = false →
      post (w'.mission.sizeOfScript script) (w'.alter fun m =>
        { m with
          scriptSize := m.sizeOfScript script
          executions := m.executions - 1 })) :
    (compileScript script).Yields w post halted := by
  simp only [compileScript, yields_bind, yields_mission, yields_update,
    yields_pure]
  refine say_yields (fun _ => ?_) fun h => by cases h
  exact (unlocking_loadBar _ _).yields fun _ w' h hlocked =>
    hcompiled w' h hlocked

theorem loadScript_stages
    (hloaded : ∀ w₁ w', Interlude (w.note (.say .compiling)) w₁ →
      w₁.mission.locked = false →
      Interlude ((w₁.store script).note
        (.say (.scriptLoaded (w₁.mission.sizeOfScript script)))) w' →
      post () w')
    (hhidden : ∀ w₁, Interlude (w.note (.say .compiling)) w₁ →
      (Message.scriptLoaded (w₁.mission.sizeOfScript script)).isShowable =
        false → halted (.fault .notShowable) (w₁.store script)) :
    (loadScript script).Yields w post halted := by
  simp only [loadScript, yields_bind, yields_update]
  refine compileScript_yields fun w₁ h₁ hlocked => ?_
  refine say_yields (fun _ => ?_) (hhidden w₁ h₁)
  exact (quiet_millis _).yields fun _ w' h' => hloaded w₁ w' h₁ hlocked h'

theorem rejectScript_stages
    (hrejected : ∀ w₁ w', Interlude (w.note (.say .compiling)) w₁ →
      w₁.mission.locked = false →
      (Message.memoryShortage (w₁.mission.sizeOfScript script)
        w₁.mission.remaining).isShowable = true →
      Interlude ((w₁.refuse script).note
        (.say (.memoryShortage (w₁.mission.sizeOfScript script)
          w₁.mission.remaining))) w' → post () w')
    (hhidden : ∀ w₁, Interlude (w.note (.say .compiling)) w₁ →
      w₁.mission.locked = false →
      (Message.memoryShortage (w₁.mission.sizeOfScript script)
        w₁.mission.remaining).isShowable = false →
      halted (.fault .notShowable) (w₁.refuse script)) :
    (rejectScript script).Yields w post halted := by
  simp only [rejectScript, yields_bind, yields_mission]
  refine compileScript_yields fun w₁ h₁ hlocked => ?_
  refine say_yields (fun _ => ?_) fun h => by cases h
  refine say_yields (fun hshow => ?_) (hhidden w₁ h₁ hlocked)
  exact (quiet_millis _).yields fun _ w' h' =>
    hrejected w₁ w' h₁ hlocked hshow h'

end Script

/-- Assertions on a campaign that is about to enter a sector, to write a script,
has read lines of one, has submitted it or runs it, with at most `n` more
scripts to come.  Each step leads from one to the next. -/
structure Conduct (entering composing running : Nat → World → Prop)
    (reading submitted : Nat → List String → World → Prop)
    (halted : Halt → World → Prop) :
    Prop where
  steadyEntering : ∀ n, Steady (entering n)
  steadyComposing : ∀ n, Steady (composing n)
  steadyReading : ∀ n script, Steady (reading n script)
  steadySubmitted : ∀ n script, Steady (submitted n script)
  load : ∀ n w, entering n w →
    loadSector.Yields w (fun _ w' =>
      composing n (w'.note (.say (.controlGranted w'.mission.operatorName))))
        halted
  exhausted : ∀ w, composing 0 w → halted .stalled w
  start : ∀ n w, composing (n + 1) w → reading n [] w
  read : ∀ n script w line rest, reading n script w →
    w.console.inputs = line :: rest →
    reading n (script ++ [line]) (w.readLine (script.length + 1) line rest)
  ended : ∀ n script w, reading n script w → w.console.inputs = [] → halted
    (.fault .endOfInput) (w.note (.ask (.scriptLine (script.length + 1))))
  submit : ∀ n script w, reading n script w → script ≠ [] →
    submitted n script (w.note (.say .compiling))
  reject : ∀ n script w, submitted n script w → w.mission.remaining <
    w.mission.sizeOfScript script → composing n ((w.refuse script).note (.say
      (.memoryShortage (w.mission.sizeOfScript script) w.mission.remaining)))
  rejectHidden : ∀ n script w, submitted n script w → (Message.memoryShortage
      (w.mission.sizeOfScript script) w.mission.remaining).isShowable = false →
    halted (.fault .notShowable) (w.refuse script)
  accept : ∀ n script w, submitted n script w → w.mission.sizeOfScript script ≤
    w.mission.remaining → running n ((w.store script).note
      (.say (.scriptLoaded (w.mission.sizeOfScript script))))
  acceptHidden : ∀ n script w, submitted n script w →
    w.mission.sizeOfScript script ≤ w.mission.remaining →
    (Message.scriptLoaded (w.mission.sizeOfScript script)).isShowable = false →
    halted (.fault .notShowable) (w.store script)
  run : ∀ n advance,
    (∀ w, entering n w → advance.Yields w (fun _ _ => False) halted) →
    Turnwise advance (fun w => running n w ∧ w.mission.locked = false) halted
  stop : ∀ n w, running n w → halted .exit w
  overrun : ∀ n cause w, running n w → cause.IsLoop → halted (.fault cause) w
  next : ∀ n w, running n w → 0 < w.mission.battery →
    0 < w.mission.executions → composing n w

namespace Conduct

variable {entering composing running : Nat → World → Prop}
  {reading submitted : Nat → List String → World → Prop} {n : Nat}
    {script : List String}
  (h : Conduct entering composing running reading submitted halted)
include h

theorem startSector {next : Flight Unit}
    (hnext : ∀ w, composing n w → w.mission.locked = false →
      next.Yields w (fun _ _ => False) halted) (hw : entering n w) :
    (Rover.startSector next).Yields w (fun _ _ => False) halted := by
  refine startSector_yields (h.steadyEntering n) hw fun w₁ hw₁ hlocked => ?_
  refine ((h.load n w₁ hw₁).and (loadSector_unlocked hlocked)).mono
    (fun _ w₂ hw₂ => ?_) fun _ _ h => h.1
  exact hnext _ hw₂.1 hw₂.2

theorem executeScript {next : Flight Unit}
    (hnext : ∀ w, composing n w → w.mission.locked = false →
      next.Yields w (fun _ _ => False) halted)
    (hw : submitted n script (w.note (.say .compiling)))
    (hempty : script = [] → ∀ w, running n w → w.mission.locked = false →
      (if 0 < w.mission.executions then next else pure ()).Yields w
        post halted) :
    (Rover.executeScript next script).Yields w post halted := by
  have hleave : ∀ w, composing n w → w.mission.locked = false →
      next.Yields w post halted :=
    fun w hw hlocked => (hnext w hw hlocked).of_never
  have hrun := h.run n _ fun w hw => h.startSector hnext hw
  have hcompiled : ∀ w₁, Interlude (w.note (.say .compiling)) w₁ →
      submitted n script w₁ :=
    fun w₁ h₁ => h.steadySubmitted n script _ _ h₁ hw
  rw [Rover.executeScript, yields_bind, yields_mission]
  refine yields_ite (fun hfits => ?_) fun hfits => ?_
  · rw [yields_bind]
    refine loadScript_stages (fun w₁ w₂ h₁ hlocked h₂ => ?_)
      fun w₁ h₁ => ?_
    · have hw₁ := h.accept n script w₁ (hcompiled w₁ h₁)
        ((h₁.fits script).2 hfits)
      have hw₂ := hrun.steady _ _ h₂ ⟨hw₁, hlocked⟩
      refine (runLines_yields hrun (fun w hw => h.stop n w hw.1)
        (fun cause w hc hw => h.overrun n cause w hw.1 hc) hw₂).bind
        fun _ w₃ hw₃ => ?_
      rw [yields_bind, yields_mission]
      rcases hw₃ with ⟨hw₃, hscript | ⟨hbattery, hexecutions⟩⟩
      · exact hempty hscript w₃ hw₃.1 hw₃.2
      · rw [if_pos hexecutions]
        exact hleave w₃ (h.next n w₃ hw₃.1 hbattery hexecutions) hw₃.2
    · exact h.acceptHidden n script w₁ (hcompiled w₁ h₁)
        ((h₁.fits script).2 hfits)
  · rw [yields_bind]
    refine rejectScript_stages (fun w₁ w₂ h₁ hlocked _ h₂ => ?_)
      fun w₁ h₁ _ => h.rejectHidden n script w₁ (hcompiled w₁ h₁)
    have hless := Int.not_le.1 (mt (h₁.fits script).1 hfits)
    have hw₁ := h.reject n script w₁ (hcompiled w₁ h₁) hless
    exact hleave w₂ (h.steadyComposing n _ _ h₂ hw₁) (h₂.unlocked hlocked)

theorem readLines {limit : Nat} (hlimit : w.console.inputs.length < limit)
    (hlocked : w.mission.locked = false) (hw : reading n script w) :
    (Rover.readLines limit (script.length + 1)).Yields w
      (fun lines w' => lines ≠ [] ∧ reading n (script ++ lines) w') halted := by
  -- The limit exceeds the number of lines left, and each round takes one of
  -- them.
  induction limit generalizing w script with
  | zero => omega
  | succ limit ih =>
    rw [Rover.readLines, yields_bind]
    refine prompt_yields hlocked (fun w₁ line rest h₁ hinputs => ?_)
      fun w₁ h₁ hinputs => ?_
    · rw [yields_bind, yields_update]
      have hw₁ := h.read n script w₁ line rest
        (h.steadyReading n script _ _ h₁ hw) hinputs
      refine yields_ite (fun _ => ?_) fun _ => ?_
      · exact (yields_pure _).2 ⟨by simp, hw₁⟩
      · have hrest : rest.length < limit := by
          rw [← h₁.inputs, hinputs, List.length_cons] at hlimit
          omega
        rw [yields_bind]
        have hlines := ih (w := w₁.readLine (script.length + 1) line rest) hrest
          (h₁.unlocked hlocked) hw₁
        rw [List.length_append, List.length_singleton] at hlines
        refine hlines.imp fun lines w₂ hw₂ => ?_
        refine (yields_pure _).2 ⟨by simp, ?_⟩
        simpa using hw₂.2
    · exact h.ended n script w₁ (h.steadyReading n script _ _ h₁ hw) hinputs

theorem composeWithin (n : Nat) {w : World} (hw : composing n w)
    (hlocked : w.mission.locked = false) :
    (Rover.composeWithin n).Yields w (fun _ _ => False) halted := by
  induction n generalizing w with
  | zero =>
    rw [Rover.composeWithin, yields_throw]
    exact h.exhausted w hw
  | succ n ih =>
    rw [Rover.composeWithin, readScript, yields_bind, yields_bind, yields_get]
    refine (h.readLines (Nat.lt_succ_self _) hlocked (h.start n w hw)).imp
      fun script w₁ hw₁ => ?_
    apply h.executeScript (fun w hw hlocked => ih hw hlocked)
      (h.submit n script w₁ hw₁.2 hw₁.1)
    exact fun hscript => absurd hscript hw₁.1

theorem compose (hw : composing (w.console.inputs.length + 1) w)
    (hlocked : w.mission.locked = false) :
    Rover.compose.Yields w (fun _ _ => False) halted := by
  rw [Rover.compose, yields_bind, yields_get]
  exact h.composeWithin _ hw hlocked

end Conduct

theorem quiet_explainControls : Quiet explainControls := by
  refine quiet_forM fun item _ => ?_
  refine quiet_bind (quiet_tell _ _) fun _ => ?_
  exact quiet_bind (quiet_millis _) fun _ => quiet_record rfl

theorem unlocking_openTerminal : Unlocking openTerminal := by
  unfold openTerminal
  iterate 4 refine Quiet.bind_unlocking (by simp) fun _ => ?_
  exact unlocking_bind (unlocking_loadBar _ _) fun _ => quiet_record rfl

theorem unlocking_greet (name : String) : Unlocking (greet name) := by
  unfold greet
  refine Quiet.bind_unlocking (quiet_record rfl) fun _ => ?_
  iterate 2 refine Quiet.bind_unlocking (by simp) fun _ => ?_
  refine Quiet.bind_unlocking (quiet_say rfl rfl) fun _ => ?_
  iterate 2 refine Quiet.bind_unlocking (by simp) fun _ => ?_
  refine unlocking_bind (unlocking_loadBar _ _) fun _ => ?_
  refine quiet_bind (quiet_say rfl rfl) fun _ => ?_
  iterate 9 refine quiet_bind (by simp) fun _ => ?_
  exact quiet_record rfl

section Opening

variable {before : World → Prop} (hsteady : Steady before)
  (hhear : ∀ question line rest w,
    (∀ number, question ≠ .scriptLine number) → before w →
    w.console.inputs = line :: rest → before (w.hear question rest))
  (hend : ∀ question w, (∀ number, question ≠ .scriptLine number) → before w →
    w.console.inputs = [] →
    halted (.fault .endOfInput) (w.note (.ask question)))
  (hstart : ∀ w, before w → (startSector compose).Yields w post halted)
include hsteady hhear hend hstart

theorem orient_yields (hw : before w) : orient.Yields w post halted := by
  unfold orient
  refine quiet_explainControls.bind_yields fun _ w₁ h₁ => ?_
  have hw₁ := hsteady _ _ h₁ hw
  rw [yields_bind]
  refine ask_yields (fun line rest hinputs => ?_)
    fun hinputs => hend _ w₁ nofun hw₁ hinputs
  exact hstart _ (hhear _ line rest w₁ nofun hw₁ hinputs)

theorem beginCampaign_yields (hname : ∀ w name, before w →
      before (w.alter ({ · with operator := some name }))) (hw : before w) :
    beginCampaign.Yields w post halted := by
  have hask : ∀ {question : Prompt} {f : String → Flight Unit} {w : World},
      (∀ number, question ≠ .scriptLine number) → before w → w.mission.locked =
      false → (∀ line w, before w → (f line).Yields w post halted) →
      (prompt question >>= f).Yields w post halted := by
    intro question f w hquestion hw hlocked hf
    rw [yields_bind]
    refine prompt_yields hlocked (fun w₁ line rest h₁ hinputs => ?_)
      fun w₁ h₁ hinputs => ?_
    · exact hf line _
        (hhear _ line rest w₁ hquestion (hsteady _ _ h₁ hw) hinputs)
    · exact hend _ w₁ hquestion (hsteady _ _ h₁ hw) hinputs
  unfold beginCampaign
  rw [yields_bind]
  refine unlocking_openTerminal.yields fun _ w₁ h₁ hlocked₁ => ?_
  refine hask nofun (hsteady _ _ h₁ hw) hlocked₁ fun name w₂ hw₂ => ?_
  rw [yields_bind, yields_update, yields_bind]
  refine (unlocking_greet name).yields fun _ w₃ h₃ hlocked₃ => ?_
  refine hask nofun
    (hsteady _ _ h₃ (hname w₂ name hw₂)) hlocked₃ fun answer w₄ hw₄ => ?_
  refine (quiet_record rfl).bind_yields fun _ w₅ h₅ => ?_
  have hw₅ := hsteady _ _ h₅ hw₄
  refine yields_ite (fun _ => ?_) fun _ => ?_
  · refine (quiet_tell _ _).bind_yields fun _ w₆ h₆ => ?_
    refine (quiet_loadBar _ _).bind_yields fun _ w₇ h₇ => ?_
    exact hstart w₇ (hsteady _ _ (h₆.trans h₇) hw₅)
  · refine (quiet_tell _ _).bind_yields fun _ w₆ h₆ => ?_
    refine (quiet_loadBar _ _).bind_yields fun _ w₇ h₇ => ?_
    exact orient_yields hsteady hhear hend hstart
      (hsteady _ _ (h₆.trans h₇) hw₅)

end Opening

end Rover

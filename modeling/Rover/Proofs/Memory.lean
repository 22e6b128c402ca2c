import Rover.Proofs.Budget

/-!
The memory of a sector.  The log of a campaign, together with the lines that
were typed, tells which scripts were loaded; the memory in use is the size of
these scripts, whatever was rejected between them.
-/

namespace Rover

open Flight

/-- What a log tells about scripts: how many questions were asked, which script
is being written or was written last, which ones were loaded since the sector
was entered (the latest first), and whether the last one runs, that is, was
loaded with neither the next one begun nor the sector left. -/
structure Ledger where
  asked : Nat := 0
  script : List String := []
  loaded : List (List String) := []
  running : Bool := false

/-- The ledger after an event.  The answer to a question is the next of the
lines typed. -/
def Ledger.enter (inputs : List String) (l : Ledger) : Event → Ledger
  | .ask (.scriptLine number) =>
    { l with
      asked := l.asked + 1
      script := (if number = 1 then [] else l.script) ++
        [inputs.getD l.asked ""]
      running := false }
  | .ask .nextSector =>
    { l with
      asked := l.asked + 1
      running := l.running && !decide (Affirms (inputs.getD l.asked "")) }
  | .ask _ => { l with asked := l.asked + 1 }
  | .say (.controlGranted _) => { l with loaded := [] }
  | .say (.scriptLoaded _) =>
    { l with loaded := l.script :: l.loaded, running := true }
  | _ => l

def replay (inputs : List String) (log : List Entry) : Ledger :=
  log.foldr (fun e l => l.enter inputs e.event) {}

structure Account (chart : Atlas) (l : Ledger) (m : Mission) : Prop where
  supply : ∃ sector, chart.sector? m.level = some sector ∧
    sector.memory = some m.memory
  bounds : 0 ≤ m.remaining ∧ m.remaining ≤ m.memory
  used : m.memory - m.remaining = 8 * scriptLength l.loaded.flatten

structure Occupies (l : Ledger) (m : Mission) : Prop where
  size : m.scriptSize = 8 * scriptLength l.script
  fits : m.scriptSize ≤ m.memory

def Backed (chart : Atlas) (l : Ledger) (m : Mission) : Prop :=
  l.running = true → Account chart l m ∧ Occupies l m

structure Audited (chart : Atlas) (inputs : List String) (e : Entry)
    (earlier : List Entry) :
    Prop where
  prompt : e.isScriptPrompt = true →
    Account chart (replay inputs earlier) e.mission
  running : Backed chart (replay inputs earlier) e.mission
  delivery : e.isDelivery = true → (replay inputs earlier).running = true

section Ledger

variable {chart : Atlas} {inputs : List String} {l : Ledger} {m m' : Mission}
  {log : List Entry}

private theorem replay_cons (inputs : List String) (e : Entry)
    (log : List Entry) :
    replay inputs (e :: log) = (replay inputs log).enter inputs e.event :=
  rfl

private theorem enter_routine {event : Event} (h : event.isRoutine = true) :
    l.enter inputs event = l := by
  cases event with
  | ask question => cases h
  | say message => cases message <;> first | rfl | cases h
  | _ => rfl

private theorem enter_ask_idle (h : l.running = false) (inputs : List String)
    (question : Prompt) :
    (l.enter inputs (.ask question)).running = false := by
  cases question with
  | scriptLine number => rfl
  | nextSector => rw [Ledger.enter, h, Bool.false_and]
  | _ => exact h

theorem Account.retains (h : m.Retains m') (hm : Account chart l m) :
    Account chart l m' := by
  rw [h.fields]
  exact { hm with }

theorem Backed.retains (h : m.Retains m') (hm : Backed chart l m) :
    Backed chart l m' := by
  intro hrunning
  obtain ⟨haccount, hoccupies⟩ := hm hrunning
  refine ⟨haccount.retains h, ?_⟩
  rw [h.fields]
  exact { hoccupies with }

private theorem backed_of_idle (h : l.running = false) : Backed chart l m := by
  intro hrunning
  cases h.symm.trans hrunning

private theorem drop_eq_cons {line : String} {rest : List String} {n : Nat}
    (h : inputs.drop n = line :: rest) :
    inputs.getD n "" = line ∧ inputs.drop (n + 1) = rest := by
  refine ⟨?_, ?_⟩
  · rw [List.getD_eq_getElem?_getD, ← List.head?_drop, h]
    rfl
  · rw [← List.tail_drop, h]
    rfl

end Ledger

variable {chart : Atlas} {inputs : List String} {w w' : World}

structure Solvent (chart : Atlas) (inputs : List String) (w : World) :
    Prop where
  log : Chronicle (Audited chart inputs) w.console.log
  running : Backed chart (replay inputs w.console.log) w.mission

/-- A campaign that started with the lines `inputs`, at a point of it that
`phase` describes. -/
structure Tracked (chart : Atlas) (inputs : List String)
    (phase : Ledger → Mission → Prop) (w : World) : Prop
    extends Solvent chart inputs w where
  atlas : w.atlas = chart
  charSize : w.mission.charSize = 8
  lines : w.console.inputs = inputs.drop (replay inputs w.console.log).asked
  phase : phase (replay inputs w.console.log) w.mission

def Lingers (phase : Ledger → Mission → Prop) : Prop :=
  ∀ l m m', m.Retains m' → phase l m → phase l m'

theorem Frame.replay (h : Frame w w') (inputs : List String) :
    Rover.replay inputs w'.console.log = Rover.replay inputs w.console.log := by
  have hkeep : ∀ e log, e.event.isRoutine = true →
      Rover.replay inputs log = Rover.replay inputs w.console.log →
      Rover.replay inputs (e :: log) = Rover.replay inputs w.console.log := by
    intro e log he hlog
    rw [replay_cons, enter_routine he, hlog]
  exact h.history hkeep rfl

theorem Solvent.frame (h : Frame w w') (hw : Solvent chart inputs w) :
    Solvent chart inputs w' where
  log := by
    let history : List Entry → Prop := fun log =>
      Chronicle (Audited chart inputs) log ∧
      replay inputs log = replay inputs w.console.log
    have hkeep : ∀ e log, e.event.isRoutine = true →
        w.mission.Retains e.mission → history log → history (e :: log) := by
      rintro e log he hmission ⟨hlog, hreplay⟩
      refine ⟨chronicle_cons.2 ⟨⟨?_, ?_, ?_⟩, hlog⟩, ?_⟩
      · intro hprompt
        cases (routine_entry he).2.1.symm.trans hprompt
      · rw [hreplay]
        exact hw.running.retains hmission
      · intro hdelivery
        cases (isDelivery_of_routine he).symm.trans hdelivery
      · rw [replay_cons, enter_routine he, hreplay]
    exact (h.history_of_retains hkeep ⟨hw.log, rfl⟩).1
  running := by
    rw [h.replay]
    exact hw.running.retains h.mission

theorem Solvent.alter (hw : Solvent chart inputs w)
    (hidle : (replay inputs w.console.log).running = false)
    (f : Mission → Mission) :
    Solvent chart inputs (w.alter f) :=
  ⟨hw.log, backed_of_idle hidle⟩

theorem Solvent.note (hw : Solvent chart inputs w) (event : Event)
    (hprompt : Entry.isScriptPrompt ⟨event, w.mission⟩ = true →
      Account chart (replay inputs w.console.log) w.mission)
    (hdelivery : Entry.isDelivery ⟨event, w.mission⟩ = true →
      (replay inputs w.console.log).running = true) (hrunning : Backed chart
      ((replay inputs w.console.log).enter inputs event) w.mission) :
    Solvent chart inputs (w.note event) where
  log := chronicle_cons.2 ⟨⟨hprompt, hw.running, hdelivery⟩, hw.log⟩
  running := hrunning

namespace Tracked

variable {phase phase' : Ledger → Mission → Prop}

theorem frame (hphase : Lingers phase) (h : Frame w w')
    (hw : Tracked chart inputs phase w) :
    Tracked chart inputs phase w' where
  toSolvent := hw.toSolvent.frame h
  atlas := h.atlas.trans hw.atlas
  charSize := by
    rw [h.mission.fields]
    exact hw.charSize
  lines := by
    rw [h.replay, h.inputs]
    exact hw.lines
  phase := by
    rw [h.replay]
    exact hphase _ _ _ h.mission hw.phase

theorem steady (hphase : Lingers phase) : Steady (Tracked chart inputs phase) :=
  fun _ _ h => frame hphase (.of_interlude h)

theorem alter (hw : Tracked chart inputs phase w)
    (hidle : (replay inputs w.console.log).running = false)
    {f : Mission → Mission}
    (hsize : (f w.mission).charSize = w.mission.charSize)
    (hphase : phase' (replay inputs w.console.log) (f w.mission)) :
    Tracked chart inputs phase' (w.alter f) where
  toSolvent := hw.toSolvent.alter hidle f
  atlas := hw.atlas
  charSize := hsize.trans hw.charSize
  lines := hw.lines
  phase := hphase

theorem say (hw : Tracked chart inputs phase w) (message : Message)
    (hdelivery : message = .sampleDelivered →
      (replay inputs w.console.log).running = true) (hrunning : Backed chart
      ((replay inputs w.console.log).enter inputs (.say message)) w.mission)
    (hphase : phase'
      ((replay inputs w.console.log).enter inputs (.say message)) w.mission) :
    Tracked chart inputs phase' (w.note (.say message)) where
  toSolvent := by
    refine hw.note _ nofun (fun h => hdelivery ?_) hrunning
    simpa [Entry.isDelivery] using h
  atlas := hw.atlas
  charSize := hw.charSize
  lines := by
    have hasked : ((replay inputs w.console.log).enter inputs
          (.say message)).asked = (replay inputs w.console.log).asked := by
      cases message <;> rfl
    rw [World.note_inputs, World.note_log, replay_cons, hasked]
    exact hw.lines
  phase := hphase

theorem hear (hw : Tracked chart inputs phase w)
    (question : Prompt) {line : String} {rest : List String}
    (hinputs : w.console.inputs = line :: rest)
    (hprompt : Entry.isScriptPrompt ⟨.ask question, w.mission⟩ = true →
      Account chart (replay inputs w.console.log) w.mission)
    (hrunning : Backed chart
      ((replay inputs w.console.log).enter inputs (.ask question)) w.mission)
    (hphase : phase'
      ((replay inputs w.console.log).enter inputs (.ask question)) w.mission) :
    Tracked chart inputs phase' (w.hear question rest) := by
  have hnote := hw.note (.ask question) hprompt nofun hrunning
  have hasked : ((replay inputs w.console.log).enter inputs
        (.ask question)).asked = (replay inputs w.console.log).asked + 1 := by
    cases question <;> rfl
  have hrest : inputs.drop ((replay inputs w.console.log).asked + 1) = rest :=
    (drop_eq_cons (hw.lines.symm.trans hinputs)).2
  constructor
  case toSolvent => exact ⟨hnote.log, hnote.running⟩
  case atlas => exact hw.atlas
  case charSize => exact hw.charSize
  case lines =>
    rw [World.hear_inputs, World.hear_log, replay_cons, hasked, hrest]
  case phase => exact hphase

end Tracked

section Phases

def Landing (chart : Atlas) (l : Ledger) (m : Mission) : Prop :=
  l.running = false ∧ Account chart { l with loaded := [] } m

def Reading (chart : Atlas) (script : List String) (l : Ledger) (m : Mission) :
    Prop :=
  Account chart l m ∧ (script ≠ [] → l.script = script ∧ l.running = false)

def Submitting (chart : Atlas) (script : List String) (l : Ledger)
    (m : Mission) : Prop :=
  Account chart l m ∧ l.script = script ∧ l.running = false

private theorem lingers_idle (running : Bool) :
    Lingers fun l _ => l.running = running :=
  fun _ _ _ _ hl => hl

private theorem lingers_account : Lingers (Account chart) :=
  fun _ _ _ h hl => hl.retains h

private theorem lingers_landing : Lingers (Landing chart) :=
  fun _ _ _ h hl => ⟨hl.1, hl.2.retains h⟩

private theorem lingers_reading (script : List String) :
    Lingers (Reading chart script) :=
  fun _ _ _ h hl => ⟨hl.1.retains h, hl.2⟩

private theorem lingers_submitting (script : List String) :
    Lingers (Submitting chart script) :=
  fun _ _ _ h hl => ⟨hl.1.retains h, hl.2⟩

end Phases

def Atlas.Roomy (atlas : Atlas) : Prop :=
  ∀ level sector memory, atlas.sector? level = some sector →
    sector.memory = some memory →
    0 ≤ memory

section Campaign

private theorem loadSector_tracked (hchart : chart.Roomy)
    (hw : Tracked chart inputs (fun l _ => l.running = false) w) :
    loadSector.Yields w (fun _ w' =>
      Tracked chart inputs (Account chart)
        (w'.note (.say (.controlGranted w'.mission.operatorName))))
      fun _ => Solvent chart inputs := by
  have hfault : ∀ m, Solvent chart inputs (w.alter fun _ => m) :=
    fun m => hw.toSolvent.alter hw.phase _
  refine loadSector_yields (fun _ => hw.toSolvent)
    (fun _ _ m _ _ _ => hfault m) ?_
  intro sector executions memory battery map hsector _ hmemory _ _
  have hland : Tracked chart inputs (Landing chart)
      (w.land executions memory battery map) := by
    refine hw.alter hw.phase rfl ⟨hw.phase, ⟨sector, ?_, hmemory⟩,
      ⟨?_, Int.le_refl _⟩, ?_⟩
    · rw [← hw.atlas]
      exact hsector
    · rw [hw.atlas] at hsector
      exact hchart _ sector memory hsector hmemory
    · exact Int.sub_self memory
  refine showMap_yields (fun w' h => ?_) fun _ w' h => ?_
  · have hw' := Tracked.steady lingers_landing _ w' h hland
    exact hw'.say _ nofun (backed_of_idle hw'.phase.1) hw'.phase.2
  · exact (Tracked.steady lingers_landing _ w' h hland).toSolvent

theorem Tracked.readLine {script : List String} {line : String}
    {rest : List String} (hw : Tracked chart inputs (Reading chart script) w)
    (hinputs : w.console.inputs = line :: rest) :
    Tracked chart inputs (Reading chart (script ++ [line]))
      (w.readLine (script.length + 1) line rest) := by
  -- The first line starts a new script; before it, another one may still be
  -- running.
  obtain ⟨haccount, hscript⟩ := hw.phase
  have hanswer := (drop_eq_cons (hw.lines.symm.trans hinputs)).1
  have hheard : Tracked chart inputs (Submitting chart (script ++ [line]))
      (w.hear (.scriptLine (script.length + 1)) rest) := by
    refine hw.hear _ hinputs (fun _ => haccount) nofun
      ⟨{ haccount with }, ?_, rfl⟩
    change (if script.length + 1 = 1 then [] else _) ++ [_] = _
    rw [hanswer]
    by_cases hempty : script = []
    · simp [hempty]
    · simp [hempty, (hscript hempty).1]
  exact hheard.alter hheard.phase.2.2 rfl ⟨{ haccount with },
    fun _ => hheard.phase.2⟩

theorem Tracked.refuse {script : List String}
    (hw : Tracked chart inputs (Submitting chart script) w) :
    Tracked chart inputs (Submitting chart script) (w.refuse script) := by
  obtain ⟨haccount, hscript, hidle⟩ := hw.phase
  have hcounted : Tracked chart inputs (Submitting chart script)
      (w.alter fun m =>
      { m with
        scriptSize := m.sizeOfScript script,
        executions := m.executions - 1 }) :=
    hw.alter hidle rfl ⟨{ haccount with }, hscript, hidle⟩
  exact Tracked.frame (lingers_submitting script) (.note _ rfl) hcounted

theorem Account.store {l : Ledger} {m m' : Mission} (h : Account chart l m)
    (hsize : m.charSize = 8) (hfits : m.Fits l.script)
    (hm' : m' = { m with
      scriptSize := m.sizeOfScript l.script
      executions := m.executions - 1
      remaining := m.remaining - m.sizeOfScript l.script })
    (inputs : List String) (size : Int) :
    Account chart (l.enter inputs (.say (.scriptLoaded size))) m' ∧
      Occupies (l.enter inputs (.say (.scriptLoaded size))) m' := by
  have hscript : m.sizeOfScript l.script = 8 * scriptLength l.script := by
    rw [Mission.sizeOfScript, hsize, Int.mul_comm]
  have hbounds := h.bounds
  have hused := h.used
  rw [Mission.Fits] at hfits
  rw [hscript] at hfits hm'
  subst hm'
  refine ⟨⟨h.supply, ⟨?_, ?_⟩, ?_⟩, rfl, ?_⟩
  · exact Int.sub_nonneg.2 hfits
  · dsimp only
    omega
  · rw [Ledger.enter, List.flatten_cons, scriptLength_append]
    dsimp only
    omega
  · exact Int.le_trans hfits hbounds.2

theorem Tracked.store {script : List String}
    {size : Int} (hw : Tracked chart inputs (Submitting chart script) w)
    (hfits : w.mission.Fits script) :
    Tracked chart inputs (fun l _ => l.running = true)
      ((w.store script).note (.say (.scriptLoaded size))) := by
  obtain ⟨haccount, rfl, hidle⟩ := hw.phase
  have hstore := haccount.store hw.charSize hfits rfl inputs size
  have hstored : Tracked chart inputs (fun _ _ => True)
    (w.store (replay inputs w.console.log).script) := hw.alter hidle rfl trivial
  exact hstored.say _ nofun (fun _ => hstore) rfl

private theorem running_endures {advance : Flight Unit}
    (hadvance : ∀ w, Tracked chart inputs (fun l _ => l.running = false) w →
      advance.Yields w (fun _ _ => False) fun _ => Solvent chart inputs) :
    Endures advance (Tracked chart inputs fun l _ => l.running = true)
      fun _ => Solvent chart inputs := by
  have hsteady : Steady (Tracked chart inputs fun l _ => l.running = true) :=
    Tracked.steady (lingers_idle true)
  have hquestion : ∀ w, Tracked chart inputs (fun l _ => l.running = true) w →
      Backed chart ((replay inputs w.console.log).enter inputs
        (.ask .nextSector)) w.mission := by
    intro w hw _
    obtain ⟨haccount, hoccupies⟩ := hw.running hw.phase
    exact ⟨{ haccount with }, { hoccupies with }⟩
  refine endures_of_frame (fun w w' => Tracked.frame (lingers_idle true))
    (fun _ w hw => hw.toSolvent) fun w hw hbase => ?_
  apply deliver_atBase hsteady hbase
  · intro w' h
    have hw' := hsteady w w' h hw
    exact hw'.say _ (fun _ => hw'.phase) hw'.running hw'.phase
  · exact fun w hw _ _ => hw.toSolvent
  · exact fun w hw _ => hw.note _ nofun nofun (hquestion w hw)
  · intro w line rest hw hinputs hyes
    have hheard : Tracked chart inputs (fun l _ => l.running = false)
        (w.hear .nextSector rest) := by
      refine hw.hear _ hinputs nofun (hquestion w hw) ?_
      change (_ && !decide (Affirms _)) = false
      rw [(drop_eq_cons (hw.lines.symm.trans hinputs)).1]
      simp [hyes]
    exact hadvance _ (hheard.alter hheard.phase rfl hheard.phase)
  · intro w line rest w' hw hinputs _ h
    have hheard : Tracked chart inputs (fun _ _ => True)
        (w.hear .nextSector rest) :=
      hw.hear _ hinputs nofun (hquestion w hw) trivial
    exact hheard.toSolvent.frame (.of_interlude h)

private theorem conduct_tracked (hchart : chart.Roomy) (inputs : List String) :
    Conduct (fun _ => Tracked chart inputs fun l _ => l.running = false)
      (fun _ => Tracked chart inputs (Account chart))
      (fun _ => Tracked chart inputs fun l _ => l.running = true)
      (fun _ script => Tracked chart inputs (Reading chart script))
      (fun _ script => Tracked chart inputs (Submitting chart script))
      fun _ => Solvent chart inputs := by
  constructor
  case steadyEntering => exact fun _ => Tracked.steady (lingers_idle false)
  case steadyComposing => exact fun _ => Tracked.steady lingers_account
  case steadyReading =>
    exact fun _ script => Tracked.steady (lingers_reading script)
  case steadySubmitted =>
    exact fun _ script => Tracked.steady (lingers_submitting script)
  case load => exact fun _ w hw => loadSector_tracked hchart hw
  case exhausted => exact fun w hw => hw.toSolvent
  case start =>
    exact fun _ w hw => { hw with phase := ⟨hw.phase, fun h => absurd rfl h⟩ }
  case read => exact fun _ script w line rest hw hinputs => hw.readLine hinputs
  case ended =>
    exact fun _ script w hw _ => hw.note _ (fun _ => hw.phase.1) nofun nofun
  case submit =>
    intro _ script w hw hscript
    exact hw.say _ nofun hw.running ⟨hw.phase.1, hw.phase.2 hscript⟩
  case reject =>
    intro _ script w hw _
    exact hw.refuse.say _ nofun hw.refuse.running hw.refuse.phase.1
  case rejectHidden => exact fun _ script w hw _ => hw.refuse.toSolvent
  case accept => exact fun _ script w hw hfits => hw.store hfits
  case acceptHidden =>
    exact fun _ script w hw _ _ => hw.toSolvent.alter hw.phase.2.2 _
  case run =>
    exact fun _ advance hadvance => (running_endures hadvance).unlocked.turnwise
  case stop => exact fun _ w hw => hw.toSolvent
  case overrun => exact fun _ cause w hw _ => hw.toSolvent
  case next =>
    exact fun _ w hw _ _ => { hw with phase := (hw.running hw.phase).1 }

private theorem beginCampaign_tracked (hchart : chart.Roomy)
    (hw : Tracked chart inputs (fun l _ => l.running = false) w) :
    beginCampaign.Yields w (fun _ _ => False)
      fun _ => Solvent chart inputs := by
  have hconduct := conduct_tracked hchart inputs
  apply beginCampaign_yields (Tracked.steady (lingers_idle false)) _ _ _ _ hw
  · intro question line rest w hquestion hw hinputs
    have hidle := enter_ask_idle hw.phase inputs question
    refine hw.hear question hinputs ?_ (backed_of_idle hidle) hidle
    simp [isScriptPrompt_ask hquestion]
  · intro question w hquestion hw _
    have hidle := enter_ask_idle hw.phase inputs question
    refine hw.note _ ?_ nofun (backed_of_idle hidle)
    simp [isScriptPrompt_ask hquestion]
  · intro w hw
    exact hconduct.startSector (n := 0)
      (fun _ hw hlocked => hconduct.compose hw hlocked) hw
  · exact fun w name hw => hw.alter hw.phase rfl hw.phase

end Campaign

private theorem executeScript_rejects {script : List String}
    (hfits : ¬w.mission.Fits script) :
    ∃ w', Rejected script w w' ∧ executeScript compose script w =
      if (Message.memoryShortage
          (w.mission.sizeOfScript script) w.mission.remaining).isShowable
      then compose w' else .error (.fault .notShowable) w' := by
  let shown : Bool :=
    (Message.memoryShortage
        (w.mission.sizeOfScript script) w.mission.remaining).isShowable
  have hreject : (rejectScript script).Yields w
      (fun _ w' => Rejected script w w' ∧ shown = true) fun h w' =>
      h = .fault .notShowable ∧ Rejected script w w' ∧ shown = false :=
    rejectScript_yields (fun w' hshow h => ⟨h, hshow⟩)
      fun w' hhidden h => ⟨rfl, h, hhidden⟩
  rw [executeScript_eq, if_neg hfits]
  cases hrun : rejectScript script w with
  | ok _ w' =>
    obtain ⟨hrejected, hshown⟩ := hreject.ok hrun
    refine ⟨w', hrejected, ?_⟩
    rw [bind_of_ok hrun, if_pos hshown]
  | error _ w' =>
    obtain ⟨rfl, hrejected, hhidden⟩ := hreject.error hrun
    refine ⟨w', hrejected, ?_⟩
    rw [bind_of_error hrun, if_neg (Bool.eq_false_iff.1 hhidden)]

/-- On an atlas without negative memories: whenever a line of a script is asked
for, and while a script runs, the memory is that of the level, and eight bytes
of it are used for every character of the scripts loaded there.  A script that
runs fits the memory, and only such a script makes a delivery, so the amount
that the bonus is paid for is not negative.  A rejected script is not run; the
next question follows, with one execution less. -/
theorem memory_is_accounted_for (console : Console) (atlas : Atlas)
    (hlog : console.log = []) (hatlas : atlas.Roomy) :
    (∀ e earlier,
      e :: earlier <:+ (beginCampaign.final { console, atlas }).console.log →
      (e.isScriptPrompt = true →
        Account atlas (replay console.inputs earlier) e.mission) ∧
      (e.isDelivery = true → (replay console.inputs earlier).running = true ∧
        0 ≤ e.mission.memory - e.mission.scriptSize)) ∧
    (∀ m earlier, (beginCampaign.final { console, atlas }).Moment m earlier →
      (replay console.inputs earlier).running = true →
      Account atlas (replay console.inputs earlier) m ∧
        Occupies (replay console.inputs earlier) m) ∧
    ∀ (w : World) (script : List String), ¬w.mission.Fits script →
      ∃ w', Rejected script w w' ∧ executeScript compose script w =
        if (Message.memoryShortage
            (w.mission.sizeOfScript script) w.mission.remaining).isShowable
        then compose w' else .error (.fault .notShowable) w' := by
  have hsolvent : Solvent atlas console.inputs
      (beginCampaign.final { console, atlas }) := by
    apply (beginCampaign_tracked hatlas _).final_of_never
    have hempty : replay console.inputs console.log = {} := by rw [hlog]; rfl
    constructor
    case toSolvent =>
      exact ⟨hlog ▸ chronicle_nil, backed_of_idle (by rw [hempty])⟩
    case atlas => rfl
    case charSize => rfl
    case lines => rw [hempty]; rfl
    case phase => rw [hempty]
  refine ⟨fun e earlier he => ?_, ?_, fun w script => executeScript_rejects⟩
  · have haudit := hsolvent.log e earlier he
    refine ⟨haudit.prompt, fun hdelivery => ⟨haudit.delivery hdelivery, ?_⟩⟩
    have hoccupies := (haudit.running (haudit.delivery hdelivery)).2
    exact Int.sub_nonneg.2 hoccupies.fits
  · rintro m earlier (⟨event, hevent⟩ | ⟨rfl, rfl⟩) hrunning
    · exact (hsolvent.log _ earlier hevent).running hrunning
    · exact hsolvent.running hrunning

def depot : Atlas :=
  ⟨[(1, ⟨some 5, some 240, some 100, some [["[R]", "[S]", "[B]"]]⟩)]⟩

private theorem depot_roomy : depot.Roomy := by
  intro level sector memory hsector hmemory
  cases Atlas.eq_of_single hsector
  cases hmemory
  decide

def carefulPlayer : Console where
  inputs := ["Ada", "n", "obs", "end", "if mve == S then mve else obs", "end",
    "mve", "clt", "mve", "drp", "end", "n"]

theorem careful_player_is_accounted_for :
    depot.Roomy ∧
    (∃ e earlier,
      e :: earlier <:+
        (beginCampaign.final
            { console := carefulPlayer, atlas := depot }).console.log ∧
      e.isDelivery = true ∧
      (replay carefulPlayer.inputs earlier).loaded =
        [["mve", "clt", "mve", "drp", "end"], ["obs", "end"]] ∧
      Account depot (replay carefulPlayer.inputs earlier) e.mission ∧
      e.mission.remaining = 72 ∧
      e.mission.memory - e.mission.scriptSize = 120) ∧
    ∃ w', Rejected (List.replicate 17 "end") (corridor 2) w' ∧
      executeScript compose (List.replicate 17 "end")
        (corridor 2) = compose w' ∧
      w'.mission.executions = 1 := by
  obtain ⟨hlog, hmoments, hrejection⟩ :=
    memory_is_accounted_for carefulPlayer depot rfl depot_roomy
  have hdelivery : ∃ e earlier, e :: earlier <:+ (beginCampaign.final
        { console := carefulPlayer, atlas := depot }).console.log ∧
      e.isDelivery = true ∧ (replay carefulPlayer.inputs earlier).loaded =
      [["mve", "clt", "mve", "drp", "end"], ["obs", "end"]] ∧
      e.mission.remaining = 72 ∧
      e.mission.memory - e.mission.scriptSize = 120 := by
    decide +kernel
  obtain ⟨e, earlier, he, hdelivery, hloaded, hremaining, hbonus⟩ := hdelivery
  have hrunning := ((hlog e earlier he).2 hdelivery).1
  have haccount :=
    (hmoments e.mission earlier (Or.inl ⟨e.event, he⟩) hrunning).1
  obtain ⟨w', hrejected, hrun⟩ :=
    hrejection (corridor 2) (List.replicate 17 "end") (by decide +kernel)
  rw [if_pos (by decide +kernel)] at hrun
  refine ⟨depot_roomy, ⟨e, earlier, he, hdelivery, hloaded, haccount,
      hremaining, hbonus⟩, w', hrejected, hrun, ?_⟩
  rw [hrejected.mission]
  rfl

end Rover

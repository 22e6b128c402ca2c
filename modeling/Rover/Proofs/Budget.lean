import Rover.Proofs.ScriptRun

/-!
The executions of a sector.  Every script that is handed in costs an execution,
whether it is loaded or rejected.  Loaded scripts stay within what the sector
allots; after a rejection the player is asked for another script whatever is
left.
-/

namespace Rover

open Flight

namespace Entry

def isSubmission (e : Entry) : Bool :=
  match e.event with
  | .say .compiling => true
  | _ => false

def isLoading (e : Entry) : Bool :=
  match e.event with
  | .say (.scriptLoaded _) => true
  | _ => false

def isRejection (e : Entry) : Bool :=
  match e.event with
  | .say (.memoryShortage _ _) => true
  | _ => false

end Entry

/-- How many entries of a kind there are since the present sector was
entered. -/
def tally (kind : Entry → Bool) (log : List Entry) : Nat :=
  (visit log).countP kind

def lastRejected (log : List Entry) : Bool :=
  ((visit log).find? fun e => e.isLoading || e.isRejection).any
    Entry.isRejection

section

variable {kind : Entry → Bool} {e : Entry} {log : List Entry}

theorem routine_entry (he : e.event.isRoutine = true) :
    e.isArrival = false ∧ e.isScriptPrompt = false ∧ e.isSubmission = false ∧
      e.isLoading = false ∧ e.isRejection = false := by
  obtain ⟨event, m⟩ := e
  cases event with
  | say message =>
    cases message <;> first | exact ⟨rfl, rfl, rfl, rfl, rfl⟩ | cases he
  | ask question => cases he
  | wait => cases he
  | _ => exact ⟨rfl, rfl, rfl, rfl, rfl⟩

private theorem tally_arrival (h : e.isArrival = true) :
    tally kind (e :: log) = 0 := by
  simp [tally, visit, h]

private theorem tally_hit (harrival : e.isArrival = false)
    (hkind : kind e = true) :
    tally kind (e :: log) = tally kind log + 1 := by
  rw [tally, visit_cons harrival, List.countP_cons_of_pos hkind]
  rfl

private theorem tally_miss (harrival : e.isArrival = false)
    (hkind : kind e = false) :
    tally kind (e :: log) = tally kind log := by
  rw [tally, visit_cons harrival, List.countP_cons_of_neg (by simp [hkind])]
  rfl

private theorem lastRejected_cons (harrival : e.isArrival = false)
    (hloading : e.isLoading = false) (hrejection : e.isRejection = false) :
    lastRejected (e :: log) = lastRejected log := by
  simp [lastRejected, visit_cons harrival, hloading, hrejection]

private theorem lastRejected_rejection (harrival : e.isArrival = false)
    (hrejection : e.isRejection = true) : lastRejected (e :: log) = true := by
  simp [lastRejected, visit_cons harrival, hrejection]

end

def Atlas.Allots (atlas : Atlas) (m : Mission) : Prop :=
  ∃ sector, atlas.sector? m.level = some sector ∧
    sector.executions = some m.executions

/-- The books of a sector that was entered with mission `m`, with `executions`
left.  There is no verdict yet on as many scripts as are pending. -/
structure Balanced (chart : Atlas) (m : Mission) (pending : Nat)
    (executions : Int) (log : List Entry) : Prop where
  arrival : arrival? log = some m
  allots : chart.Allots m
  left : executions = m.executions + pending - tally Entry.isSubmission log
  verdicts : tally Entry.isSubmission log =
    tally Entry.isLoading log + tally Entry.isRejection log + pending

structure Affords (m : Mission) (executions : Int) (log : List Entry) :
    Prop where
  loaded : tally Entry.isLoading log < m.executions
  overdrawn : executions ≤ 0 → lastRejected log = true

/-- Whenever a line of a script is asked for and whenever a script is handed in,
the books of the sector are balanced. -/
def Budgeted (chart : Atlas) (e : Entry) (earlier : List Entry) : Prop :=
  e.isScriptPrompt = true ∨ e.isSubmission = true →
    ∃ m, Balanced chart m 0 e.mission.executions earlier ∧
      (0 < m.executions → Affords m e.mission.executions earlier)

section Books

variable {chart : Atlas} {m : Mission} {pending : Nat}
  {executions : Int} {e : Entry}
  {log : List Entry}

private theorem budgeted_cons
    (hprompt : e.isScriptPrompt = false) (hsubmission : e.isSubmission = false)
    (hlog : Chronicle (Budgeted chart) log) :
    Chronicle (Budgeted chart) (e :: log) := by
  refine chronicle_cons.2 ⟨fun he => ?_, hlog⟩
  rw [hprompt, hsubmission] at he
  rcases he with he | he
  · cases he
  · cases he

namespace Balanced

theorem cons (h : Balanced chart m pending executions log)
    (harrival : e.isArrival = false) (hsubmission : e.isSubmission = false)
    (hloading : e.isLoading = false) (hrejection : e.isRejection = false) :
    Balanced chart m pending executions (e :: log) where
  arrival := (arrival?_cons harrival).trans h.arrival
  allots := h.allots
  left := by
    rw [tally_miss harrival hsubmission]
    exact h.left
  verdicts := by
    rw [tally_miss harrival hsubmission, tally_miss harrival hloading,
      tally_miss harrival hrejection]
    exact h.verdicts

theorem submit (h : Balanced chart m 0 executions log) (m' : Mission) :
    Balanced chart m 1 executions (⟨.say .compiling, m'⟩ :: log) where
  arrival := (arrival?_cons rfl).trans h.arrival
  allots := h.allots
  left := by
    have hleft := h.left
    rw [tally_hit rfl rfl]
    omega
  verdicts := by
    rw [tally_hit rfl rfl, tally_miss rfl rfl, tally_miss rfl rfl, h.verdicts]

theorem settle (h : Balanced chart m 1 executions log)
    (harrival : e.isArrival = false) (hsubmission : e.isSubmission = false)
    (hverdict : e.isLoading = !e.isRejection) :
    Balanced chart m 0 (executions - 1) (e :: log) where
  arrival := (arrival?_cons harrival).trans h.arrival
  allots := h.allots
  left := by
    have hleft := h.left
    rw [tally_miss harrival hsubmission]
    omega
  verdicts := by
    have hverdicts := h.verdicts
    rw [tally_miss harrival hsubmission]
    cases hrejection : e.isRejection with
    | true =>
      rw [hrejection] at hverdict
      rw [tally_miss harrival hverdict, tally_hit harrival hrejection]
      omega
    | false =>
      rw [hrejection] at hverdict
      rw [tally_hit harrival hverdict, tally_miss harrival hrejection]
      omega

end Balanced

theorem Affords.cons (h : Affords m executions log)
    (harrival : e.isArrival = false) (hloading : e.isLoading = false)
    (hrejection : e.isRejection = false) :
    Affords m executions (e :: log) where
  loaded := by
    rw [tally_miss harrival hloading]
    exact h.loaded
  overdrawn hnone := by
    rw [lastRejected_cons harrival hloading hrejection]
    exact h.overdrawn hnone

def Writes (chart : Atlas) (executions : Int) (log : List Entry) : Prop :=
  Chronicle (Budgeted chart) log ∧ ∃ m, Balanced chart m 0 executions log ∧
    (0 < m.executions → Affords m executions log)

def Awaits (chart : Atlas) (executions : Int) (log : List Entry) : Prop :=
  Chronicle (Budgeted chart) log ∧ ∃ m, Balanced chart m 1 executions log ∧
    (0 < m.executions → tally Entry.isLoading log < m.executions)

def Runs (chart : Atlas) (executions : Int) (log : List Entry) : Prop :=
  Chronicle (Budgeted chart) log ∧ ∃ m, Balanced chart m 0 executions log

private theorem writes_arrival {name : String}
    (hlog : Chronicle (Budgeted chart) log) (hallots : chart.Allots m) :
    Writes chart m.executions (⟨.say (.controlGranted name), m⟩ :: log) := by
  refine ⟨budgeted_cons rfl rfl hlog, m,
    ⟨arrival?_arrival rfl, hallots, ?_, ?_⟩, fun hpos => ?_⟩
  · rw [tally_arrival rfl]
    omega
  · rw [tally_arrival rfl, tally_arrival rfl, tally_arrival rfl]
  · exact ⟨by rw [tally_arrival rfl]; exact hpos, fun hnone => by omega⟩

theorem Writes.ask (h : Writes chart m.executions log) (number : Nat) :
    Writes chart m.executions (⟨.ask (.scriptLine number), m⟩ :: log) := by
  obtain ⟨hlog, m₀, hbalanced, haffords⟩ := h
  refine ⟨chronicle_cons.2 ⟨fun _ => ⟨m₀, hbalanced, haffords⟩, hlog⟩, m₀, ?_,
    fun hpos => ?_⟩
  · exact hbalanced.cons rfl rfl rfl rfl
  · exact (haffords hpos).cons rfl rfl rfl

theorem Writes.submit (h : Writes chart m.executions log) :
    Awaits chart m.executions (⟨.say .compiling, m⟩ :: log) := by
  obtain ⟨hlog, m₀, hbalanced, haffords⟩ := h
  refine ⟨chronicle_cons.2 ⟨fun _ => ⟨m₀, hbalanced, haffords⟩, hlog⟩, m₀,
    hbalanced.submit m, fun hpos => ?_⟩
  rw [tally_miss rfl rfl]
  exact (haffords hpos).loaded

theorem Awaits.load (h : Awaits chart executions log) (size : Int)
    (m : Mission) :
    Runs chart (executions - 1) (⟨.say (.scriptLoaded size), m⟩ :: log) := by
  obtain ⟨hlog, m₀, hbalanced, -⟩ := h
  exact ⟨budgeted_cons rfl rfl hlog, m₀, hbalanced.settle rfl rfl rfl⟩

theorem Awaits.reject (h : Awaits chart executions log) (size available : Int)
    (m : Mission) :
    Writes chart (executions - 1)
      (⟨.say (.memoryShortage size available), m⟩ :: log) := by
  obtain ⟨hlog, m₀, hbalanced, hloaded⟩ := h
  refine ⟨budgeted_cons rfl rfl hlog, m₀, hbalanced.settle rfl rfl rfl,
    fun hpos => ?_⟩
  exact ⟨by rw [tally_miss rfl rfl]; exact hloaded hpos,
    fun _ => lastRejected_rejection rfl rfl⟩

theorem Runs.next (h : Runs chart executions log) (hleft : 0 < executions) :
    Writes chart executions log := by
  obtain ⟨hlog, m₀, hbalanced⟩ := h
  refine ⟨hlog, m₀, hbalanced, fun _ => ⟨?_, fun hnone => by omega⟩⟩
  have hspent := hbalanced.left
  have hverdicts := hbalanced.verdicts
  omega

end Books

/-- The world has the atlas `chart`, and the books hold of its executions and
its history. -/
def Holds (chart : Atlas) (books : Int → List Entry → Prop) (w : World) :
    Prop :=
  w.atlas = chart ∧ books w.mission.executions w.console.log

def Lasting (books : Int → List Entry → Prop) : Prop :=
  ∀ executions e log, e.event.isRoutine = true → books executions log →
    books executions (e :: log)

section Campaign

variable {chart : Atlas} {books : Int → List Entry → Prop} {w w' : World}

theorem Holds.frame (hbooks : Lasting books) (h : Frame w w')
    (hw : Holds chart books w) :
    Holds chart books w' := by
  refine ⟨h.atlas.trans hw.1, ?_⟩
  rw [h.mission.executions]
  exact h.history (hbooks _) hw.2

theorem Lasting.steady (hbooks : Lasting books) : Steady (Holds chart books) :=
  fun _ _ h => Holds.frame hbooks (.of_interlude h)

private theorem lasting_budgeted :
    Lasting fun _ => Chronicle (Budgeted chart) := by
  intro _ e log he hlog
  obtain ⟨-, hprompt, hsubmission, -, -⟩ := routine_entry he
  exact budgeted_cons hprompt hsubmission hlog

private theorem lasting_writes : Lasting (Writes chart) := by
  rintro executions e log he ⟨hlog, m, hbalanced, haffords⟩
  obtain ⟨harrival, hprompt, hsubmission, hloading, hrejection⟩ :=
    routine_entry he
  refine ⟨budgeted_cons hprompt hsubmission hlog, m, ?_, fun hpos => ?_⟩
  · exact hbalanced.cons harrival hsubmission hloading hrejection
  · exact (haffords hpos).cons harrival hloading hrejection

private theorem lasting_awaits : Lasting (Awaits chart) := by
  rintro executions e log he ⟨hlog, m, hbalanced, hloaded⟩
  obtain ⟨harrival, hprompt, hsubmission, hloading, hrejection⟩ :=
    routine_entry he
  refine ⟨budgeted_cons hprompt hsubmission hlog, m, ?_, ?_⟩
  · exact hbalanced.cons harrival hsubmission hloading hrejection
  · rw [tally_miss harrival hloading]
    exact hloaded

private theorem lasting_runs : Lasting (Runs chart) := by
  rintro executions e log he ⟨hlog, m, hbalanced⟩
  obtain ⟨harrival, hprompt, hsubmission, hloading, hrejection⟩ :=
    routine_entry he
  exact ⟨budgeted_cons hprompt hsubmission hlog, m,
    hbalanced.cons harrival hsubmission hloading hrejection⟩

private theorem runs_endures {advance : Flight Unit}
    (hadvance : ∀ w, Holds chart (fun _ => Chronicle (Budgeted chart)) w →
      advance.Yields w (fun _ _ => False) fun _ w =>
      Chronicle (Budgeted chart) w.console.log) :
    Endures advance (Holds chart (Runs chart))
      fun _ w => Chronicle (Budgeted chart) w.console.log := by
  refine endures_of_frame (fun w w' => Holds.frame lasting_runs)
    (fun _ w hw => hw.2.1) ?_
  intro w hw hbase
  have hsteady : Steady (Holds chart fun _ => Chronicle (Budgeted chart)) :=
    lasting_budgeted.steady
  apply deliver_atBase hsteady hbase
  · intro w' h
    have hw' := lasting_runs.steady w w' h hw
    exact ⟨hw'.1, budgeted_cons rfl rfl hw'.2.1⟩
  · exact fun w hw _ _ => hw.2
  · exact fun w hw _ => budgeted_cons rfl rfl hw.2
  · exact fun w line rest hw _ _ =>
      hadvance _ ⟨hw.1, budgeted_cons rfl rfl hw.2⟩
  · intro w line rest w' hw _ _ h
    exact (hsteady _ w' h ⟨hw.1, budgeted_cons rfl rfl hw.2⟩).2

private theorem loadSector_writes
    (hw : Holds chart (fun _ => Chronicle (Budgeted chart)) w) :
    loadSector.Yields w (fun _ w' =>
      Holds chart (Writes chart)
        (w'.note (.say (.controlGranted w'.mission.operatorName))))
      fun _ w' => Chronicle (Budgeted chart) w'.console.log := by
  obtain ⟨rfl, hlog⟩ := hw
  refine loadSector_yields (fun _ => hlog) (fun _ _ _ _ _ _ => hlog) ?_
  intro sector executions memory battery map hsector hexecutions _ _ _
  have hland : Holds w.atlas (fun _ => Chronicle (Budgeted w.atlas))
    (w.land executions memory battery map) := ⟨rfl, hlog⟩
  refine showMap_yields (fun w' h => ?_)
    fun _ w' h => (lasting_budgeted.steady _ w' h hland).2
  have hw' := lasting_budgeted.steady _ w' h hland
  have hallots : w.atlas.Allots w'.mission := by
    rw [h.mission]
    exact ⟨sector, hsector, hexecutions⟩
  exact ⟨hw'.1, writes_arrival hw'.2 hallots⟩

private theorem conduct_budget (chart : Atlas) :
    Conduct (fun _ => Holds chart fun _ => Chronicle (Budgeted chart))
      (fun _ => Holds chart (Writes chart)) (fun _ => Holds chart (Runs chart))
      (fun _ _ => Holds chart (Writes chart))
      (fun _ _ => Holds chart (Awaits chart))
      fun _ w => Chronicle (Budgeted chart) w.console.log := by
  constructor
  case steadyEntering => exact fun _ => lasting_budgeted.steady
  case steadyComposing => exact fun _ => lasting_writes.steady
  case steadyReading => exact fun _ _ => lasting_writes.steady
  case steadySubmitted => exact fun _ _ => lasting_awaits.steady
  case load => exact fun _ w hw => loadSector_writes hw
  case exhausted => exact fun w hw => hw.2.1
  case start => exact fun _ w hw => hw
  case read => exact fun _ script w line rest hw _ => ⟨hw.1, hw.2.ask _⟩
  case ended => exact fun _ script w hw _ => (hw.2.ask _).1
  case submit => exact fun _ script w hw _ => ⟨hw.1, hw.2.submit⟩
  case reject =>
    intro _ script w hw _
    have hoverflow := lasting_awaits _ ⟨.say .memoryOverflow,
      (w.refuse script).mission⟩ _ rfl hw.2
    exact ⟨hw.1, hoverflow.reject _ _ _⟩
  case rejectHidden => exact fun _ script w hw _ => budgeted_cons rfl rfl hw.2.1
  case accept => exact fun _ script w hw _ => ⟨hw.1, hw.2.load _ _⟩
  case acceptHidden => exact fun _ script w hw _ _ => hw.2.1
  case run =>
    exact fun _ advance hadvance => (runs_endures hadvance).unlocked.turnwise
  case stop => exact fun _ w hw => hw.2.1
  case overrun => exact fun _ cause w hw _ => hw.2.1
  case next => exact fun _ w hw _ hleft => ⟨hw.1, hw.2.next hleft⟩

private theorem beginCampaign_budgeted
    (hw : Holds chart (fun _ => Chronicle (Budgeted chart)) w) :
    beginCampaign.Yields w (fun _ _ => False)
      fun _ w' => Chronicle (Budgeted chart) w'.console.log := by
  have hsteady : Steady (Holds chart fun _ => Chronicle (Budgeted chart)) :=
    lasting_budgeted.steady
  refine beginCampaign_yields hsteady ?_ ?_ (fun w hw => ?_)
    (fun w _ hw => hw) hw
  · exact fun _ _ _ w hquestion hw _ =>
      ⟨hw.1, budgeted_cons (isScriptPrompt_ask hquestion) rfl hw.2⟩
  · exact fun _ w hquestion hw _ =>
      budgeted_cons (isScriptPrompt_ask hquestion) rfl hw.2
  · exact (conduct_budget chart).startSector (n := 0)
      (fun _ hw hlocked => (conduct_budget chart).compose hw hlocked) hw

end Campaign

/-- From the first world to the second, a script was rejected: nothing was
asked, and apart from the lock, the size of the script and the executions, of
which one is gone, the mission was the same throughout. -/
structure Rejected (script : List String) (w w' : World) : Prop where
  mission : w'.mission = { w.mission with
    executions := w.mission.executions - 1
    scriptSize := w.mission.sizeOfScript script
    locked := false }
  atlas : w'.atlas = w.atlas
  inputs : w'.console.inputs = w.console.inputs
  log : ∃ entries, w'.console.log = entries ++ w.console.log ∧
    ∀ e ∈ entries, (∀ question, e.event ≠ .ask question) ∧
      e.mission = { w.mission with
        executions := e.mission.executions
        scriptSize := e.mission.scriptSize
        locked := e.mission.locked }

namespace Rejected

variable {script : List String} {w w' w'' : World}

theorem say (h : Rejected script w w') (message : Message) :
    Rejected script w (w'.note (.say message)) where
  mission := h.mission
  atlas := h.atlas
  inputs := h.inputs
  log := by
    obtain ⟨entries, hlog, hentries⟩ := h.log
    refine ⟨⟨.say message, w'.mission⟩ :: entries, congrArg _ hlog,
      fun e he => ?_⟩
    rcases List.mem_cons.1 he with rfl | he
    · exact ⟨nofun, by rw [h.mission]⟩
    · exact hentries e he

theorem interlude (h : Rejected script w w') (h' : Interlude w' w'') :
    Rejected script w w'' where
  mission := by
    rw [h'.mission, h'.unlocked (by rw [h.mission]), h.mission]
  atlas := h'.atlas.trans h.atlas
  inputs := h'.inputs.trans h.inputs
  log := by
    obtain ⟨entries, hlog, hentries⟩ := h.log
    obtain ⟨entries', hlog', hentries'⟩ := h'.log
    refine ⟨entries' ++ entries, by rw [hlog', hlog, List.append_assoc],
      fun e he => ?_⟩
    rcases List.mem_append.1 he with he | he
    · obtain ⟨hevent, hmission⟩ := hentries' e he
      refine ⟨fun question hask => ?_, by rw [hmission, h.mission]⟩
      rw [hask] at hevent
      cases hevent
    · exact hentries e he

theorem refuse (h : Interlude (w.note (.say .compiling)) w')
    (hlocked : w'.mission.locked = false) :
    Rejected script w (w'.refuse script) where
  mission := by
    rw [World.refuse_mission, h.mission, hlocked]
    rfl
  atlas := h.atlas
  inputs := h.inputs
  log := by
    obtain ⟨entries, hlog, hentries⟩ := h.log
    refine ⟨⟨.say .memoryOverflow, (w'.refuse script).mission⟩ ::
      (entries ++ [⟨.say .compiling, w.mission⟩]), ?_, fun e he => ?_⟩
    · rw [List.cons_append, List.append_assoc]
      exact congrArg _ hlog
    · rcases List.mem_cons.1 he with rfl | he
      · exact ⟨nofun, by rw [World.refuse_mission, h.mission]; rfl⟩
      rcases List.mem_append.1 he with he | he
      · obtain ⟨hevent, hmission⟩ := hentries e he
        refine ⟨fun question hask => ?_, by rw [hmission]; rfl⟩
        rw [hask] at hevent
        cases hevent
      · rw [List.mem_singleton.1 he]
        exact ⟨nofun, rfl⟩

end Rejected

section Rejection

variable {script : List String} {post : Unit → World → Prop}
  {halted : Halt → World → Prop}
  {w : World}

theorem rejectScript_yields (hrejected : ∀ w', (Message.memoryShortage
      (w.mission.sizeOfScript script) w.mission.remaining).isShowable = true →
      Rejected script w w' → post () w')
    (hhidden : ∀ w', (Message.memoryShortage
      (w.mission.sizeOfScript script) w.mission.remaining).isShowable = false →
      Rejected script w w' → halted (.fault .notShowable) w') :
    (rejectScript script).Yields w post halted := by
  have hmission : ∀ w₁, Interlude (w.note (.say .compiling)) w₁ →
      w₁.mission.sizeOfScript script = w.mission.sizeOfScript script ∧
        w₁.mission.remaining = w.mission.remaining := by
    intro w₁ h₁
    rw [h₁.mission]
    exact ⟨rfl, rfl⟩
  apply rejectScript_stages
  · intro w₁ w' h₁ hlocked hshow h'
    obtain ⟨hsize, hremaining⟩ := hmission w₁ h₁
    refine hrejected w' (hsize ▸ hremaining ▸ hshow) ?_
    exact ((Rejected.refuse h₁ hlocked).say _).interlude h'
  · intro w₁ h₁ hlocked hhide
    obtain ⟨hsize, hremaining⟩ := hmission w₁ h₁
    exact hhidden _ (hsize ▸ hremaining ▸ hhide) (.refuse h₁ hlocked)

private theorem compose_asks {history : List Entry → Prop}
    (hkeep : ∀ e log, history log → history (e :: log))
    (hlocked : w.mission.locked = false) (hask : ∀ w', Interlude w w' →
      history (⟨.ask (.scriptLine 1), w'.mission⟩ :: w'.console.log)) :
    compose.Yields w (fun _ _ => False) fun _ w' => history w'.console.log := by
  have hconduct := conduct_history hkeep
  have hexecute : ∀ script w, script ≠ [] → history w.console.log →
      (executeScript compose script).Yields w (fun _ _ => False)
        fun _ w' => history w'.console.log := by
    intro script w hscript hw
    apply hconduct.executeScript (n := 0)
    · exact fun w hw hlocked => hconduct.compose hw hlocked
    · exact hkeep _ _ hw
    · exact fun hempty => absurd hempty hscript
  refine Yields.of_eq ?_ (compose_eq w)
  -- The first line is asked for in any case; what comes after it can only add
  -- to the log.
  simp only [readScript, readLines, yields_bind, yields_get]
  refine prompt_yields hlocked (fun w₁ line rest h₁ hinputs => ?_)
    fun w₁ h₁ _ => hask w₁ h₁
  rw [yields_update]
  refine yields_ite (fun _ => ?_) fun _ => ?_
  · exact (yields_pure _).2 (hexecute _ _ (List.cons_ne_nil _ _) (hask w₁ h₁))
  · have hrest : rest.length < w.console.inputs.length := by
      rw [← h₁.inputs, hinputs, List.length_cons]
      exact Nat.lt_succ_self _
    have hlines : (readLines w.console.inputs.length ([line].length + 1)).Yields
        (w₁.readLine 1 line rest) (fun lines w' => lines ≠ [] ∧
          history w'.console.log) fun _ w' => history w'.console.log :=
      hconduct.readLines (n := 0) hrest (h₁.unlocked hlocked) (hask w₁ h₁)
    rw [yields_bind]
    refine hlines.imp fun lines w₂ hw₂ => ?_
    exact (yields_pure _).2 (hexecute _ _ (List.cons_ne_nil _ _) hw₂.2)

private theorem rejection_asks_again (hfits : ¬w.mission.Fits script)
    (hshow : (Message.memoryShortage
      (w.mission.sizeOfScript script) w.mission.remaining).isShowable = true) :
    (executeScript compose script).Yields w (fun _ _ => False) fun _ w' =>
      ∃ entries, w'.console.log = entries ++ w.console.log ∧ ∃ e ∈ entries,
        e.isScriptPrompt = true ∧
        e.mission.executions = w.mission.executions - 1 := by
  let asked : List Entry → Prop := fun log =>
    ∃ entries, log = entries ++ w.console.log ∧ ∃ e ∈ entries,
      e.isScriptPrompt = true ∧ e.mission.executions = w.mission.executions - 1
  have hkeep : ∀ e log, asked log → asked (e :: log) := by
    rintro e log ⟨entries, rfl, d, hd, hprompt⟩
    exact ⟨e :: entries, rfl, d, List.mem_cons_of_mem e hd, hprompt⟩
  apply executeScript_of_not_fits hfits
  refine rejectScript_yields (fun w₁ _ h₁ => ?_) fun _ hhidden _ => ?_
  · obtain ⟨entries₁, hlog₁, -⟩ := h₁.log
    refine compose_asks hkeep (by rw [h₁.mission]) fun w₂ h₂ => ?_
    obtain ⟨entries₂, hlog₂, -⟩ := h₂.log
    have hleft :=
      executions_steady _ _ w₂ h₂ (congrArg Mission.executions h₁.mission)
    refine ⟨⟨.ask (.scriptLine 1), w₂.mission⟩ :: (entries₂ ++ entries₁), ?_, _,
      List.mem_cons_self .., rfl, hleft⟩
    rw [hlog₂, hlog₁, List.cons_append, List.append_assoc]
  · cases hshow.symm.trans hhidden

end Rejection

/-- Whenever a line of a script is asked for and whenever a script is handed in,
the executions left are those of the sector less the scripts handed in there.
Each of these was loaded or rejected, and fewer were loaded than the sector
allots.  Only a rejection makes the game ask for a script without an execution
left, and after a rejection it always asks. -/
theorem only_rejections_exceed_the_budget (console : Console) (atlas : Atlas)
    (hlog : console.log = []) :
    (∀ e earlier,
      e :: earlier <:+ (beginCampaign.final { console, atlas }).console.log →
      e.isScriptPrompt = true ∨ e.isSubmission = true →
      ∃ m, arrival? earlier = some m ∧ atlas.Allots m ∧
        e.mission.executions = m.executions - tally Entry.isSubmission earlier ∧
        tally Entry.isSubmission earlier =
          tally Entry.isLoading earlier + tally Entry.isRejection earlier ∧
        (0 < m.executions → tally Entry.isLoading earlier < m.executions ∧
          (e.mission.executions ≤ 0 → lastRejected earlier = true))) ∧
    ∀ (w : World) (script : List String), ¬w.mission.Fits script →
      (Message.memoryShortage (w.mission.sizeOfScript script)
        w.mission.remaining).isShowable = true →
      ∃ entries, ((executeScript compose script).final w).console.log =
          entries ++ w.console.log ∧
        ∃ e ∈ entries, e.isScriptPrompt = true ∧
          e.mission.executions = w.mission.executions - 1 := by
  have hbudgeted : Chronicle (Budgeted atlas)
      (beginCampaign.final { console, atlas }).console.log := by
    apply (beginCampaign_budgeted _).final_of_never
    exact ⟨rfl, hlog ▸ chronicle_nil⟩
  constructor
  · intro e earlier he hturn
    obtain ⟨m, hbalanced, haffords⟩ := hbudgeted e earlier he hturn
    refine ⟨m, hbalanced.arrival, hbalanced.allots, ?_, hbalanced.verdicts,
      fun hpos => ?_⟩
    · have hleft := hbalanced.left
      omega
    · exact ⟨(haffords hpos).loaded, (haffords hpos).overdrawn⟩
  · exact fun w script hfits hshow =>
      (rejection_asks_again hfits hshow).final_of_never

def narrowSector : Atlas :=
  ⟨[(1, ⟨some 1, some 8, some 100, some [["[R]", "[S]", "[B]"]]⟩)]⟩

def stubbornPlayer : Console :=
  { inputs := ["Ada", "n", "end", "end"] }

/-- Two scripts are handed in where one execution was allotted, and a third one
is asked for.  With no execution left to begin with, the game asks all the
same. -/
theorem stubborn_player_exceeds_the_budget :
    (∃ e earlier,
      e :: earlier <:+
        (beginCampaign.final
            { console := stubbornPlayer, atlas := narrowSector }).console.log ∧
      e.isScriptPrompt = true ∧ e.mission.executions = -1 ∧
      tally Entry.isSubmission earlier = 2 ∧
      ∃ m, arrival? earlier = some m ∧ narrowSector.Allots m ∧
        m.executions = 1 ∧
        lastRejected earlier = true) ∧
    ∃ e ∈ ((executeScript compose (List.replicate 17 "end")).final
        (corridor 0)).console.log,
      e.isScriptPrompt = true ∧ e.mission.executions = -1 := by
  obtain ⟨hlog, hask⟩ :=
    only_rejections_exceed_the_budget stubbornPlayer narrowSector rfl
  have hagain : ∃ e ∈ ((executeScript compose (List.replicate 17 "end")).final
        (corridor 0)).console.log, e.isScriptPrompt = true ∧
      e.mission.executions = -1 := by
    obtain ⟨entries, hentries, e, he, hprompt⟩ :=
      hask (corridor 0) (List.replicate 17 "end") (by decide +kernel)
        (by decide +kernel)
    exact ⟨e, by rw [hentries]; exact List.mem_append_left _ he, hprompt⟩
  refine ⟨?_, hagain⟩
  have hlatest :
      (beginCampaign.final
        { console := stubbornPlayer, atlas := narrowSector }).console.log.head?.map
          (fun e => (e.isScriptPrompt, e.mission.executions)) =
        some (true, -1) := by
    decide +kernel
  have hearlier :
      tally Entry.isSubmission (beginCampaign.final
        { console := stubbornPlayer, atlas := narrowSector }).console.log.tail =
          2 := by
    decide +kernel
  generalize (beginCampaign.final
    { console := stubbornPlayer, atlas := narrowSector }).console.log = log at *
  cases log with
  | nil => cases hlatest
  | cons e earlier =>
    simp only [List.head?_cons, Option.map_some, Option.some.injEq,
      Prod.mk.injEq] at hlatest
    obtain ⟨hprompt, hleft⟩ := hlatest
    obtain ⟨m, harrival, hallots, hspent, -, hbudget⟩ :=
      hlog e earlier (List.suffix_refl _) (Or.inl hprompt)
    rw [List.tail_cons] at hearlier
    have hone : m.executions = 1 := by omega
    have hrejected := (hbudget (by omega)).2 (by omega)
    exact ⟨e, earlier, List.suffix_refl _, hprompt, hleft, hearlier, m,
      harrival, hallots, hone, hrejected⟩

end Rover

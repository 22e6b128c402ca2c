import Rover.Proofs.Conduct

namespace Rover

open Flight

def Flight.final {α : Type} (x : Flight α) (w : World) : World :=
  match x w with
  | .ok _ w' | .error _ w' => w'

def Flight.returns {α : Type} (x : Flight α) (w : World) : Bool :=
  match x w with
  | .ok _ _ => true
  | .error _ _ => false

def Flight.halt? {α : Type} (x : Flight α) (w : World) : Option Halt :=
  match x w with
  | .ok _ _ => none
  | .error h _ => some h

theorem Flight.ok_final {x : Flight Unit} {w : World} (h : x.returns w = true) :
    x w = .ok () (x.final w) := by
  unfold Flight.returns at h
  unfold Flight.final
  cases hrun : x w with
  | ok _ w' => rfl
  | error h' w' => simp [hrun] at h

theorem Flight.error_final {α : Type} {x : Flight α} {w : World} {h : Halt}
    (hhalt : x.halt? w = some h) : x w = .error h (x.final w) := by
  unfold Flight.halt? at hhalt
  unfold Flight.final
  cases hrun : x w with
  | ok _ w' => simp [hrun] at hhalt
  | error h' w' =>
    rw [hrun] at hhalt
    cases hhalt
    rfl

theorem Flight.Yields.final_of_both {α : Type} {x : Flight α} {w : World}
    {inv : World → Prop} (hx : x.Yields w (fun _ => inv) fun _ => inv) :
    inv (x.final w) := by
  unfold Flight.final
  split
  · next hrun => exact hx.ok hrun
  · next hrun => exact hx.error hrun

theorem Flight.Yields.final_of_never {α : Type} {x : Flight α} {w : World}
    {inv : World → Prop} (hx : x.Yields w (fun _ _ => False) fun _ => inv) :
    inv (x.final w) :=
  hx.of_never.final_of_both

namespace Entry

def isArrival (e : Entry) : Bool :=
  match e.event with
  | .say (.controlGranted _) => true
  | _ => false

def isScriptPrompt (e : Entry) : Bool :=
  match e.event with
  | .ask (.scriptLine _) => true
  | _ => false

def isCollection (e : Entry) : Bool :=
  e.event = .say .sampleCollected

def isDelivery (e : Entry) : Bool :=
  e.event = .say .sampleDelivered

end Entry

def arrival? (log : List Entry) : Option Mission :=
  (log.find? Entry.isArrival).map Entry.mission

def visit (log : List Entry) : List Entry :=
  log.takeWhile (!·.isArrival)

section

variable {e : Entry} {log : List Entry}

theorem isScriptPrompt_of_background (he : e.event.isMilestone = false) :
    e.isScriptPrompt = false := by
  unfold Entry.isScriptPrompt
  split
  · next he' =>
    rw [he'] at he
    cases he
  · rfl

theorem isScriptPrompt_ask {question : Prompt} {m : Mission}
    (hquestion : ∀ number, question ≠ .scriptLine number) :
    Entry.isScriptPrompt ⟨.ask question, m⟩ = false := by
  cases question with
  | scriptLine number => exact absurd rfl (hquestion number)
  | _ => rfl

theorem isArrival_of_background (he : e.event.isMilestone = false) :
    e.isArrival = false := by
  unfold Entry.isArrival
  split
  · next he' =>
    rw [he'] at he
    cases he
  · rfl

theorem isDelivery_of_background (he : e.event.isMilestone = false) :
    e.isDelivery = false := by
  unfold Entry.isDelivery
  rw [decide_eq_false_iff_not]
  intro he'
  rw [he'] at he
  cases he

theorem arrival?_arrival (h : e.isArrival = true) :
    arrival? (e :: log) = some e.mission := by
  simp [arrival?, h]

theorem arrival?_cons (h : e.isArrival = false) :
    arrival? (e :: log) = arrival? log := by
  simp [arrival?, h]

theorem visit_cons (h : e.isArrival = false) :
    visit (e :: log) = e :: visit log := by
  simp [visit, h]

end

/-- Every entry follows the rule with respect to those before it. -/
def Chronicle (rule : Entry → List Entry → Prop) (log : List Entry) : Prop :=
  ∀ e earlier, e :: earlier <:+ log → rule e earlier

section

variable {rule : Entry → List Entry → Prop} {e : Entry} {log : List Entry}

theorem chronicle_nil : Chronicle rule [] := by
  intro e earlier h
  cases List.suffix_nil.1 h

theorem chronicle_cons :
    Chronicle rule (e :: log) ↔ rule e log ∧ Chronicle rule log := by
  constructor
  · intro h
    refine ⟨h e log (List.suffix_refl _), fun e' earlier h' => ?_⟩
    exact h e' earlier (h'.trans (List.suffix_cons e log))
  · rintro ⟨he, hlog⟩ e' earlier h
    rcases List.suffix_cons_iff.1 h with h | h
    · cases h
      exact he
    · exact hlog e' earlier h

theorem exists_suffix_cons :
    (∃ e' earlier, e' :: earlier <:+ e :: log ∧ rule e' earlier) ↔
    rule e log ∨ ∃ e' earlier, e' :: earlier <:+ log ∧ rule e' earlier := by
  constructor
  · rintro ⟨e', earlier, h, hrule⟩
    rcases List.suffix_cons_iff.1 h with h | h
    · cases h
      exact Or.inl hrule
    · exact Or.inr ⟨e', earlier, h, hrule⟩
  · rintro (hrule | ⟨e', earlier, h, hrule⟩)
    · exact ⟨e, log, List.suffix_refl _, hrule⟩
    · exact ⟨e', earlier, h.trans (List.suffix_cons e log), hrule⟩

instance decidableExistsSuffix [∀ e earlier, Decidable (rule e earlier)] :
    (log : List Entry) →
    Decidable (∃ e earlier, e :: earlier <:+ log ∧ rule e earlier)
  | [] => isFalse fun ⟨_, _, h, _⟩ => by cases List.suffix_nil.1 h
  | e :: log =>
    have := decidableExistsSuffix log
    decidable_of_iff
      (rule e log ∨ ∃ e' earlier, e' :: earlier <:+ log ∧ rule e' earlier)
      exists_suffix_cons.symm

end

/-- The moments of a flight that left the world `w`, each with the history up to
it: one for every event, and the end. -/
def World.Moment (w : World) (m : Mission) (earlier : List Entry) : Prop :=
  (∃ event, ⟨event, m⟩ :: earlier <:+ w.console.log) ∨ m = w.mission ∧
  earlier = w.console.log

theorem Interlude.history {history : List Entry → Prop} {w w' : World}
    (h : Interlude w w') (hkeep : ∀ e log, e.event.isMilestone = false →
      history log → history (e :: log)) (hw : history w.console.log) :
    history w'.console.log := by
  obtain ⟨entries, hlog, hentries⟩ := h.log
  rw [hlog]
  clear hlog
  induction entries with
  | nil => exact hw
  | cons e entries ih =>
    refine hkeep e _ (hentries e (List.mem_cons_self ..)).1 (ih fun e he => ?_)
    exact hentries e (List.mem_cons_of_mem _ he)

theorem history_steady {history : List Entry → Prop}
    (hkeep : ∀ e log, e.event.isMilestone = false →
      history log → history (e :: log)) :
    Steady fun w => history w.console.log :=
  fun _ _ h hw => h.history hkeep hw

section History

variable {history : List Entry → Prop} {halted : Halt → World → Prop}
  {advance : Flight Unit} {w : World}
  (hkeep : ∀ e log, e.event ≠ .say .linkTerminated →
    history log → history (e :: log))
  (hhalt : ∀ h w, history w.console.log → halted h w)
include hkeep

theorem steady_of_history : Steady fun w => history w.console.log := by
  refine history_steady fun e log he => hkeep e log ?_
  intro h
  rw [h] at he
  cases he

include hhalt

theorem collect_of_history (hw : history w.console.log) :
    collect.Yields w (fun _ w' => history w'.console.log) halted :=
  collect_keeps (steady_of_history hkeep) hw
    (fun _ _ _ hw _ _ _ => hkeep _ _ nofun hw) (fun w hw _ => hhalt _ w hw)
    fun w _ _ hw _ _ _ => hhalt _ w hw

theorem deliver_of_history
    (hadvance : ∀ w, history w.console.log →
      advance.Yields w (fun _ _ => False) halted)
    (hbase : w.mission.AtBase) (hw : history w.console.log) :
    (deliver advance).Yields w (fun _ _ => False) halted := by
  have hsteady := steady_of_history hkeep
  apply deliver_atBase hsteady hbase
  · exact fun w' h => hkeep _ _ nofun (hsteady _ w' h hw)
  · exact fun w hw _ _ => hhalt _ w hw
  · exact fun w hw _ => hhalt _ _ (hkeep _ _ nofun hw)
  · exact fun w line rest hw _ _ => hadvance _ (hkeep _ _ nofun hw)
  · intro w line rest w' hw _ _ h
    exact hhalt _ w' (hsteady _ _ h (hkeep _ _ nofun hw))

theorem encounter_of_history (hw : history w.console.log) :
    (encounter w.mission.ground).Yields w
      (fun _ w' => history w'.console.log) halted := by
  have hsteady := steady_of_history hkeep
  cases w.mission.ground with
  | uncharted =>
    exact explore_keeps hsteady hw (fun _ _ _ hw _ _ => hw)
      (fun _ hw => hkeep _ _ nofun hw) (fun _ _ hw _ => hkeep _ _ nofun hw)
      (fun w hw => hhalt _ w hw) (fun w hw _ => hhalt _ w hw)
      (fun w _ _ hw _ _ => hhalt _ w hw) fun _ hw _ => hhalt _ _ hw
  | charger =>
    exact recharge_keeps hsteady hw (fun _ hw => hkeep _ _ nofun hw)
      fun _ hw _ => hhalt _ _ hw
  | obstacle =>
    exact closing_crash.yields fun w' h => hhalt _ w' (hsteady _ _ h hw)
  | _ => exact (yields_pure _).2 hw

/-- A history that every event prolongs, but perhaps the loss of the link, goes
on through all commands. -/
theorem endures_of_history
    (hadvance : ∀ w, history w.console.log →
      advance.Yields w (fun _ _ => False) halted)
    (hdrive : ∀ direction w, history w.console.log →
      (drive direction).Yields w (fun _ w' => history w'.console.log) halted) :
    Endures advance (fun w => history w.console.log) halted := by
  have hsteady := steady_of_history hkeep
  have hencounter : ∀ w, history w.console.log →
      (encounter w.mission.ground).Yields w
        (fun _ w' => history w'.console.log) halted :=
    fun w hw => encounter_of_history hkeep hhalt hw
  constructor
  case steady => exact hsteady
  case exit => exact fun w hw => hhalt _ w hw
  case spend => exact fun _ hw => hw
  case drive => exact hdrive
  case collect => exact fun w hw => collect_of_history hkeep hhalt hw
  case deliver =>
    exact fun w hw hbase =>
      deliver_of_history hkeep hhalt hadvance hbase hw
  case explore =>
    intro w hw hground
    have hexplore := hencounter w hw
    rwa [hground] at hexplore
  case recharge =>
    intro w hw hground
    have hrecharge := hencounter w hw
    rwa [hground] at hrecharge
  case display =>
    intro w hw
    exact showMap_yields (fun w' h => hsteady _ _ h hw)
      fun _ w' h => hhalt _ w' (hsteady _ _ h hw)
  case condition => exact fun _ w _ hw _ => hhalt _ w hw

end History

section Lasting

variable {history : List Entry → Prop}
  (hkeep : ∀ e log, history log → history (e :: log))
include hkeep

theorem conduct_history :
    Conduct (fun _ w => history w.console.log)
      (fun _ w => history w.console.log) (fun _ w => history w.console.log)
      (fun _ _ w => history w.console.log)
      (fun _ _ w => history w.console.log)
      fun _ w => history w.console.log := by
  have hsteady := history_steady fun e log _ => hkeep e log
  constructor
  case load =>
    intro _ w hw
    refine loadSector_yields (fun _ => hw) (fun _ _ _ _ _ _ => hw)
      fun _ _ _ _ _ _ _ _ _ _ => ?_
    exact showMap_yields (fun w' h => hkeep _ _ (hsteady _ w' h hw))
      fun _ w' h => hsteady _ w' h hw
  case read => exact fun _ _ w _ _ hw _ => hkeep _ _ hw
  case ended => exact fun _ _ w hw _ => hkeep _ _ hw
  case submit => exact fun _ _ w hw _ => hkeep _ _ hw
  case reject => exact fun _ _ w hw _ => hkeep _ _ (hkeep _ _ hw)
  case rejectHidden => exact fun _ _ w hw _ => hkeep _ _ hw
  case accept => exact fun _ _ w hw _ => hkeep _ _ hw
  case run =>
    intro _ advance hadvance
    have hdrive : ∀ direction w, history w.console.log →
        (drive direction).Yields w (fun _ w' => history w'.console.log)
          fun _ w' => history w'.console.log :=
      fun _ _ hw => drive_frame hsteady (fun _ _ _ _ hw => hw)
        (fun _ hw => hkeep _ _ hw) hw (fun _ hw => hw) fun _ _ hw => hw
    exact (endures_of_history (fun e log _ => hkeep e log) (fun _ _ hw => hw)
      hadvance hdrive).unlocked.turnwise
  all_goals intros; first | exact hsteady | assumption

theorem startSector_history {w : World} (hw : history w.console.log) :
    (startSector compose).Yields w (fun _ _ => False)
      fun _ w' => history w'.console.log :=
  (conduct_history hkeep).startSector (n := 0)
    (fun _ hw hlocked => (conduct_history hkeep).compose hw hlocked) hw

end Lasting

theorem startSector_never_returns (w : World) :
    (startSector compose).Yields w (fun _ _ => False) fun _ _ => True :=
  @startSector_history (fun _ => True) (fun _ _ h => h) w trivial

end Rover

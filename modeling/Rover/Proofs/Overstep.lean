import Rover.Proofs.Journey

/-!
Over the perimeter.  On whatever level a run loses the link, it does so with a
move that steps out, and nothing has moved since the last event before it.
-/

namespace Rover

open Flight

def Mission.Unmoved (m m' : Mission) : Prop :=
  m'.rover = m.rover ∧ m'.grid = m.grid ∧ m'.block = m.block

namespace Mission.Unmoved

variable {m m' m'' : Mission}

theorem refl (m : Mission) : m.Unmoved m :=
  ⟨rfl, rfl, rfl⟩

theorem trans (h : m.Unmoved m') (h' : m'.Unmoved m'') : m.Unmoved m'' :=
  ⟨h'.1.trans h.1, h'.2.1.trans h.2.1, h'.2.2.trans h.2.2⟩

end Mission.Unmoved

def Mission.StepsOut (m : Mission) (deed : Option Command) : Prop :=
  ∃ p direction, m.rover = some p ∧ deed = some (.move direction) ∧
    m.grid.spans (p.step direction) = false

def linkLosses (log : List Entry) : Nat :=
  log.countP (·.event = .say .linkTerminated)

private theorem linkLosses_cons {e : Entry}
    (he : e.event ≠ .say .linkTerminated) (log : List Entry) :
    linkLosses (e :: log) = linkLosses log :=
  List.countP_cons_of_neg (by simpa using he)

theorem Interlude.linkLosses {w w' : World} (h : Interlude w w') :
    linkLosses w'.console.log = linkLosses w.console.log := by
  have hkeep : ∀ (e : Entry) log, e.event.isMilestone = false →
      Rover.linkLosses log = Rover.linkLosses w.console.log →
      Rover.linkLosses (e :: log) = Rover.linkLosses w.console.log := by
    intro e log he hlog
    refine (linkLosses_cons (fun heq => ?_) log).trans hlog
    rw [heq] at he
    cases he
  exact h.history hkeep rfl

theorem Cutoff.linkLosses {w w' : World} (h : Cutoff w w') :
    linkLosses w'.console.log = linkLosses w.console.log + 1 := by
  obtain ⟨w₁, h₁, h₂⟩ := h
  rw [h₂.linkLosses, World.note_log, ← h₁.linkLosses]
  exact List.countP_cons_of_pos (by simp)

/-- The mission at the latest event since the world `w`, or in `w` itself. -/
def World.lastSeen (w w' : World) : Mission :=
  if w'.console.log.length ≤ w.console.log.length then w.mission
  else w'.console.log.head?.elim w.mission Entry.mission

theorem World.lastSeen_cons {w w' : World} {e : Entry} {log : List Entry}
    (hlog : w'.console.log = e :: log) (hw : w.console.log <:+ log) :
    w.lastSeen w' = e.mission := by
  have hlength := hw.length_le
  rw [lastSeen, hlog, List.length_cons, if_neg (by omega)]
  rfl

/-- In `w₁`, on a run from `w`, the link has not been lost, and nothing has
moved since the last event. -/
structure OnRecord (w w₁ : World) : Prop where
  log : w.console.log <:+ w₁.console.log
  linked : linkLosses w₁.console.log = linkLosses w.console.log
  unmoved : (w.lastSeen w₁).Unmoved w₁.mission

/-- The run from `w` has ended in `w'` with a move over the perimeter, which the
rover was about to make in `w₁`. -/
structure Overstep (w w₁ w' : World) (direction : Direction) : Prop where
  before : OnRecord w w₁
  outward : w₁.mission.StepsOut (some (.move direction))
  lost : drive direction w₁.spend = loseSignal w₁.spend
  ended : drive direction w₁.spend = .error .exit w'
  unmoved : w₁.mission.Unmoved w'.mission

def LostOutside (w : World) (halt : Halt) (w' : World) : Prop :=
  linkLosses w.console.log < linkLosses w'.console.log →
    halt = .exit ∧ ∃ direction w₁, Overstep w w₁ w' direction

section Linked

variable {w w₁ w₂ : World}

private def Linked (w : World) (log : List Entry) : Prop :=
  w.console.log <:+ log ∧ linkLosses log = linkLosses w.console.log

private theorem linked_cons (e : Entry) (log : List Entry)
    (he : e.event ≠ .say .linkTerminated) (h : Linked w log) :
    Linked w (e :: log) :=
  ⟨h.1.trans (List.suffix_cons e log), (linkLosses_cons he log).trans h.2⟩

private theorem lostOutside_of_linked (halt : Halt) (w' : World)
    (h : Linked w w'.console.log) : LostOutside w halt w' := by
  intro hless
  rw [h.2] at hless
  exact absurd hless (Nat.lt_irrefl _)

namespace OnRecord

private theorem history (h : OnRecord w w₁) : Linked w w₁.console.log :=
  ⟨h.log, h.linked⟩

theorem refl (w : World) : OnRecord w w := by
  refine ⟨List.suffix_refl _, rfl, ?_⟩
  rw [World.lastSeen, if_pos (Nat.le_refl _)]
  exact .refl _

private theorem of_event {e : Entry} {log : List Entry}
    (hlog : w₁.console.log = e :: log) (hlinked : Linked w (e :: log))
    (hlast : w.console.log <:+ log) (he : e.mission.Unmoved w₁.mission) :
    OnRecord w w₁ := by
  refine ⟨hlog ▸ hlinked.1, hlog ▸ hlinked.2, ?_⟩
  rw [World.lastSeen_cons hlog hlast]
  exact he

theorem note (h : OnRecord w w₁) {event : Event}
    (hevent : event ≠ .say .linkTerminated) : OnRecord w (w₁.note event) :=
  of_event rfl (linked_cons _ _ hevent h.history) h.log (.refl _)

theorem alter (h : OnRecord w w₁) (hlog : w₂.console.log = w₁.console.log)
    (hmission : w₁.mission.Unmoved w₂.mission) : OnRecord w w₂ := by
  refine ⟨hlog ▸ h.log, hlog ▸ h.linked, ?_⟩
  rw [show w.lastSeen w₂ = w.lastSeen w₁ by
    rw [World.lastSeen, World.lastSeen, hlog]]
  exact h.unmoved.trans hmission

theorem store (h : OnRecord w w₁) (script : List String) :
    OnRecord w (w₁.store script) :=
  h.alter rfl ⟨rfl, rfl, rfl⟩

theorem refuse (h : OnRecord w w₁) (script : List String) :
    OnRecord w (w₁.refuse script) := by
  refine of_event rfl (linked_cons _ _ nofun h.history) h.log ?_
  exact .refl _

private theorem of_interlude (h : Interlude w₁ w₂)
    (hw₁ : Linked w w₁.console.log)
    (hne : w₂.console.log ≠ w₁.console.log) : OnRecord w w₂ := by
  have hlinked : Linked w w₂.console.log :=
    steady_of_history linked_cons w₁ w₂ h hw₁
  obtain ⟨entries, hlog, hentries⟩ := h.log
  cases entries with
  | nil => exact absurd hlog hne
  | cons e entries =>
    rw [hlog] at hlinked
    refine of_event hlog hlinked (hw₁.1.trans (List.suffix_append ..)) ?_
    rw [(hentries e List.mem_cons_self).2, h.mission]
    exact ⟨rfl, rfl, rfl⟩

theorem steady (w : World) : Steady (OnRecord w) := by
  intro w₁ w₂ h hw₁
  by_cases hlog : w₂.console.log = w₁.console.log
  · exact hw₁.alter hlog ⟨h.rover, h.grid, h.block⟩
  · exact of_interlude h hw₁.history hlog

end OnRecord

private theorem showMap_records (h : Linked w w₁.console.log) :
    showMap.Yields w₁ (fun _ => OnRecord w) (LostOutside w) := by
  refine (showMap_interlude w₁).mono
    (fun _ _ h' => .of_interlude h'.2.1 h h'.2.2) fun halt w' h' => ?_
  exact lostOutside_of_linked halt w'
    (steady_of_history linked_cons w₁ w' h'.2.2 h)

private theorem settle_records (h : Linked w w₁.console.log) :
    settle.Yields w₁ (fun _ => OnRecord w) (LostOutside w) := by
  rw [settle, yields_bind, yields_mission]
  refine (encounter_of_history linked_cons lostOutside_of_linked h).bind
    fun _ w₂ hw₂ => ?_
  exact showMap_records hw₂

private theorem loseSignal_cuts (w : World) :
    (loseSignal : Flight Unit).Yields w.spend (fun _ _ => False)
      fun halt w' => halt = .exit ∧
        linkLosses w'.console.log = linkLosses w.console.log + 1 ∧
        w.mission.Unmoved w'.mission := by
  refine loseSignal_yields fun w' hcutoff => ⟨rfl, hcutoff.linkLosses, ?_⟩
  rw [hcutoff.mission]
  exact ⟨rfl, rfl, rfl⟩

private theorem loseSignal_oversteps {p : Position} {direction : Direction}
    (h : OnRecord w w₁) (hp : w₁.mission.rover = some p)
    (hout : w₁.mission.grid.spans (p.step direction) = false) :
    (loseSignal : Flight Unit).Yields w₁.spend (fun _ _ => False)
      (LostOutside w) := by
  have hcut := loseSignal_cuts w₁
  have hlost : drive direction w₁.spend = loseSignal w₁.spend :=
    drive_out hp hout
  refine yields_of_run (fun _ w' hrun => hcut.ok hrun)
    fun halt w' hrun _ => ?_
  obtain ⟨rfl, -, hunmoved⟩ := hcut.error hrun
  exact ⟨rfl, direction, w₁, h, ⟨p, direction, hp, rfl, hout⟩, hlost,
    hlost.trans hrun, hunmoved⟩

variable {advance : Flight Unit}
  (hadvance : ∀ w₁, Linked w w₁.console.log →
    advance.Yields w₁ (fun _ _ => False) (LostOutside w))
include hadvance

private theorem command_records (c : Command) (h : OnRecord w w₁) :
    (c.run advance).Yields w₁ (fun _ w₂ => Linked w w₂.console.log)
      (LostOutside w) := by
  unfold Command.run
  rw [yields_bind, yields_update]
  cases c with
  | move direction =>
    refine drive_keeps (fun _ _ _ _ hw _ => hw) (fun _ _ _ hw => hw)
      h.history (fun p hp hout => ?_) fun w' _ => lostOutside_of_linked _ w'
    exact (loseSignal_oversteps h hp hout).of_never
  | observe =>
    exact quiet_observe.yields fun _ w₂ h' =>
      steady_of_history linked_cons _ w₂ h' h.history
  | collect =>
    exact collect_of_history linked_cons lostOutside_of_linked h.history
  | deliver =>
    by_cases hbase : w₁.mission.AtBase
    · exact (deliver_of_history (w := w₁.spend) linked_cons
        lostOutside_of_linked hadvance hbase h.history).of_never
    · exact deliver_elsewhere hbase fun w₂ h' =>
        steady_of_history linked_cons _ w₂ h' h.history
  | finish => exact (yields_pure _).2 h.history

private theorem turnwise_records :
    Turnwise advance (OnRecord w) (LostOutside w) where
  steady := OnRecord.steady w
  turn deed w₁ h := by
    cases deed with
    | none => exact settle_records h.history
    | some c =>
      exact (command_records hadvance c h).bind fun _ _ hw₂ =>
        settle_records hw₂
  condition _ w₁ _ h _ := lostOutside_of_linked _ w₁ h.history

private theorem turnwise_unlocked :
    Turnwise advance (fun w₁ => Linked w w₁.console.log ∧
      w₁.mission.locked = false) fun _ _ => True := by
  have hlost : ∀ w₁, (loseSignal : Flight Unit).Yields w₁
      (fun _ w₂ => Linked w w₂.console.log) fun _ _ => True :=
    fun _ => loseSignal_yields fun _ _ => trivial
  refine (endures_of_history linked_cons (fun _ _ _ => trivial)
    (fun w₁ h => ?_) fun direction w₁ h => ?_).unlocked.turnwise
  · exact (hadvance w₁ h).mono (fun _ _ h => h) fun _ _ _ => trivial
  · exact drive_keeps (fun _ _ _ _ hw _ => hw) (fun _ _ _ hw => hw) h
      (fun _ _ _ => hlost w₁) fun _ _ _ => trivial

omit hadvance

private theorem conduct_records (w : World) :
    Conduct (fun _ w₁ => Linked w w₁.console.log) (fun _ => OnRecord w)
      (fun _ => OnRecord w) (fun _ _ => OnRecord w) (fun _ _ => OnRecord w)
      (LostOutside w) := by
  have hhalt : ∀ halt w₁, OnRecord w w₁ → LostOutside w halt w₁ :=
    fun halt w₁ h => lostOutside_of_linked halt w₁ h.history
  have hlinked := steady_of_history (linked_cons (w := w))
  constructor
  case steadyEntering => exact fun _ => hlinked
  case steadyComposing => exact fun _ => OnRecord.steady w
  case steadyReading => exact fun _ _ => OnRecord.steady w
  case steadySubmitted => exact fun _ _ => OnRecord.steady w
  case load =>
    intro _ w₁ h
    refine loadSector_yields (fun _ => lostOutside_of_linked _ w₁ h)
      (fun _ _ _ _ _ _ => lostOutside_of_linked _ _ h)
      fun _ executions memory battery map _ _ _ _ _ => ?_
    have hland : Linked w
        (w₁.land executions memory battery map).console.log := h
    exact (showMap_records hland).imp fun _ _ h => h.note nofun
  case exhausted => exact fun w₁ h => hhalt _ w₁ h
  case start => exact fun _ _ h => h
  case read =>
    intro _ script w₁ line rest h _
    have hasked : OnRecord w
        (w₁.note (.ask (.scriptLine (script.length + 1)))) := h.note nofun
    exact hasked.alter rfl ⟨rfl, rfl, rfl⟩
  case ended => exact fun _ _ w₁ h _ => hhalt _ _ (h.note nofun)
  case submit => exact fun _ _ w₁ h _ => h.note nofun
  case reject => exact fun _ script w₁ h _ => (h.refuse script).note nofun
  case rejectHidden =>
    exact fun _ script w₁ h _ => hhalt _ _ (h.refuse script)
  case accept => exact fun _ script w₁ h _ => (h.store script).note nofun
  case acceptHidden =>
    exact fun _ script w₁ h _ _ => hhalt _ _ (h.store script)
  case run =>
    intro _ advance hadvance
    have hrecords := turnwise_records hadvance
    have hunlocked := turnwise_unlocked hadvance
    constructor
    case steady =>
      exact fun w₁ w₂ h hw₁ =>
        ⟨OnRecord.steady w w₁ w₂ h hw₁.1, h.unlocked hw₁.2⟩
    case turn =>
      intro deed w₁ h
      have hturn := hunlocked.turn deed w₁ ⟨h.1.history, h.2⟩
      exact ((hrecords.turn deed w₁ h.1).and hturn).mono
        (fun _ _ h => ⟨h.1, h.2.2⟩) fun _ _ h => h.1
    case condition =>
      exact fun c w₁ cause h => hrecords.condition c w₁ cause h.1
  case stop => exact fun _ w₁ h => hhalt _ w₁ h
  case overrun => exact fun _ _ w₁ h _ => hhalt _ w₁ h
  case next => exact fun _ _ h _ _ => h

theorem obey_oversteps (lines : List String) (w : World) :
    (obey lines).Yields w (fun _ => OnRecord w) (LostOutside w) := by
  have hconduct := conduct_records w
  have hturnwise : Turnwise (startSector compose) (OnRecord w)
      (LostOutside w) :=
    turnwise_records fun _ h => hconduct.startSector (n := 0)
      (fun _ h hlocked => hconduct.compose h hlocked) h
  apply yields_forM (OnRecord w)
  · intro line _ w₁ h
    exact parse_yields hturnwise
      (fun _ w₂ _ h => lostOutside_of_linked _ w₂ h.history) line h
  · exact .refl w

end Linked

theorem turn_out_exits {w : World} {deed : Option Command}
    (advance : Flight Unit) (hout : w.mission.StepsOut deed) :
    ∃ w', turn advance deed w = .error .exit w' ∧
      linkLosses w.console.log < linkLosses w'.console.log ∧
      w.mission.Unmoved w'.mission := by
  obtain ⟨p, direction, hp, rfl, houtside⟩ := hout
  have hlost : drive direction w.spend = loseSignal w.spend :=
    drive_out hp houtside
  obtain ⟨_, w', hrun, rfl, hlosses, hunmoved⟩ :=
    (loseSignal_cuts w).exists_error
  refine ⟨w', bind_of_error (hlost.trans hrun), ?_, hunmoved⟩
  rw [hlosses]
  exact Nat.lt_succ_self _

end Rover

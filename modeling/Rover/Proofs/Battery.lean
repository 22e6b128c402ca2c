import Rover.Proofs.Chronicle

namespace Rover

open Flight

/-- The charge that an entry tells of: what the ground had on offer, and what
the battery took. -/
def Entry.charge? (e : Entry) : Option (Int × Int) :=
  match e.event with
  | .say (.charged amount) => some (25, amount)
  | .say (.solarFlare amount) => some (15, amount)
  | _ => none

def Atlas.Powered (atlas : Atlas) : Prop :=
  ∀ level sector battery, atlas.sector? level = some sector →
    sector.battery = some battery →
    1 ≤ battery ∧ battery ≤ fullCharge

structure Entry.Powered (e : Entry) : Prop where
  full : e.mission.battery ≤ fullCharge
  charge : ∀ offer amount, e.charge? = some (offer, amount) → 0 ≤ amount ∧
    amount ≤ offer
  prompt : e.isScriptPrompt = true → 1 ≤ e.mission.battery

private theorem charge?_of_background {e : Entry}
    (he : e.event.isMilestone = false) :
    e.charge? = none := by
  unfold Entry.charge?
  split
  · next hevent =>
    rw [hevent] at he
    cases he
  · next hevent =>
    rw [hevent] at he
    cases he
  · rfl

theorem Entry.powered {e : Entry} (hfull : e.mission.battery ≤ fullCharge)
    (hcharge : e.charge? = none) (hprompt : e.isScriptPrompt = false) :
    e.Powered where
  full := hfull
  charge offer amount h := by cases hcharge.symm.trans h
  prompt h := by cases hprompt.symm.trans h

theorem Mission.intake_bounds {m : Mission} {offer : Int}
    (hm : m.battery ≤ fullCharge) (hoffer : 0 ≤ offer) :
    0 ≤ m.intake offer ∧ m.intake offer ≤ offer := by
  unfold Mission.intake
  omega

theorem Mission.battery_intake_le (m : Mission) (offer : Int) :
    m.battery + m.intake offer ≤ fullCharge := by
  unfold Mission.intake
  omega

structure WithinCharge (w : World) : Prop where
  full : w.mission.battery ≤ fullCharge
  log : ∀ e ∈ w.console.log, e.Powered

structure Operates (chart : Atlas) (w : World) : Prop
    extends WithinCharge w where
  atlas : w.atlas = chart
  moveCost : 0 ≤ w.mission.moveCost

structure Ready (chart : Atlas) (w : World) : Prop
    extends Operates chart w where
  power : 1 ≤ w.mission.battery

variable {chart : Atlas} {w w' : World}

theorem WithinCharge.note (h : WithinCharge w) {event : Event}
    (hevent : Entry.Powered ⟨event, w.mission⟩) :
    WithinCharge (w.note event) where
  full := h.full
  log e he := by
    rcases List.mem_cons.1 he with rfl | he
    · exact hevent
    · exact h.log e he

theorem WithinCharge.steady : Steady WithinCharge := by
  intro w w' h hw
  have hfull : ∀ m : Mission, m = { w.mission with locked := m.locked } →
      m.battery ≤ fullCharge := by
    intro m hm
    rw [hm]
    exact hw.full
  refine ⟨hfull _ h.mission, fun e he => ?_⟩
  obtain ⟨entries, hlog, hentries⟩ := h.log
  rw [hlog, List.mem_append] at he
  rcases he with he | he
  · obtain ⟨hbackground, hmission⟩ := hentries e he
    exact Entry.powered (hfull _ hmission) (charge?_of_background hbackground)
      (isScriptPrompt_of_background hbackground)
  · exact hw.log e he

namespace Operates

theorem steady (chart : Atlas) : Steady (Operates chart) := by
  intro w w' h hw
  refine { WithinCharge.steady w w' h hw.toWithinCharge with
    atlas := ?_, moveCost := ?_ }
  · exact h.atlas.trans hw.atlas
  · rw [h.mission]
    exact hw.moveCost

theorem note (h : Operates chart w)
    {event : Event} (hcharge : Entry.charge? ⟨event, w.mission⟩ = none)
    (hprompt : Entry.isScriptPrompt ⟨event, w.mission⟩ = false) :
    Operates chart (w.note event) :=
  { h.toWithinCharge.note (Entry.powered h.full hcharge hprompt) with
    atlas := h.atlas
    moveCost := h.moveCost }

theorem hear (h : Operates chart w) (question : Prompt)
    (hquestion : ∀ number, question ≠ .scriptLine number) (rest : List String) :
    Operates chart (w.hear question rest) := by
  have hasked : Operates chart (w.note (.ask question)) :=
    h.note rfl (isScriptPrompt_ask hquestion)
  exact { hasked with }

theorem charge (h : Operates chart w) {offer : Int} (hoffer : 0 ≤ offer)
    {message : Message} (hmessage : Entry.charge? ⟨.say message, w.mission⟩ =
      some (offer, w.mission.intake offer)) :
    Operates chart
      (w.power (w.mission.battery + w.mission.intake offer) message) := by
  have hfull := w.mission.battery_intake_le offer
  have hbounds := Mission.intake_bounds h.full hoffer
  refine
    { full := hfull,
      log := fun e he => ?_, atlas := h.atlas, moveCost := h.moveCost }
  rcases List.mem_cons.1 he with rfl | he
  · refine ⟨hfull, fun offer' amount hcharge => ?_,
      fun hprompt => by cases hprompt⟩
    cases hmessage.symm.trans hcharge
    exact hbounds
  · exact h.log e he

theorem drain (h : Operates chart w) (lot : Nat) :
    Operates chart (w.power (max 0 (w.mission.battery - (5 + lot)))
        (.interference (5 + lot))) := by
  have hfull : max 0 (w.mission.battery - (5 + lot)) ≤ fullCharge := by
    have := h.full
    unfold fullCharge at *
    omega
  have hdrained : Operates chart
      (w.alter ({ · with battery := max 0 (w.mission.battery - (5 + lot)) })) :=
    { h with full := hfull }
  exact hdrained.note rfl rfl

end Operates

namespace Ready

theorem steady (chart : Atlas) : Steady (Ready chart) := by
  intro w w' h hw
  refine { Operates.steady chart w w' h hw.toOperates with power := ?_ }
  rw [h.mission]
  exact hw.power

theorem note (h : Ready chart w) {event : Event}
    (hcharge : Entry.charge? ⟨event, w.mission⟩ = none) :
    Ready chart (w.note event) := by
  have hpowered : Entry.Powered ⟨event, w.mission⟩ :=
    ⟨h.full, fun offer amount hsome => (by cases hcharge.symm.trans hsome),
      fun _ => h.power⟩
  exact { h.toWithinCharge.note hpowered with
    atlas := h.atlas
    moveCost := h.moveCost
    power := h.power }

theorem refuse (h : Ready chart w) (script : List String) :
    Ready chart (w.refuse script) := by
  have hspent : Ready chart (w.alter fun m =>
    { m with
      scriptSize := m.sizeOfScript script, executions := m.executions - 1 }) :=
      { h with }
  exact hspent.note rfl

end Ready

/-- Since `w`, every charge that the log tells of was added to the battery as it
was then. -/
def Applied (w w' : World) : Prop :=
  ∃ entries, w'.console.log = entries ++ w.console.log ∧
    ∀ e ∈ entries, ∀ offer amount, e.charge? = some (offer, amount) →
      e.mission.battery = w.mission.battery + amount

theorem Applied.power (h : Applied w w') (battery : Int) {message : Message}
    (hmessage : ∀ offer amount, Entry.charge? ⟨.say message, w'.mission⟩ =
      some (offer, amount) → battery = w.mission.battery + amount) :
    Applied w (w'.power battery message) := by
  obtain ⟨entries, hlog, hentries⟩ := h
  refine ⟨⟨.say message, { w'.mission with battery }⟩ :: entries, ?_,
    fun e he => ?_⟩
  · change _ :: w'.console.log = _
    rw [hlog]
    rfl
  · rcases List.mem_cons.1 he with rfl | he
    · exact hmessage
    · exact hentries e he

theorem Applied.steady (w : World) : Steady (Applied w) := by
  rintro w₁ w₂ h ⟨entries, hlog, hentries⟩
  obtain ⟨entries', hlog', hbackground⟩ := h.log
  refine ⟨entries' ++ entries, by rw [hlog', hlog, List.append_assoc],
    fun e he => ?_⟩
  rcases List.mem_append.1 he with he | he
  · intro offer amount hcharge
    cases (charge?_of_background (hbackground e he).1).symm.trans hcharge
  · exact hentries e he

end Rover

import Rover.Proofs.Journey

namespace Rover

open Flight

namespace Stop

def isAt (p : Position) (stop : Stop) : Bool :=
  stop.position = some p

def isAttemptAt (p : Position) (stop : Stop) : Bool :=
  stop.deed = some .collect ∧ stop.position = some p

end Stop

namespace Journey

variable {w w' : World} {stops : List Stop}

theorem outcomes (h : Journey (startSector compose) w stops w')
    (hw : w.mission.Landed) (q : Position) :
    tallyAt Entry.isOutcome q w'.console.log =
      tallyAt Entry.isOutcome q w.console.log +
      if w.mission.groundAt q = .uncharted
        then stops.countP (Stop.isAt q) else 0 := by
  induction h with
  | rest h =>
    rw [h.outcomes, List.countP_nil, ite_self, Nat.add_zero]
  | @turn w₁ w₂ w₃ stops deed h hturn hrest ih =>
    have hw₁ := h.conserves hw
    obtain ⟨p, hp, hhas, hturned⟩ := turned_of_landed (hw₁.landed hw) hturn
    have hground : w₂.mission.ground = w.mission.groundAt (p.after deed) := by
      rw [hturned.ground_eq hp hhas, hw₁.groundAt hw]
    rw [hrest.outcomes, hturned.outcomes, ih, hground, List.countP_cons,
      Stop.isAt, hturned.rover]
    by_cases hq : p.after deed = q
    · subst hq
      by_cases huncharted : w.mission.groundAt (p.after deed) = .uncharted
      · simp [huncharted, Nat.add_assoc]
      · simp [huncharted]
    · simp [hq]

theorem collections (h : Journey (startSector compose) w stops w')
    (hw : w.mission.Landed) (q : Position) :
    tallyAt Entry.isCollection q w'.console.log =
      tallyAt Entry.isCollection q w.console.log +
      if w.mission.groundAt q = .sample
        then stops.countP (Stop.isAttemptAt q) else 0 := by
  induction h with
  | rest h =>
    rw [h.collections, List.countP_nil, ite_self, Nat.add_zero]
  | @turn w₁ w₂ w₃ stops deed h hturn hrest ih =>
    have hw₁ := h.conserves hw
    obtain ⟨p, hp, hhas, hturned⟩ := turned_of_landed (hw₁.landed hw) hturn
    have hground : w₁.mission.ground = w.mission.groundAt p := by
      rw [Mission.ground_eq hp hhas, hw₁.groundAt hw]
    rw [hrest.collections, hturned.collections, ih, hground, List.countP_cons,
      Stop.isAttemptAt, hturned.rover]
    by_cases hdeed : deed = some .collect
    · subst hdeed
      have hafter : p.after (some .collect) = p := rfl
      rw [hafter]
      by_cases hq : p = q
      · subst hq
        by_cases hsample : w.mission.groundAt p = .sample
        · simp [hsample, Nat.add_assoc]
        · simp [hsample]
      · simp [hq]
    · simp [hdeed]

end Journey

/-- On whatever ground the rover moves, any lines that return are run as a
series of turns.  Every turn that ends on uncharted ground has an outcome there,
and every attempt to collect where there is a sample brings one in, however
often that happened before; elsewhere neither ever happens. -/
theorem explored_ground_is_never_used_up (lines : List String) (w w' : World)
    (hw : w.mission.Landed) (hrun : obey lines w = .ok () w') :
    ∃ stops, Journey (startSector compose) w stops w' ∧ ∀ p,
      (tallyAt Entry.isOutcome p w'.console.log =
          tallyAt Entry.isOutcome p w.console.log +
        if w.mission.groundAt p = .uncharted
          then stops.countP (Stop.isAt p) else 0) ∧
      tallyAt Entry.isCollection p w'.console.log =
        tallyAt Entry.isCollection p w.console.log +
        if w.mission.groundAt p = .sample
          then stops.countP (Stop.isAttemptAt p) else 0 := by
  obtain ⟨stops, hjourney⟩ := (obey_journeys lines w).ok hrun
  exact ⟨stops, hjourney,
    fun p => ⟨hjourney.outcomes hw p, hjourney.collections hw p⟩⟩

def prospect : World where
  mission := Mission.deploy { battery := 50 } [["[R]", "[?]", "[S]"]]
  atlas := ⟨[]⟩

theorem prospect_yields_twice :
    ∃ w' stops, obey ["mve", "end", "mve", "clt", "clt"] prospect = .ok () w' ∧
      Journey (startSector compose) prospect stops w' ∧
      (tallyAt Entry.isOutcome ⟨0, 1⟩ w'.console.log = 2 ∧
        stops.countP (Stop.isAt ⟨0, 1⟩) = 2) ∧
      tallyAt Entry.isCollection ⟨0, 2⟩ w'.console.log = 2 ∧
      stops.countP (Stop.isAttemptAt ⟨0, 2⟩) = 2 := by
  have hrun := ok_final (by decide +kernel :
    (obey ["mve", "end", "mve", "clt", "clt"]).returns prospect = true)
  obtain ⟨stops, hjourney, htally⟩ := explored_ground_is_never_used_up _ _ _
    ⟨⟨0, 0⟩, by decide +kernel⟩ hrun
  have houtcomes := (htally ⟨0, 1⟩).1
  have hcollections := (htally ⟨0, 2⟩).2
  have htwo :
      let w' := (obey ["mve", "end", "mve", "clt", "clt"]).final prospect
      tallyAt Entry.isOutcome ⟨0, 1⟩ w'.console.log = 2 ∧
      tallyAt Entry.isCollection ⟨0, 2⟩ w'.console.log = 2 := by
    decide +kernel
  have hground : prospect.mission.groundAt ⟨0, 1⟩ = .uncharted ∧
      prospect.mission.groundAt ⟨0, 2⟩ = .sample := by
    decide +kernel
  have hempty : ∀ kind p, tallyAt kind p prospect.console.log = 0 :=
    fun _ _ => rfl
  rw [htwo.1, hempty, Nat.zero_add, if_pos hground.1] at houtcomes
  rw [htwo.2, hempty, Nat.zero_add, if_pos hground.2] at hcollections
  exact ⟨_, stops, hrun, hjourney, ⟨htwo.1, houtcomes.symm⟩, htwo.2,
    hcollections.symm⟩

end Rover

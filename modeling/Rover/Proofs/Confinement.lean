import Rover.Atlas.Kepler
import Rover.Proofs.Termination

/-!
What can go wrong.  On a well-formed atlas the rover always stands on a cell and
no amount grows out of bounds, so a campaign ends by exiting, for want of input
or of a next sector, or because of what the player wrote into a condition or a
loop.
-/

namespace Rover

open Flight

def entryBound : Nat := 0x20000000000000

structure Sector.WellFormed (s : Sector) : Prop where
  executions : ∃ n, s.executions = some n ∧ n.natAbs < entryBound
  memory : ∃ n, s.memory = some n ∧ n.natAbs < entryBound
  battery : ∃ n, s.battery = some n ∧ n.natAbs < entryBound
  map : ∃ map, s.map = some map ∧ map.IsRectangle ∧ ∃ row ∈ map,
    Cell.rover ∈ row

def Atlas.WellFormed (atlas : Atlas) : Prop :=
  ∀ level sector, atlas.sector? level = some sector → sector.WellFormed

/-- The lines can be counted, and so can the characters of each. -/
def Addressable (inputs : List String) : Prop :=
  inputs.length < addressSpace ∧ ∀ line ∈ inputs, line.length < addressSpace

instance (inputs : List String) : Decidable (Addressable inputs) :=
  inferInstanceAs (Decidable (_ ∧ _))

/-- The ends of a campaign. -/
inductive Foreseen (atlas : Atlas) : Halt → World → Prop
  | exit (w : World) : Foreseen atlas .exit w
  | endOfInput (w : World) (question : Prompt) (h : w.console.inputs = []) :
    Foreseen atlas (.fault .endOfInput) (w.note (.ask question))
  | missingSector (w : World) (h : atlas.sector? w.mission.level = none) :
    Foreseen atlas (.fault (.missingSector w.mission.level)) w
  | incomparable (w : World) (comparison : Comparison)
    (left right : Value.Kind)
    (h : comparison ≠ .equal ∧ comparison ≠ .notEqual) :
    Foreseen atlas (.fault (.incomparable comparison left right)) w
  | loop (w : World) (cause : Fault) (h : cause.IsLoop) :
    Foreseen atlas (.fault cause) w
  /-- The map was to show a charge with more digits than can be shown. -/
  | overdraft (w₀ w : World)
    (hshow : showMap w₀ = .error (.fault .notShowable) w)
    (hbattery : w.mission.battery ≤ -(Numeral.ceiling : Int)) :
    Foreseen atlas (.fault .notShowable) w

private theorem roundToBits_of_lt {n : Nat} (h : n < entryBound) :
    roundToBits Bonus.precision n = n := by
  have hlog : n.log2 + 1 - Bonus.precision = 0 := by
    by_cases hn : n = 0
    · subst hn
      decide
    · have hlt : n.log2 < 53 := (Nat.log2_lt hn).2 h
      rw [Bonus.precision]
      omega
  unfold roundToBits
  rw [hlog]
  simp [Nat.mod_one]

theorem Bonus.ofBytes?_ne_none {bytes : Int}
    (hbytes : bytes.natAbs < entryBound) :
    Bonus.ofBytes? bytes ≠ none := by
  have hceiling : entryBound ≤ Bonus.ceiling := by decide +kernel
  have hsmall : ¬Bonus.ceiling ≤ bytes.natAbs :=
    Nat.not_le.2 (Nat.lt_of_lt_of_le hbytes hceiling)
  unfold Bonus.ofBytes?
  simp only [roundToBits_of_lt hbytes]
  rw [if_neg hsmall]
  split
  · nofun
  · nofun

section

variable {m : Mission} (hlanded : m.Landed) (hfull : m.grid.Full)
include hlanded hfull

theorem Mission.exists_lookAhead (d : Direction) :
    ∃ value, m.lookAhead d = .ok value := by
  obtain ⟨p, hp, -⟩ := hlanded
  unfold Mission.lookAhead
  rw [hp]
  dsimp only
  split
  · next hspans =>
    rw [Grid.cell?_of_has (hfull _ hspans)]
    exact ⟨_, rfl⟩
  · exact ⟨_, rfl⟩

theorem Operand.exists_value (o : Operand) :
    ∃ value, o.value m = .ok value := by
  cases o with
  | gauge g => exact ⟨_, rfl⟩
  | ahead d => exact Mission.exists_lookAhead hlanded hfull d
  | number n => exact ⟨_, rfl⟩
  | text s => exact ⟨_, rfl⟩

theorem Condition.decide_error {c : Condition} {cause : Fault}
    (h : c.decide m = .error cause) :
    ∃ comparison left right, cause = .incomparable comparison left right ∧
      comparison ≠ .equal ∧ comparison ≠ .notEqual := by
  obtain ⟨left, hleft⟩ := Operand.exists_value hlanded hfull c.left
  obtain ⟨right, hright⟩ := Operand.exists_value hlanded hfull c.right
  simp only [Condition.decide, hleft, hright, bind, Except.bind] at h
  cases hcomparison : c.comparison with
  | none =>
    rw [hcomparison] at h
    cases h
  | some comparison =>
    rw [hcomparison] at h
    dsimp only at h
    cases htest : comparison.test? left right with
    | some outcome =>
      rw [htest] at h
      cases h
    | none =>
      rw [htest] at h
      cases h
      refine ⟨_, _, _, rfl, ?_, ?_⟩
      · rintro rfl
        cases htest
      · rintro rfl
        cases htest

end

structure Mission.Sound (m : Mission) : Prop where
  landed : m.Landed
  full : m.grid.Full
  memory : m.memory.natAbs < entryBound
  remaining : m.remaining = m.memory ∨ 0 ≤ m.remaining ∧ m.remaining ≤ m.memory
  battery : m.battery < entryBound
  executions : m.executions < entryBound

namespace Mission.Sound

variable {m : Mission} {p : Position} {c : Cell} {grid : Grid}

theorem enter (h : m.Sound) (hp : m.rover = some p) {target : Position}
    (htarget : m.grid.Has target) : (m.enter target).Sound := by
  have hterrain := terrain_of_rover hp
  have hgrid : (m.enter target).grid =
      (m.grid.replace p m.block).replace target Cell.rover := by
    rw [← hterrain]
    rfl
  refine { h with landed := ⟨target, rfl, ?_⟩, full := ?_ }
  · rw [hgrid]
    exact Grid.has_replace.2 (Grid.has_replace.2 htarget)
  · rw [hgrid]
    exact h.full.replace.replace

theorem put (h : m.Sound) (hp : m.rover = some p)
    (hgrid : m.grid.put p c = .ok grid) :
    ({ m with grid := grid } : Mission).Sound := by
  have hhas := h.landed.has hp
  rw [Grid.put_of_has hhas] at hgrid
  cases hgrid
  exact { h with
    landed := ⟨p, hp, Grid.has_replace.2 hhas⟩, full := h.full.replace }

theorem drill (h : m.Sound) (hp : m.rover = some p)
    (hgrid : m.grid.Drilled p grid) :
    ({ m with grid := grid, onboard := true } : Mission).Sound := by
  rcases hgrid with ⟨-, hgrid⟩ | ⟨-, rfl⟩
  · exact { h.put hp hgrid with }
  · exact { h with }

theorem recharge (h : m.Sound) {battery : Int}
    (hbattery : battery < entryBound) :
    ({ m with battery := battery } : Mission).Sound :=
  { h with battery := hbattery }

theorem intake_showable (h : m.Sound) {offer : Int}
    (hoffer : 0 ≤ offer ∧ offer ≤ 100) :
    Numeral.isShowable (m.intake offer) = true := by
  have hbattery := h.battery
  simp only [entryBound] at hbattery
  apply Numeral.isShowable_of_lt
  rw [Mission.intake, fullCharge]
  omega

theorem battery_intake (h : m.Sound) (offer : Int) :
    m.battery + m.intake offer < entryBound := by
  have hbattery := h.battery
  simp only [entryBound] at hbattery ⊢
  rw [Mission.intake, fullCharge]
  omega

end Mission.Sound

structure Provided (atlas : Atlas) (inputs : List String) (w : World) :
    Prop where
  atlas : w.atlas = atlas
  charSize : w.mission.charSize = 8
  moveCost : w.mission.moveCost = 2
  lines : w.console.inputs.length ≤ inputs.length
  text : scriptLength w.console.inputs ≤ scriptLength inputs

/-- Every execution was paid for with a line, of which `owed` are not yet
spent. -/
structure Roams (atlas : Atlas) (inputs : List String) (owed : Nat)
    (w : World) : Prop
    extends Provided atlas inputs w where
  sound : w.mission.Sound
  spent : -(entryBound : Int) + owed + w.console.inputs.length ≤
    w.mission.executions + inputs.length

section

variable {atlas : Atlas} {inputs : List String} {owed : Nat} {w : World}

theorem Provided.steady (atlas : Atlas) (inputs : List String) :
    Steady (Provided atlas inputs) := by
  intro w w' h hw
  refine ⟨h.atlas.trans hw.atlas, ?_, ?_, ?_, ?_⟩
  · rw [h.mission]
    exact hw.charSize
  · rw [h.mission]
    exact hw.moveCost
  · rw [h.inputs]
    exact hw.lines
  · rw [h.inputs]
    exact hw.text

theorem Roams.steady (atlas : Atlas) (inputs : List String) (owed : Nat) :
    Steady (Roams atlas inputs owed) := by
  intro w w' h hw
  refine { Provided.steady atlas inputs w w' h hw.toProvided with
    sound := ?_, spent := ?_ }
  · rw [h.mission]
    exact { hw.sound with }
  · rw [h.mission, h.inputs]
    exact hw.spent

theorem Roams.overdrawn (h : Roams atlas inputs owed w)
    (haddress : Addressable inputs) (hhidden : w.mission.isShowable = false) :
    w.mission.battery ≤ -(Numeral.ceiling : Int) := by
  apply Classical.byContradiction
  intro hbattery
  have hsound := h.sound
  have hmemory := hsound.memory
  have hremaining := hsound.remaining
  have hcharge := hsound.battery
  have hexecutions := hsound.executions
  have hspent := h.spent
  have hlines := haddress.1
  simp only [addressSpace] at hlines
  simp only [entryBound] at hmemory hcharge hexecutions hspent
  have hshown : Numeral.isShowable w.mission.battery = true := by
    by_cases hsign : 0 ≤ w.mission.battery
    · exact Numeral.isShowable_of_lt (by omega)
    · unfold Numeral.isShowable
      generalize Numeral.ceiling = ceiling at *
      exact decide_eq_true (by omega)
  -- Executions sink by one for every script, and a script has taken a line.
  have hrest : ∀ n ∈ [w.mission.remaining,
      w.mission.memory - w.mission.remaining, w.mission.executions],
      Numeral.isShowable n = true := by
    intro n hn
    apply Numeral.isShowable_of_lt
    simp only [List.mem_cons, List.not_mem_nil, or_false] at hn
    omega
  have hall : w.mission.isShowable = true := by
    simp only [Mission.isShowable, List.all_eq_true]
    intro n hn
    rcases List.mem_cons.1 hn with rfl | hn
    · exact hshown
    · exact hrest n hn
  cases hhidden.symm.trans hall

theorem Provided.hear (h : Provided atlas inputs w)
    (question : Prompt) {line : String} {rest : List String}
    (hinputs : w.console.inputs = line :: rest) :
    Provided atlas inputs (w.hear question rest) := by
  have hlines := h.lines
  have htext := h.text
  rw [hinputs, List.length_cons] at hlines
  rw [hinputs, scriptLength] at htext
  refine ⟨h.atlas, h.charSize, h.moveCost, ?_, ?_⟩
  · rw [World.hear_inputs]
    omega
  · rw [World.hear_inputs]
    omega

def Confined (atlas : Atlas) (h : Halt) (w : World) : Prop :=
  h = .stalled ∨ Foreseen atlas h w

theorem Roams.display {inv : World → Prop} (hsteady : Steady inv) (hw : inv w)
    (h : Roams atlas inputs owed w) (haddress : Addressable inputs) :
    showMap.Yields w (fun _ => inv) (Confined atlas) := by
  have hshown : showMap.Yields w (fun _ => inv) fun halt w' =>
      halt = .fault .notShowable ∧ w.mission.isShowable = false ∧
        Interlude w w' :=
    showMap_yields (fun w' hw' => hsteady w w' hw' hw)
      fun hhidden w' hw' => ⟨rfl, hhidden, hw'⟩
  refine yields_of_run (fun _ w' hrun => hshown.ok hrun) fun halt w' hrun => ?_
  obtain ⟨rfl, hhidden, hw'⟩ := hshown.error hrun
  refine Or.inr (.overdraft w w' hrun ?_)
  rw [hw'.mission]
  exact h.overdrawn haddress hhidden

def Executes (atlas : Atlas) (inputs : List String) (w : World) : Prop :=
  Roams atlas inputs 0 w ∧ 0 ≤ w.mission.scriptSize ∧
  w.mission.scriptSize ≤ w.mission.memory

theorem Executes.steady (atlas : Atlas) (inputs : List String) :
    Steady (Executes atlas inputs) := by
  rintro w w' h ⟨hw, hsize⟩
  refine ⟨Roams.steady atlas inputs 0 w w' h hw, ?_⟩
  rw [h.mission]
  exact hsize

def World.endowment (w : World) :
    Atlas × List String × Int × Int × Int × Int × Int :=
  (w.atlas, w.console.inputs, w.mission.charSize, w.mission.moveCost,
    w.mission.executions,
    w.mission.memory, w.mission.scriptSize)

theorem Executes.of_sound {w' : World} (h : Executes atlas inputs w)
    (hsound : w'.mission.Sound) (hkept : w'.endowment = w.endowment) :
    Executes atlas inputs w' := by
  obtain ⟨hw, hsize⟩ := h
  simp only [World.endowment, Prod.mk.injEq] at hkept
  obtain ⟨hatlas, hinputs, hcharSize, hmoveCost, hexecutions, hmemory,
    hscript⟩ := hkept
  refine ⟨⟨⟨hatlas.trans hw.atlas, hcharSize.trans hw.charSize,
      hmoveCost.trans hw.moveCost, ?_, ?_⟩, hsound, ?_⟩, ?_⟩
  · rw [hinputs]
    exact hw.lines
  · rw [hinputs]
    exact hw.text
  · rw [hexecutions, hinputs]
    exact hw.spent
  · rw [hscript, hmemory]
    exact hsize

theorem Executes.deliver {advance : Flight Unit} (h : Executes atlas inputs w)
    (hbase : w.mission.AtBase)
    (hadvance : ∀ w, Provided atlas inputs w →
      advance.Yields w (fun _ _ => False) (Confined atlas)) :
    (Rover.deliver advance).Yields w (fun _ _ => False) (Confined atlas) := by
  have hsteady := Executes.steady atlas inputs
  apply deliver_atBase hsteady hbase
  · intro w' hw'
    have hkept := hsteady w w' hw' h
    exact hkept.of_sound hkept.1.sound rfl
  · intro w hw _ hlarge
    have hmemory := hw.1.sound.memory
    have hsize := hw.2
    exact absurd hlarge (Bonus.ofBytes?_ne_none (by omega))
  · exact fun w _ hinputs => Or.inr (.endOfInput w .nextSector hinputs)
  · intro w line rest hw hinputs _
    have hheard := hw.1.toProvided.hear .nextSector hinputs
    exact hadvance _ { hheard with }
  · exact fun w line rest w' _ _ _ _ => Or.inr (.exit w')

theorem Executes.explore (h : Executes atlas inputs w) :
    Rover.explore.Yields w (fun _ => Executes atlas inputs)
      (Confined atlas) := by
  apply explore_keeps (Executes.steady atlas inputs) h
  · exact fun w p grid hw hp hgrid => hw.of_sound (hw.1.sound.put hp hgrid) rfl
  · intro w hw
    exact hw.of_sound (hw.1.sound.recharge (hw.1.sound.battery_intake 15)) rfl
  · intro w lot hw _
    have hbattery := hw.1.sound.battery
    have hdrained : max 0 (w.mission.battery - (5 + lot)) < entryBound := by
      simp only [entryBound] at hbattery ⊢
      omega
    exact hw.of_sound (hw.1.sound.recharge hdrained) rfl
  · exact fun w _ => Or.inr (.exit w)
  · exact fun w hw hlost => absurd hlost hw.1.sound.landed.rover_ne_none
  · exact fun w p cause hw hp hcause =>
      absurd hcause (hw.1.sound.landed.put_ne_error hp cause)
  · intro w hw hhidden
    cases hhidden.symm.trans (hw.1.sound.intake_showable (by decide))

theorem Executes.endures {advance : Flight Unit}
    (haddress : Addressable inputs)
    (hadvance : ∀ w, Provided atlas inputs w →
      advance.Yields w (fun _ _ => False) (Confined atlas)) :
    Endures advance (Executes atlas inputs) (Confined atlas) := by
  have hsteady := Executes.steady atlas inputs
  constructor
  case steady => exact hsteady
  case exit => exact fun w _ => Or.inr (.exit w)
  case spend =>
    intro w hw
    refine hw.of_sound (hw.1.sound.recharge ?_) rfl
    have hbattery := hw.1.sound.battery
    rw [hw.1.moveCost]
    omega
  case drive =>
    intro direction w hw
    obtain ⟨p, hp, hhas⟩ := hw.1.sound.landed
    apply drive_landed hp hhas
    · exact fun _ w' _ => Or.inr (.exit w')
    · exact fun _ htarget => hw.of_sound (hw.1.sound.enter hp htarget) rfl
    · exact fun hspans hragged => absurd (hw.1.sound.full _ hspans) hragged
  case collect =>
    intro w hw
    apply collect_keeps hsteady hw
    · exact fun w p grid hw _ hp hgrid =>
        hw.of_sound (hw.1.sound.drill hp hgrid) rfl
    · exact fun w hw hlost => absurd hlost hw.1.sound.landed.rover_ne_none
    · exact fun w p cause hw hp _ hcause =>
        absurd hcause (hw.1.sound.landed.put_ne_error hp cause)
  case deliver => exact fun w hw hbase => hw.deliver hbase hadvance
  case explore => exact fun w hw _ => hw.explore
  case recharge =>
    intro w hw _
    apply recharge_keeps hsteady hw
    · intro w hw
      exact hw.of_sound (hw.1.sound.recharge (hw.1.sound.battery_intake 25)) rfl
    · intro w hw hhidden
      cases hhidden.symm.trans (hw.1.sound.intake_showable (by decide))
  case display =>
    intro w hw
    exact hw.1.display hsteady hw haddress
  case condition =>
    intro c w cause hw hcause
    obtain ⟨comparison, left, right, rfl, horder⟩ :=
      Condition.decide_error hw.1.sound.landed hw.1.sound.full hcause
    exact Or.inr (.incomparable w comparison left right horder)

theorem Provided.land (h : Provided atlas inputs w) {sector : Sector}
    (hsector : sector.WellFormed) {executions memory battery : Int}
    {map : Grid} (hexecutions : sector.executions = some executions)
    (hmemory : sector.memory = some memory)
    (hbattery : sector.battery = some battery) (hmap : sector.map = some map) :
    Roams atlas inputs 0 (w.land executions memory battery map) := by
  obtain ⟨⟨e, he, hebound⟩, ⟨m, hm, hmbound⟩, ⟨b, hb, hbbound⟩,
    ⟨g, hg, hrectangle, row, hrow, hrover⟩⟩ := hsector
  cases hexecutions.symm.trans he
  cases hmemory.symm.trans hm
  cases hbattery.symm.trans hb
  cases hmap.symm.trans hg
  obtain ⟨p, hp⟩ := Grid.exists_locate? hrow hrover
  have hlanded : (w.land executions memory battery map).mission.rover =
      some p := by
    change (map.locate? Cell.rover).or _ = some p
    rw [hp]
    rfl
  have hlines := h.lines
  refine { h with
    sound := ⟨⟨p, hlanded, Grid.has_of_locate? hp⟩, hrectangle.full, hmbound,
      Or.inl rfl, ?_, ?_⟩
    spent := ?_ }
  · change battery < _
    omega
  · change executions < _
    omega
  · change _ + (w.console.inputs.length : Int) ≤ executions + _
    omega

def Transcribes (atlas : Atlas) (inputs script : List String) (w : World) :
    Prop :=
  Roams atlas inputs script.length w ∧
    scriptLength script + scriptLength w.console.inputs ≤ scriptLength inputs

theorem Transcribes.steady (atlas : Atlas) (inputs script : List String) :
    Steady (Transcribes atlas inputs script) := by
  rintro w w' h ⟨hw, htext⟩
  refine ⟨Roams.steady atlas inputs _ w w' h hw, ?_⟩
  rw [h.inputs]
  exact htext

/-- A script from the console, with a line left to pay for its execution. -/
def Submits (atlas : Atlas) (inputs script : List String) (w : World) : Prop :=
  Roams atlas inputs 1 w ∧ scriptLength script ≤ scriptLength inputs

theorem Submits.steady (atlas : Atlas) (inputs script : List String) :
    Steady (Submits atlas inputs script) :=
  fun w w' h hw => ⟨Roams.steady atlas inputs 1 w w' h hw.1, hw.2⟩

theorem Provided.sizeOfScript (h : Provided atlas inputs w)
    (script : List String) :
    w.mission.sizeOfScript script = (scriptLength script : Int) * 8 := by
  rw [Mission.sizeOfScript, h.charSize]

section

variable {script : List String} (h : Submits atlas inputs script w)
include h

theorem Submits.refuse (event : Event) :
    Roams atlas inputs 0 ((w.refuse script).note event) := by
  obtain ⟨hw, -⟩ := h
  have hexecutions := hw.sound.executions
  have hspent := hw.spent
  refine { hw with sound := { hw.sound with executions := ?_ }, spent := ?_ }
  · change w.mission.executions - 1 < _
    omega
  · change _ + (w.console.inputs.length : Int) ≤ w.mission.executions - 1 + _
    omega

theorem Submits.store
    (hfits : w.mission.sizeOfScript script ≤ w.mission.remaining)
    (event : Event) : Executes atlas inputs ((w.store script).note event) := by
  obtain ⟨hw, -⟩ := h
  have hexecutions := hw.sound.executions
  have hremaining := hw.sound.remaining
  have hspent := hw.spent
  have hsize := hw.sizeOfScript script
  refine ⟨{ hw with
    sound := { hw.sound with remaining := Or.inr ?_, executions := ?_ },
      spent := ?_ }, ?_⟩
  · change 0 ≤ w.mission.remaining - _ ∧
      w.mission.remaining - _ ≤ w.mission.memory
    omega
  · change w.mission.executions - 1 < _
    omega
  · change _ + (w.console.inputs.length : Int) ≤ w.mission.executions - 1 + _
    omega
  · change 0 ≤ w.mission.sizeOfScript script ∧
      w.mission.sizeOfScript script ≤ w.mission.memory
    omega

end

end

instance (g : Grid) : Decidable g.IsRectangle :=
  inferInstanceAs (Decidable (∀ row ∈ g, row.length = g.width))

end Rover

import Rover.Proofs.Confinement
import Rover.Proofs.Depletion
import Rover.Proofs.Dictation
import Rover.Proofs.Unrolling

/-!
An overdrawn battery.  The battery is looked at after each line, but not within
a loop, and loops can be nested as deep as the memory allows; so it can sink
until its charge has more digits than the display can show.
-/

namespace Rover

open Flight

/-- The rover rests on plain ground, and what it shows can be shown. -/
structure Mission.Idle (m : Mission) : Prop where
  plain : m.ground.isPlain = true
  moveCost : m.moveCost = 2
  charge : m.battery ≤ fullCharge
  even : 2 ∣ m.battery
  shown : -(Numeral.ceiling : Int) < m.battery
  gauges : ∀ n ∈ [m.remaining, m.memory - m.remaining, m.executions],
    Numeral.isShowable n = true

theorem Mission.Idle.interlude {w w' : World} (h : w.mission.Idle)
    (hw : Interlude w w') : w'.mission.Idle := by
  rw [hw.mission]
  exact { h with }

section Descent

variable {w : World} {item : String} {count depth : Nat} {cost : Int}

private theorem even_ceiling : 2 ∣ Numeral.ceiling := by
  have hpow : ∀ digits, 1 ≤ digits → 2 ∣ Nat.pow 10 digits :=
    fun digits hdigits => Nat.dvd_trans (by decide : 2 ∣ 10 ^ 1)
      (Nat.pow_dvd_pow 10 hdigits)
  unfold Numeral.ceiling
  exact hpow Numeral.maxDigits (by decide)

private theorem fullCharge_lt_ceiling : fullCharge < Numeral.ceiling := by
  have hpow : ∀ digits, 3 ≤ digits → 10 ^ 3 ≤ Nat.pow 10 digits :=
    fun digits hdigits => Nat.pow_le_pow_right (by decide) hdigits
  have hceiling : 10 ^ 3 ≤ Numeral.ceiling := by
    unfold Numeral.ceiling
    exact hpow Numeral.maxDigits (by decide)
  rw [fullCharge]
  omega

theorem Mission.Idle.isShowable {m : Mission} (h : m.Idle) :
    m.isShowable = true := by
  have hlarge := fullCharge_lt_ceiling
  have hcharge := h.charge
  have hshown := h.shown
  simp only [Mission.isShowable, List.all_eq_true]
  intro n hn
  rcases List.mem_cons.1 hn with rfl | hn
  · rw [Numeral.isShowable, decide_eq_true_eq]
    generalize Numeral.ceiling = ceiling at *
    omega
  · exact h.gauges n hn

/-- The charge goes down by two, so it does not miss the first that cannot be
shown. -/
theorem Mission.Idle.overdrawn {m : Mission} (h : m.Idle)
    (hhidden : ({ m with battery := m.battery - 2 } : Mission).isShowable =
      false) : m.battery - 2 = -(Numeral.ceiling : Int) := by
  have hbattery : ¬Numeral.isShowable (m.battery - 2) = true := by
    intro hshown
    have hall : ({ m with battery := m.battery - 2 } : Mission).isShowable =
        true := by
      simp only [Mission.isShowable, List.all_eq_true]
      intro n hn
      rcases List.mem_cons.1 hn with rfl | hn
      · exact hshown
      · exact h.gauges n hn
    cases hhidden.symm.trans hall
  have hceiling := even_ceiling
  have hlarge := fullCharge_lt_ceiling
  have hcharge := h.charge
  have heven := h.even
  have hshown := h.shown
  rw [Numeral.isShowable, decide_eq_true_eq] at hbattery
  generalize Numeral.ceiling = ceiling at *
  omega

theorem Mission.Idle.spend {m : Mission} (h : m.Idle)
    (hshown : ({ m with battery := m.battery - 2 } : Mission).isShowable =
      true) : ({ m with battery := m.battery - 2 } : Mission).Idle := by
  have hbattery : Numeral.isShowable (m.battery - 2) = true := by
    simp only [Mission.isShowable, List.all_eq_true] at hshown
    exact hshown _ List.mem_cons_self
  have hcharge := h.charge
  have heven := h.even
  have hlow : -(Numeral.ceiling : Int) < m.battery - 2 := by
    rw [Numeral.isShowable, decide_eq_true_eq] at hbattery
    generalize Numeral.ceiling = ceiling at *
    omega
  refine { h with charge := ?_, even := ?_, shown := hlow }
  · change m.battery - 2 ≤ _
    omega
  · change 2 ∣ m.battery - 2
    omega

end Descent

structure Awaiting (atlas : Atlas) (inputs : List String) (w : World) :
    Prop where
  level : w.mission.level = 1
  block : w.mission.block = Cell.path
  charSize : w.mission.charSize = 8
  moveCost : w.mission.moveCost = 2
  atlas : w.atlas = atlas
  inputs : w.console.inputs = inputs

section Launch

variable {atlas : Atlas} {line : String} {inputs rest : List String}
  {w : World} {post : Unit → World → Prop} {halted : Halt → World → Prop}

theorem Awaiting.steady (atlas : Atlas) (inputs : List String) :
    Steady (Awaiting atlas inputs) := by
  intro w w' h hw
  refine ⟨?_, ?_, ?_, ?_, h.atlas.trans hw.atlas, h.inputs.trans hw.inputs⟩
  all_goals rw [h.mission]
  · exact hw.level
  · exact hw.block
  · exact hw.charSize
  · exact hw.moveCost

end Launch

structure Mission.Stationed (m : Mission) (executions remaining : Int) :
    Prop where
  block : m.block = Cell.path
  charSize : m.charSize = 8
  moveCost : m.moveCost = 2
  battery : m.battery = fullCharge
  memory : m.memory = 200000
  executions : m.executions = executions
  remaining : m.remaining = remaining

section Trench

variable {line : String} {executions remaining : Int} {w w' : World}
  {halted : Halt → World → Prop}

theorem Mission.Stationed.interlude
    (h : w.mission.Stationed executions remaining) (hw : Interlude w w') :
    w'.mission.Stationed executions remaining := by
  rw [hw.mission]
  exact { h with }

theorem Mission.Stationed.gauges {m : Mission}
    (h : m.Stationed executions remaining)
    (hexecutions : 0 ≤ executions ∧ executions ≤ 2)
    (hremaining : 0 ≤ remaining ∧ remaining ≤ 200000) :
    ∀ n ∈ [m.remaining, m.memory - m.remaining, m.executions],
      Numeral.isShowable n = true := by
  have hmemory := h.memory
  have hleft := h.remaining
  have hruns := h.executions
  intro n hn
  apply Numeral.isShowable_of_lt
  simp only [List.mem_cons, List.not_mem_nil, or_false] at hn
  omega

theorem Mission.Stationed.sizeOfScript {m : Mission}
    (h : m.Stationed executions remaining) (script : List String) :
    m.sizeOfScript script = (scriptLength script * 8 : Nat) := by
  rw [Mission.sizeOfScript, h.charSize]
  rfl

end Trench

end Rover

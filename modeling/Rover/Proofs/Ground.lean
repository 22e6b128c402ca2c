import Rover.Mission

namespace Rover

namespace Grid

def Has (g : Grid) (p : Position) : Prop :=
  0 ≤ p.row ∧ 0 ≤ p.col ∧ p.col.toNat < (g.getD p.row.toNat []).length

instance (g : Grid) (p : Position) : Decidable (g.Has p) :=
  inferInstanceAs (Decidable (_ ∧ _ ∧ _))

def cellAt (g : Grid) (p : Position) : Cell :=
  (g.getD p.row.toNat []).getD p.col.toNat ""

def replace (g : Grid) (p : Position) (c : Cell) : Grid :=
  g.modify p.row.toNat (·.set p.col.toNat c)

variable {g : Grid} {p q : Position} {c d : Cell}

theorem slot?_of_lt {size : Nat} {i : Int} (hi : 0 ≤ i)
    (hsize : i.toNat < size) :
    slot? size i = some i.toNat := by
  have hle : ¬i < 0 := by omega
  have hlt : 0 ≤ i ∧ i < size := by omega
  simp [slot?, hle, hlt]

theorem lt_of_slot? {size j : Nat} {i : Int} (hi : 0 ≤ i)
    (hslot : slot? size i = some j) :
    j = i.toNat ∧ i.toNat < size := by
  have hle : ¬i < 0 := by omega
  simp only [slot?, hle, if_false, Option.ite_none_right_eq_some,
    Option.some.injEq] at hslot
  omega

theorem Has.exists_row (h : g.Has p) :
    ∃ row, g[p.row.toNat]? = some row ∧ p.row.toNat < g.length ∧
      p.col.toNat < row.length := by
  obtain ⟨-, -, hcol⟩ := h
  rw [List.getD_eq_getElem?_getD] at hcol
  cases hrow : g[p.row.toNat]? with
  | none => simp [hrow] at hcol
  | some row =>
    rw [hrow] at hcol
    exact ⟨row, rfl, (List.getElem?_eq_some_iff.1 hrow).1, hcol⟩

theorem cell?_of_has (h : g.Has p) : g.cell? p = some (g.cellAt p) := by
  obtain ⟨row, hget, hrow, hcol⟩ := h.exists_row
  simp [cell?, row?, cellAt, slot?_of_lt h.1 hrow,
    slot?_of_lt h.2.1 hcol, hget, hcol]

theorem has_of_cell? (hrow : 0 ≤ p.row) (hcol : 0 ≤ p.col)
    (h : g.cell? p = some c) :
    g.Has p := by
  simp only [cell?, row?, Option.bind_eq_some_iff] at h
  obtain ⟨row, ⟨i, hi, hget⟩, j, hj, -⟩ := h
  obtain ⟨rfl, -⟩ := lt_of_slot? hrow hi
  obtain ⟨rfl, hlt⟩ := lt_of_slot? hcol hj
  refine ⟨hrow, hcol, ?_⟩
  rw [List.getD_eq_getElem?_getD, hget]
  exact hlt

theorem put_of_has (h : g.Has p) (c : Cell) :
    g.put p c = .ok (g.replace p c) := by
  obtain ⟨row, hget, hrow, hcol⟩ := h.exists_row
  simp [put, replace, slot?_of_lt h.1 hrow, slot?_of_lt h.2.1 hcol, hget]

@[simp] theorem length_replace : (g.replace p c).length = g.length := by
  simp [replace]

theorem length_row_replace (i : Nat) :
    ((g.replace p c).getD i []).length = (g.getD i []).length := by
  simp only [replace, List.getD_eq_getElem?_getD, List.getElem?_modify]
  cases g[i]? with
  | none => rfl
  | some row => by_cases h : p.row.toNat = i <;> simp [h]

@[simp] theorem has_replace : (g.replace p c).Has q ↔ g.Has q := by
  unfold Has
  rw [length_row_replace]

@[simp] theorem width_replace : (g.replace p c).width = g.width := by
  have h := length_row_replace (g := g) (p := p) (c := c) 0
  simpa [width, List.head?_eq_getElem?, List.getD_eq_getElem?_getD] using h

@[simp] theorem spans_replace : (g.replace p c).spans q = g.spans q := by
  simp [spans]

@[simp] theorem replace_replace :
    (g.replace p c).replace p d = g.replace p d := by
  apply List.ext_getElem?
  intro i
  simp only [replace, List.getElem?_modify]
  cases g[i]? with
  | none => rfl
  | some row => by_cases h : p.row.toNat = i <;> simp [h]

theorem replace_cellAt (h : g.Has p) : g.replace p (g.cellAt p) = g := by
  obtain ⟨row, hget, -, hcol⟩ := h.exists_row
  apply List.ext_getElem?
  intro i
  simp only [replace, List.getElem?_modify]
  by_cases hi : p.row.toNat = i
  · subst hi
    simp [cellAt, hget, hcol]
  · simp [hi]

theorem cellAt_replace_self (h : g.Has p) : (g.replace p c).cellAt p = c := by
  obtain ⟨row, hget, -, hcol⟩ := h.exists_row
  simp [cellAt, replace, hget, hcol]

theorem cellAt_replace_of_ne (hp : g.Has p) (hq : g.Has q) (hne : p ≠ q) :
    (g.replace p c).cellAt q = g.cellAt q := by
  obtain ⟨row, hget, -, -⟩ := hq.exists_row
  simp only [cellAt, replace, List.getD_eq_getElem?_getD,
    List.getElem?_modify, hget]
  by_cases hrow : p.row.toNat = q.row.toNat
  · have hcol : p.col.toNat ≠ q.col.toNat := by
      intro hcol
      apply hne
      have hp' := hp.1
      have hq' := hq.1
      have hp'' := hp.2.1
      have hq'' := hq.2.1
      cases p
      cases q
      simp only [Position.mk.injEq] at *
      omega
    simp [hrow, hcol]
  · simp [hrow]

theorem lt_of_lastIndex? {row : List Cell} {j : Nat}
    (h : lastIndex? c row = some j) :
    j < row.length := by
  induction row generalizing j with
  | nil => cases h
  | cons x row ih =>
    rw [lastIndex?] at h
    cases hrow : lastIndex? c row with
    | some k =>
      simp only [hrow, Option.some.injEq] at h
      have := ih hrow
      rw [List.length_cons]
      omega
    | none =>
      simp only [hrow, Option.ite_none_right_eq_some, Option.some.injEq] at h
      rw [List.length_cons]
      omega

theorem has_of_locate? (h : g.locate? c = some p) : g.Has p := by
  induction g generalizing p with
  | nil => cases h
  | cons row rows ih =>
    rw [locate?] at h
    cases hrows : locate? c rows with
    | some q =>
      simp only [hrows, Option.some.injEq] at h
      subst h
      obtain ⟨hrow, hcol, hlt⟩ := ih hrows
      have hnat : (q.row + 1).toNat = q.row.toNat + 1 := by omega
      refine ⟨by dsimp only; omega, hcol, ?_⟩
      simpa [hnat] using hlt
    | none =>
      cases hrow : lastIndex? c row with
      | none => simp [hrows, hrow] at h
      | some j =>
        simp only [hrows, hrow] at h
        cases h
        exact ⟨Int.le_refl 0, Int.natCast_nonneg j,
          by simpa using lt_of_lastIndex? hrow⟩

theorem getElem?_of_lastIndex? {row : List Cell} {j : Nat}
    (h : lastIndex? c row = some j) :
    row[j]? = some c := by
  induction row generalizing j with
  | nil => cases h
  | cons x row ih =>
    rw [lastIndex?] at h
    cases hrow : lastIndex? c row with
    | some k =>
      simp only [hrow, Option.some.injEq] at h
      subst h
      exact ih hrow
    | none =>
      simp only [hrow, Option.ite_none_right_eq_some, Option.some.injEq] at h
      obtain ⟨rfl, rfl⟩ := h
      rfl

theorem cellAt_of_locate? (h : g.locate? c = some p) : g.cellAt p = c := by
  induction g generalizing p with
  | nil => cases h
  | cons row rows ih =>
    rw [locate?] at h
    cases hrows : locate? c rows with
    | some q =>
      simp only [hrows, Option.some.injEq] at h
      subst h
      have hnat : (q.row + 1).toNat = q.row.toNat + 1 := by
        have := (has_of_locate? hrows).1
        omega
      have hcell := ih hrows
      simpa [cellAt, hnat] using hcell
    | none =>
      cases hrow : lastIndex? c row with
      | none => simp [hrows, hrow] at h
      | some j =>
        simp only [hrows, hrow] at h
        cases h
        simp [cellAt, getElem?_of_lastIndex? hrow]

theorem exists_lastIndex? {row : List Cell} (h : c ∈ row) :
    ∃ j, lastIndex? c row = some j := by
  induction row with
  | nil => cases h
  | cons x row ih =>
    rw [lastIndex?]
    cases hrow : lastIndex? c row with
    | some k => exact ⟨k + 1, rfl⟩
    | none =>
      have hx : x = c := by
        rcases List.mem_cons.1 h with h | h
        · exact h.symm
        · obtain ⟨j, hj⟩ := ih h
          cases hrow.symm.trans hj
      exact ⟨0, by simp [hx]⟩

theorem exists_locate? {row : List Cell} (hrow : row ∈ g) (hc : c ∈ row) :
    ∃ p, g.locate? c = some p := by
  induction g with
  | nil => cases hrow
  | cons first rows ih =>
    rw [locate?]
    cases hrows : locate? c rows with
    | some p => exact ⟨_, rfl⟩
    | none =>
      rcases List.mem_cons.1 hrow with rfl | hrow
      · obtain ⟨j, hj⟩ := exists_lastIndex? hc
        exact ⟨⟨0, j⟩, by simp [hj]⟩
      · obtain ⟨p, hp⟩ := ih hrow
        cases hrows.symm.trans hp

def Full (g : Grid) : Prop :=
  ∀ p, g.spans p = true → g.Has p

def IsRectangle (g : Grid) : Prop :=
  ∀ row ∈ g, row.length = g.width

theorem IsRectangle.full (h : g.IsRectangle) : g.Full := by
  intro p hp
  simp only [spans, Bool.and_eq_true, decide_eq_true_eq] at hp
  obtain ⟨⟨⟨hrow, hlength⟩, hcol⟩, hwidth⟩ := hp
  have hlt : p.row.toNat < g.length := by omega
  refine ⟨hrow, hcol, ?_⟩
  rw [List.getD_eq_getElem?_getD, List.getElem?_eq_getElem hlt,
    Option.getD_some, h _ (List.getElem_mem hlt)]
  omega

theorem Full.replace (h : g.Full) : (g.replace p c).Full := by
  intro q hq
  rw [spans_replace] at hq
  exact has_replace.2 (h q hq)

theorem nonneg_of_spans (h : g.spans p = true) : 0 ≤ p.row ∧ 0 ≤ p.col := by
  simp only [spans, Bool.and_eq_true, decide_eq_true_eq] at h
  omega

end Grid

theorem Position.step_ne (p : Position) (direction : Direction) :
    p.step direction ≠ p := by
  intro h
  have hrow := congrArg Position.row h
  have hcol := congrArg Position.col h
  cases direction <;> simp only [Position.step] at hrow hcol <;> omega

namespace Mission

def Landed (m : Mission) : Prop :=
  ∃ p, m.rover = some p ∧ m.grid.Has p

namespace Landed

variable {m : Mission} {p : Position} {c : Cell} (h : m.Landed)
include h

theorem rover_ne_none : m.rover ≠ none := by
  obtain ⟨p, hp, -⟩ := h
  rw [hp]
  nofun

theorem has (hp : m.rover = some p) : m.grid.Has p := by
  obtain ⟨q, hq, hhas⟩ := h
  cases hp.symm.trans hq
  exact hhas

theorem put_ne_error (hp : m.rover = some p) (cause : Fault) :
    m.grid.put p c ≠ .error cause := by
  rw [Grid.put_of_has (h.has hp)]
  nofun

end Landed

/-- The ground with the rover taken away: the cell it covers is put back. -/
def terrain (m : Mission) : Grid :=
  match m.rover with
  | some p => m.grid.replace p m.block
  | none => m.grid

theorem terrain_of_rover {m : Mission} {p : Position} (h : m.rover = some p) :
    m.terrain = m.grid.replace p m.block := by
  rw [terrain, h]

end Mission

end Rover

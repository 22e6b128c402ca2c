import Rover.Proofs.Journey

namespace Rover

open Flight

namespace Grid

variable {g : Grid} {p : Position} {c : Cell}

theorem count_replace (hhas : g.Has p) (d : Cell) :
    (g.replace p c).flatten.count d + (if g.cellAt p = d then 1 else 0) =
      g.flatten.count d + if c = d then 1 else 0 := by
  obtain ⟨row, hget, hrow, hcol⟩ := hhas.exists_row
  have hcell : g.cellAt p = row[p.col.toNat] := by
    simp [cellAt, hget, hcol]
  have hg : g = g.take p.row.toNat ++ row :: g.drop (p.row.toNat + 1) := by
    have hmodify := List.modify_eq_take_cons_drop (f := id) hrow
    rw [List.modify_id, id, (List.getElem?_eq_some_iff.1 hget).2] at hmodify
    exact hmodify
  have hreplace : g.replace p c = g.take p.row.toNat ++ row.set p.col.toNat c ::
      g.drop (p.row.toNat + 1) := by
    rw [replace, List.modify_eq_take_cons_drop hrow,
      (List.getElem?_eq_some_iff.1 hget).2]
  have hset := List.count_set (a := c) (b := d) hcol
  have hpos : row[p.col.toNat] = d → 0 < row.count d := by
    intro hd
    exact List.count_pos_iff.2 (hd ▸ List.getElem_mem hcol)
  rw [hreplace, hcell]
  conv => rhs; rw [hg]
  simp only [List.flatten_append, List.flatten_cons, List.count_append,
    hset, beq_iff_eq]
  by_cases hd : row[p.col.toNat] = d
  · have := hpos hd
    simp only [hd, if_true]
    omega
  · simp only [hd, if_false]
    omega

end Grid

def stay (p : Position) (stops : List Stop) : List Stop :=
  stops.takeWhile (·.position = some p)

/-- The rover stands over a hole: it has collected the sample there and not
moved since. -/
def Mission.OverHole (m : Mission) (p : Position) (stops : List Stop) : Prop :=
  m.ground = .sample ∧ m.grid.spans p = true ∧ ∃ stop ∈ stay p stops,
    stop.deed = some .collect

instance (m : Mission) (p : Position) (stops : List Stop) :
    Decidable (m.OverHole p stops) :=
  inferInstanceAs (Decidable (_ ∧ _ ∧ ∃ stop ∈ stay p stops, _))

private theorem stay_cons_self (p : Position) (deed : Option Command)
    (stops : List Stop) :
    stay p (⟨deed, some p⟩ :: stops) = ⟨deed, some p⟩ :: stay p stops := by
  simp [stay]

section Stay

variable {w w' : World} {p q : Position} {deed : Option Command}
  {stops : List Stop}

theorem Journey.stay_eq_nil {advance : Flight Unit}
    (h : Journey advance w stops w') (hp : w'.mission.rover = some p)
    (hne : q ≠ p) : stay q stops = [] := by
  cases stops with
  | nil => rfl
  | cons stop stops =>
    have hposition : stop.position = some p := h.position_eq.trans hp
    simp [stay, hposition, Ne.symm hne]

theorem Turned.overHole_iff (h : Turned w p deed w')
    (hp : w.mission.rover = some p) (hhas : w.mission.grid.Has p)
    (hstay : p.after deed = p) :
    w'.mission.OverHole p (⟨deed, some p⟩ :: stops) ↔
      w.mission.OverHole p stops ∨
        deed = some .collect ∧ w.mission.ground = .sample ∧
        w.mission.grid.spans p = true := by
  have hground : w'.mission.ground = w.mission.ground := by
    rw [h.ground_eq hp hhas, hstay, Mission.ground_eq hp hhas]
  have hspans := Grid.spans_of_shape h.frame.mission.shape p
  rw [Mission.OverHole, Mission.OverHole, stay_cons_self, hground, hspans]
  simp only [List.mem_cons, exists_eq_or_imp]
  constructor
  · rintro ⟨hsample, hinside, hdeed | hearlier⟩
    · exact Or.inr ⟨hdeed, hsample, hinside⟩
    · exact Or.inl ⟨hsample, hinside, hearlier⟩
  · rintro (⟨hsample, hinside, hearlier⟩ | ⟨hdeed, hsample, hinside⟩)
    · exact ⟨hsample, hinside, Or.inr hearlier⟩
    · exact ⟨hsample, hinside, Or.inl hdeed⟩

theorem Mission.shown_of_stay {m : Mission} (hstay : p.after deed = p) :
    m.shown p deed =
      if deed = some .collect ∧ m.ground = .sample ∧
          m.grid.spans p = true then Cell.path
      else m.grid.cellAt p := by
  cases deed with
  | none => rfl
  | some c =>
    cases c with
    | move direction => exact absurd hstay (p.step_ne direction)
    | collect => simp [Mission.shown]
    | _ => rfl

theorem Turned.shown_of_stay
    (h : Turned w p deed w') (hp : w.mission.rover = some p)
    (hhas : w.mission.grid.Has p) (hstay : p.after deed = p)
    (hshown : w.mission.grid.cellAt p =
      if w.mission.OverHole p stops then Cell.path else Cell.rover) :
    w'.mission.grid.cellAt p =
      if w'.mission.OverHole p (⟨deed, some p⟩ :: stops) then Cell.path
      else Cell.rover := by
  have hcell := h.shown
  rw [hstay, h.ground_eq hp hhas, hstay, ← Mission.ground_eq hp hhas,
    Mission.shown_of_stay hstay, hshown] at hcell
  rw [hcell]
  simp only [h.overHole_iff hp hhas hstay]
  by_cases hsample : w.mission.ground = .sample
  · by_cases hdrill : deed = some .collect ∧ w.mission.grid.spans p = true
    · simp [hsample, hdrill]
    · simp only [hsample, reduceCtorEq, true_and, hdrill, or_false, if_false]
  · simp [hsample, Mission.OverHole]

theorem Turned.shown_of_move (h : Turned w p deed w') (hmove : p.after deed ≠ p)
    (hstay : stay (p.after deed) stops = []) :
    w'.mission.grid.cellAt (p.after deed) =
      if w'.mission.OverHole (p.after deed)
        (⟨deed, some (p.after deed)⟩ :: stops) then Cell.path
      else Cell.rover := by
  have hdeed : ∃ direction, deed = some (.move direction) := by
    match deed with
    | some (.move direction) => exact ⟨direction, rfl⟩
    | none | some .observe | some .collect | some .deliver | some .finish =>
      exact absurd rfl hmove
  obtain ⟨direction, rfl⟩ := hdeed
  rw [h.shown, Mission.shown, ite_self, if_neg]
  rintro ⟨-, -, stop, hstop, hcollect⟩
  rw [stay_cons_self, hstay, List.mem_singleton] at hstop
  subst hstop
  cases hcollect

end Stay

theorem Journey.shown {w w' : World} {p₀ : Position}
    {stops : List Stop} (h : Journey (startSector compose) w stops w')
    (hp₀ : w.mission.rover = some p₀) (hhas₀ : w.mission.grid.Has p₀)
    (hmark : w.mission.grid.cellAt p₀ = Cell.rover) :
    ∀ p, w'.mission.rover = some p → w'.mission.grid.cellAt p =
      if w'.mission.OverHole p stops then Cell.path else Cell.rover := by
  induction h with
  | rest hrest =>
    intro p hp
    cases hp₀.symm.trans (hrest.rover.symm.trans hp)
    rw [hrest.grid, hmark, if_neg (by simp [Mission.OverHole, stay])]
  | @turn w₁ w₂ w₃ stops deed h hturn hrest ih =>
    have hlanded : w.mission.Landed := ⟨p₀, hp₀, hhas₀⟩
    obtain ⟨p, hp, hhas, hturned⟩ :=
      turned_of_landed ((h.conserves hlanded).landed hlanded) hturn
    intro q hq
    cases hturned.rover.symm.trans (hrest.rover.symm.trans hq)
    have hpause : w₃.mission.OverHole (p.after deed)
        (⟨deed, w₂.mission.rover⟩ :: stops) ↔ w₂.mission.OverHole (p.after deed)
        (⟨deed, some (p.after deed)⟩ :: stops) := by
      rw [Mission.OverHole, Mission.OverHole, hrest.ground, hrest.grid,
        hturned.rover]
    simp only [hpause, hrest.grid]
    by_cases hstay : p.after deed = p
    · rw [hstay]
      exact hturned.shown_of_stay hp hhas hstay (ih p hp)
    · exact hturned.shown_of_move hstay (h.stay_eq_nil hp hstay)

theorem Journey.rover_count {w w' : World} {p : Position} {stops : List Stop}
    (h : Journey (startSector compose) w stops w') (hlanded : w.mission.Landed)
    (hground : w.mission.terrain.flatten.count Cell.rover = 0)
    (hp : w'.mission.rover = some p) (hhas : w'.mission.grid.Has p) :
    w'.mission.grid.flatten.count Cell.rover =
      if w'.mission.grid.cellAt p = Cell.rover then 1 else 0 := by
  -- The ground has no rover on it, and the map is the ground but for the cell
  -- at `p`.
  have hterrain := (h.conserves hlanded).terrain hlanded
  have hhas' : w.mission.terrain.Has p := by
    rw [← hterrain, Mission.terrain_of_rover hp]
    exact Grid.has_replace.2 hhas
  have hcount :=
    Grid.count_replace (c := w'.mission.grid.cellAt p) hhas' Cell.rover
  have hbare : w.mission.terrain.cellAt p ≠ Cell.rover := by
    intro hcell
    have hempty := Grid.count_replace (c := Cell.path) hhas' Cell.rover
    rw [hground, if_pos hcell, if_neg (by decide)] at hempty
    omega
  rw [hground, if_neg hbare, ← hterrain, ← Mission.grid_eq hp hhas] at hcount
  omega

private theorem loadSector_lands {w w₀ : World} {sector : Sector}
    {map : Grid} (hsector : w.atlas.sector? w.mission.level = some sector)
    (hmap : sector.map = some map) (hrover : 0 < map.flatten.count Cell.rover)
    (hload : loadSector w = .ok () w₀) :
    ∃ p, w₀.mission.rover = some p ∧ w₀.mission.grid.Has p ∧
      w₀.mission.grid.cellAt p = Cell.rover ∧ w₀.mission.grid = map ∧
      w₀.mission.block = w.mission.block := by
  obtain ⟨⟨sector', hsector', hmap'⟩, hlevel, hblock, hplace⟩ :=
    (loadSector_sets w).ok hload
  rw [hlevel] at hsector'
  cases hsector.symm.trans hsector'
  cases hmap.symm.trans hmap'
  obtain ⟨row, hrow, hcell⟩ := List.mem_flatten.1 (List.count_pos_iff.1 hrover)
  obtain ⟨p, hp⟩ := Grid.exists_locate? hrow hcell
  rw [hp, Option.some_or] at hplace
  exact ⟨p, hplace, Grid.has_of_locate? hp,
    Grid.cellAt_of_locate? hp, rfl, hblock⟩

/-- A map with a single rover on it is entered with the rover covering something
else.  Whatever lines are run then and return, the map shows the rover in its
place and nowhere else, unless it stands over a hole it has drilled: then the
map shows a path there, and no rover at all. -/
theorem only_drilling_hides_the_rover
    (lines : List String) (w w₀ w' : World) (sector : Sector)
    (map : Grid) (hsector : w.atlas.sector? w.mission.level = some sector)
    (hmap : sector.map = some map) (hone : map.flatten.count Cell.rover = 1)
    (hblock : w.mission.block ≠ Cell.rover) (hload : loadSector w = .ok () w₀)
    (hrun : obey lines w₀ = .ok () w') :
    ∃ p stops, Journey (startSector compose) w₀ stops w' ∧
      w'.mission.rover = some p ∧
      w'.mission.grid.Has p ∧
      (¬w'.mission.OverHole p stops → w'.mission.grid.cellAt p = Cell.rover ∧
        w'.mission.grid.flatten.count Cell.rover = 1) ∧
      (w'.mission.OverHole p stops → w'.mission.grid.cellAt p = Cell.path ∧
        w'.mission.grid.flatten.count Cell.rover = 0) := by
  obtain ⟨p₀, hp₀, hhas₀, hmark, hgrid, hcover⟩ :=
    loadSector_lands hsector hmap (by omega) hload
  obtain ⟨stops, hjourney⟩ := (obey_journeys lines w₀).ok hrun
  have hlanded : w₀.mission.Landed := ⟨p₀, hp₀, hhas₀⟩
  obtain ⟨p, hp, hhas⟩ := (hjourney.conserves hlanded).landed hlanded
  have hground : w₀.mission.terrain.flatten.count Cell.rover = 0 := by
    have hcount := Grid.count_replace (c := w.mission.block) hhas₀ Cell.rover
    rw [if_pos hmark, if_neg hblock, ← hcover, ← Mission.terrain_of_rover hp₀,
      hgrid, hone] at hcount
    omega
  have hshown := hjourney.shown hp₀ hhas₀ hmark p hp
  have hcount := hjourney.rover_count hlanded hground hp hhas
  refine ⟨p, stops, hjourney, hp, hhas, fun hhole => ?_, fun hhole => ?_⟩
  · rw [if_neg hhole] at hshown
    exact ⟨hshown, by rw [hcount, if_pos hshown]⟩
  · rw [if_pos hhole] at hshown
    exact ⟨hshown, by rw [hcount, hshown, if_neg (by decide)]⟩

def quarry : World where
  atlas := ⟨[(1, ⟨some 3, some 400, some 50, some [["[R]", "[S]"]]⟩)]⟩

/-- The sample is collected, and the map of the sector is a plain path. -/
theorem quarry_hides_the_rover :
    ∃ w' p stops, obey ["mve", "clt"] (loadSector.final quarry) = .ok () w' ∧
      Journey (startSector compose) (loadSector.final quarry) stops w' ∧
      w'.mission.rover = some p ∧ w'.mission.OverHole p stops ∧
      w'.mission.grid = [["[X]", "[X]"]] ∧
      w'.mission.grid.flatten.count Cell.rover = 0 := by
  have hload := ok_final (by decide +kernel : loadSector.returns quarry = true)
  have hrun := ok_final (by decide +kernel :
    (obey ["mve", "clt"]).returns (loadSector.final quarry) = true)
  have hgrid : ((obey ["mve", "clt"]).final
        (loadSector.final quarry)).mission.grid = [["[X]", "[X]"]] := by
    decide +kernel
  obtain ⟨p, stops, hjourney, hp, -, hshown, hhidden⟩ :=
    only_drilling_hides_the_rover ["mve", "clt"] quarry _ _ _ _ rfl rfl
    (by decide) (by decide) hload hrun
  have hhole := Classical.byContradiction fun hhole => by
    have hone := (hshown hhole).2
    rw [hgrid] at hone
    revert hone
    decide
  exact ⟨_, p, stops, hrun, hjourney, hp, hhole, hgrid, (hhidden hhole).2⟩

end Rover

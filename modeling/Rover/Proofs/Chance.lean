import Rover.Proofs.Chronicle
import Rover.Proofs.Tandem

/-!
Neither chance nor presentation matters on charted ground.  The lots, the
platform, the keys typed ahead, the name of the operator and the marks of the
map decide nothing: worlds that differ in these only are coupled.
-/

namespace Rover

open Flight

def Grid.IsCharted (g : Grid) : Prop :=
  ∀ row ∈ g, ∀ c ∈ row, Cell.IsCharted c

instance (g : Grid) : Decidable g.IsCharted :=
  inferInstanceAs (Decidable (∀ row ∈ g, ∀ c ∈ row, Cell.IsCharted c))

def Atlas.IsCharted (atlas : Atlas) : Prop :=
  ∀ level sector map, atlas.sector? level = some sector →
    sector.map = some map → map.IsCharted

structure Mission.IsCharted (m : Mission) : Prop where
  grid : m.grid.IsCharted
  block : m.block.IsCharted

def drawn (log : List Entry) : Nat :=
  log.countP (·.event.isDraw)

/-- The flights that led to these worlds have done the same, except that the
first one has drawn `lead` lots more. -/
structure Lockstep (lead : Int) (w w' : World) : Prop where
  mission : w.mission.Alike w'.mission
  inputs : w'.console.inputs = w.console.inputs
  unlockIn : w'.console.unlockIn = w.console.unlockIn
  atlas : w'.atlas = w.atlas
  charted : w.mission.IsCharted
  maps : w.atlas.IsCharted
  draws : (drawn w.console.log : Int) - drawn w'.console.log = lead

private theorem drawn_cons (e : Entry) (log : List Entry) :
    drawn (e :: log) = drawn log + if e.event.isDraw then 1 else 0 :=
  List.countP_cons

namespace Lockstep

variable {lead : Int} {w w' : World}

theorem note (hw : Lockstep lead w w') {event event' : Event}
    (h : event.isDraw = event'.isDraw) :
    Lockstep lead (w.note event) (w'.note event') := by
  refine { hw with draws := ?_ }
  have hdraws := hw.draws
  rw [World.note_log, World.note_log, drawn_cons, drawn_cons]
  dsimp only
  rw [h]
  omega

theorem countDown (hw : Lockstep lead w w') :
    Lockstep lead (countDown w) (countDown w') := by
  unfold Flight.countDown
  rw [hw.unlockIn]
  split
  · exact hw
  · refine { hw with
      mission := ?_, unlockIn := rfl, charted := { hw.charted with } }
    rw [hw.mission]
    rfl
  · exact { hw with unlockIn := rfl }

end Lockstep

/-- Between the worlds nothing happened that a mission could notice. -/
structure Aside (w v : World) : Prop where
  mission : v.mission = w.mission
  inputs : v.console.inputs = w.console.inputs
  unlockIn : v.console.unlockIn = w.console.unlockIn
  atlas : v.atlas = w.atlas
  draws : drawn v.console.log = drawn w.console.log

namespace Aside

variable {u v w : World}

theorem refl (w : World) : Aside w w :=
  ⟨rfl, rfl, rfl, rfl, rfl⟩

theorem trans (h : Aside u v) (h' : Aside v w) : Aside u w where
  mission := h'.mission.trans h.mission
  inputs := h'.inputs.trans h.inputs
  unlockIn := h'.unlockIn.trans h.unlockIn
  atlas := h'.atlas.trans h.atlas
  draws := h'.draws.trans h.draws

theorem note {event : Event} (h : event.isDraw = false) :
    Aside w (w.note event) where
  mission := rfl
  inputs := rfl
  unlockIn := rfl
  atlas := rfl
  draws := by
    rw [World.note_log, drawn_cons]
    simp [h]

end Aside

theorem Lockstep.aside {lead : Int} {w w' v v' : World}
    (hw : Lockstep lead w w') (h : Aside w v) (h' : Aside w' v') :
    Lockstep lead v v' where
  mission := by
    rw [h.mission, h'.mission]
    exact hw.mission
  inputs := by rw [h.inputs, h'.inputs, hw.inputs]
  unlockIn := by rw [h.unlockIn, h'.unlockIn, hw.unlockIn]
  atlas := by rw [h.atlas, h'.atlas, hw.atlas]
  charted := by
    rw [h.mission]
    exact hw.charted
  maps := by
    rw [h.atlas]
    exact hw.maps
  draws := by
    rw [h.draws, h'.draws]
    exact hw.draws

section Aside

variable {α : Type} {lead : Int}

private theorem coupled_aside {p : α → Prop} {x : Flight α}
    (hx : ∀ w, x.Yields w (fun a v => p a ∧ Aside w v) fun _ _ => False) :
    Coupled (Lockstep lead) (fun a b => p a ∧ p b) x x := by
  intro w w' hw
  obtain ⟨a, v, hrun, ha, h⟩ := (hx w).exists_ok
  obtain ⟨b, v', hrun', hb, h'⟩ := (hx w').exists_ok
  rw [hrun, hrun']
  exact .ok ⟨ha, hb⟩ (hw.aside h h')

private theorem flush_aside (w : World) :
    flush.Yields w (fun _ v => True ∧ Aside w v) fun _ _ => False := by
  simp only [flush, yields_bind, yields_get]
  cases w.console.platform with
  | unix => exact (yields_record _).2 ⟨trivial, .note rfl⟩
  | windows =>
    simp only [discardKeys, yields_bind, yields_get, yields_modify]
    refine (yields_forM (Aside w) (fun event hevent v hv => ?_)
      (.refl w)).imp fun _ v hv => ?_
    · rw [List.eq_of_mem_replicate hevent]
      exact (yields_record _).2 (hv.trans (.note rfl))
    · exact ⟨trivial, { hv with }⟩

private theorem coupled_draw {n : Nat} (hn : 0 < n) :
    Coupled (Lockstep lead) (fun a b => a < n ∧ b < n)
      (draw n) (draw n) := by
  have hrecord : Coupled (Lockstep lead) Eq
      (record (.draw n)) (record (.draw n)) :=
    fun _ _ hw => .ok rfl (hw.note rfl)
  refine coupled_seq hrecord fun _ => coupled_aside fun w => ?_
  rw [yields_run]
  cases w.console.draws with
  | nil => exact ⟨hn, .refl w⟩
  | cons lot rest => exact ⟨Nat.mod_lt lot hn, ⟨rfl, rfl, rfl, rfl, rfl⟩⟩

end Aside

private theorem tandem_lockstep (lead : Int) :
    Tandem False Cell.IsCharted (Lockstep lead) where
  rover := by decide
  path := by decide
  mission hw := hw.mission
  same hfalse := hfalse.elim
  cells hw := ⟨hw.charted.grid, hw.charted.block⟩
  maps hw hsector hmap := hw.maps _ _ _ hsector hmap
  atlas hw := hw.atlas
  inputs hw := hw.inputs
  unlockIn hw := hw.unlockIn
  note hw hdraw _ := hw.note hdraw
  alter _ _ hw halike _ hm :=
    { hw with mission := halike, charted := ⟨hm.grid, hm.block⟩ }
  countDown _ _ hw := hw.countDown
  flush := (coupled_aside flush_aside).mono fun _ _ _ => rfl
  take hw _ := { hw with inputs := rfl }
  draw hn := (coupled_draw hn).mono fun _ _ h => ⟨h.1, h.2, False.elim⟩
  fair := Or.inr fun _ h => h

namespace Flight

/-- From both worlds the flight ends in the same way, having read as many lines
and drawn as many lots, and it leaves the same mission but for the operator and
the marks. -/
structure Concurs (x : Flight Unit) (w w' : World) : Prop where
  halt : x.halt? w = x.halt? w'
  inputs : (x.final w').console.inputs = (x.final w).console.inputs
  draws : drawn (x.final w).console.log + drawn w'.console.log =
    drawn (x.final w').console.log + drawn w.console.log
  mission : (x.final w).mission.Alike (x.final w').mission

theorem Coupled.concurs {lead : Int} {x : Flight Unit} {w w' : World}
    (hw : Lockstep lead w w') (hx : Coupled (Lockstep lead) Eq x x) :
    x.Concurs w w' := by
  have hends : x.halt? w = x.halt? w' ∧
      Lockstep lead (x.final w) (x.final w') := by
    have hpair := hx w w' hw
    unfold halt? final
    generalize x w = r at hpair ⊢
    generalize x w' = r' at hpair ⊢
    cases hpair with
    | ok _ hv => exact ⟨rfl, hv⟩
    | error _ hv => exact ⟨rfl, hv⟩
  obtain ⟨hhalt, hfinal⟩ := hends
  have hbefore := hw.draws
  have hafter := hfinal.draws
  exact ⟨hhalt, hfinal.inputs, by omega, hfinal.mission⟩

end Flight

/-- Without uncharted ground on the map, under the rover or in the atlas, two
runs of an instruction, of a script, of writing scripts, of a sector or of a
whole campaign concur whenever they have the same lines to read and start from
missions that differ in the operator and the marks only. -/
theorem chance_and_presentation_decide_nothing (w w' : World)
    (hmission : w.mission.Alike w'.mission)
    (hinputs : w'.console.inputs = w.console.inputs)
    (hunlock : w'.console.unlockIn = w.console.unlockIn)
    (hatlas : w'.atlas = w.atlas) (hcharted : w.mission.IsCharted)
    (hmaps : w.atlas.IsCharted) :
    (∀ i : Instruction, (i.run (startSector compose)).Concurs w w') ∧
    (∀ script, (executeScript compose script).Concurs w w') ∧
    compose.Concurs w w' ∧ (startSector compose).Concurs w w' ∧
    beginCampaign.Concurs w w' := by
  let lead : Int := drawn w.console.log - drawn w'.console.log
  have hw : Lockstep lead w w' :=
    ⟨hmission, hinputs, hunlock, hatlas, hcharted, hmaps, rfl⟩
  have htandem := tandem_lockstep lead
  have hcompose := coupled_compose htandem
  have hstart := coupled_startSector htandem hcompose
  refine ⟨fun i => ?_, fun script => ?_, ?_, ?_, ?_⟩
  · exact (coupled_run htandem hstart i).concurs hw
  · exact (coupled_executeScript htandem hcompose script).concurs hw
  · exact hcompose.concurs hw
  · exact hstart.concurs hw
  · exact (coupled_beginCampaign htandem).concurs hw

def rehearsal : World where
  mission := Mission.deploy
    { operator := some "Ada", onboard := true, executions := 3, memory := 800,
        remaining := 800 }
    [["[R]", "[X]", "[@]", "[B]"]]
  console :=
    { inputs := ["mve", "obs", "mve", "mve", "drp", "end", "y"], draws := [5] }
  atlas := ⟨[(2, ⟨some 3, some 800, some 100, some [["[R]", "[#]", "[B]"]]⟩)]⟩

def performance : World :=
  { rehearsal with
    mission := { rehearsal.mission with
      operator := none, sample := some ⟨7, 7⟩, base := none }
    console := { rehearsal.console with
      draws := [2, 60], pendingKeys := 4, platform := .windows } }

private theorem rehearsal_isCharted :
    rehearsal.mission.IsCharted ∧ rehearsal.atlas.IsCharted := by
  refine ⟨⟨by decide +kernel, by decide +kernel⟩, ?_⟩
  intro level sector map hsector hmap
  cases Atlas.eq_of_single hsector
  cases hmap
  decide +kernel

theorem performance_goes_like_rehearsal :
    rehearsal.mission.IsCharted ∧ rehearsal.atlas.IsCharted ∧
    compose.Concurs rehearsal performance ∧
    (compose.final rehearsal).console.log ≠
      (compose.final performance).console.log ∧
    compose.halt? performance = some (.fault .endOfInput) ∧
    (compose.final performance).mission.level = 2 ∧
    drawn (compose.final performance).console.log = 2 := by
  obtain ⟨hcharted, hmaps⟩ := rehearsal_isCharted
  obtain ⟨-, -, hcompose, -⟩ :=
    chance_and_presentation_decide_nothing rehearsal performance rfl rfl
    rfl rfl hcharted hmaps
  exact ⟨hcharted, hmaps, hcompose, by decide +kernel, by decide +kernel,
    by decide +kernel, by decide +kernel⟩

end Rover

import Rover.Driving
import Rover.Proofs.Yields

/-!
Two flights side by side.  A coupling is a relation between worlds that survives
whatever a flight can do to both of them.  The worlds may differ in the operator
and the marks of the map, and, unless the coupling is exact, in the platform and
in the lots as well.
-/

namespace Rover

open Flight

namespace Flight

variable {α β : Type} {R : World → World → Prop} {rel : α → α → Prop}

inductive Paired (R : World → World → Prop) (rel : α → α → Prop) :
    EStateM.Result Halt World α → EStateM.Result Halt World α → Prop
  | ok {a b : α} {w w' : World} (h : rel a b) (hw : R w w') :
    Paired R rel (.ok a w) (.ok b w')
  | error (halt : Halt) {w w' : World} (hw : R w w') :
    Paired R rel (.error halt w) (.error halt w')

theorem Paired.widen {R' : World → World → Prop}
    {r r' : EStateM.Result Halt World α} (h : Paired R rel r r')
    (hR : ∀ w w', R w w' → R' w w') : Paired R' rel r r' := by
  cases h with
  | ok hab hw => exact .ok hab (hR _ _ hw)
  | error halt hw => exact .error halt (hR _ _ hw)

/-- From related worlds, the flights end alike and in related worlds. -/
def Coupled (R : World → World → Prop) (rel : α → α → Prop)
    (x y : Flight α) : Prop :=
  ∀ w w', R w w' → Paired R rel (x w) (y w')

theorem coupled_pure {a b : α} (h : rel a b) :
    Coupled R rel (pure a) (pure b) :=
  fun _ _ hw => .ok h hw

theorem coupled_throw (halt : Halt) :
    Coupled R rel (throw halt) (throw halt) :=
  fun _ _ hw => .error halt hw

theorem coupled_bind {between : β → β → Prop} {x y : Flight β}
    {f g : β → Flight α} (hx : Coupled R between x y)
    (hf : ∀ a b, between a b → Coupled R rel (f a) (g b)) :
    Coupled R rel (x >>= f) (y >>= g) := by
  intro w w' hw
  have hpair := hx w w' hw
  generalize hrun : x w = r at hpair
  generalize hrun' : y w' = r' at hpair
  cases hpair with
  | ok hab hv =>
    rw [bind_of_ok hrun, bind_of_ok hrun']
    exact hf _ _ hab _ _ hv
  | error halt hv =>
    rw [bind_of_error hrun, bind_of_error hrun']
    exact .error halt hv

theorem coupled_seq {x y : Flight β} {f g : β → Flight α}
    (hx : Coupled R Eq x y) (hf : ∀ b, Coupled R rel (f b) (g b)) :
    Coupled R rel (x >>= f) (y >>= g) :=
  coupled_bind hx fun a _ hab => hab ▸ hf a

theorem coupled_ite {p : Prop} [Decidable p] {x x' y y' : Flight α}
    (hx : Coupled R rel x x') (hy : Coupled R rel y y') :
    Coupled R rel (if p then x else y) (if p then x' else y') := by
  split
  · exact hx
  · exact hy

theorem Coupled.mono {rel' : α → α → Prop} {x y : Flight α}
    (hx : Coupled R rel x y) (h : ∀ a b, rel a b → rel' a b) :
    Coupled R rel' x y := by
  intro w w' hw
  have hpair := hx w w' hw
  generalize x w = r at hpair ⊢
  generalize y w' = r' at hpair ⊢
  cases hpair with
  | ok hab hv => exact .ok (h _ _ hab) hv
  | error halt hv => exact .error halt hv

theorem coupled_forM {items : List β} {body body' : β → Flight PUnit}
    (hbody : ∀ item, Coupled R Eq (body item) (body' item)) :
    Coupled R Eq (items.forM body) (items.forM body') := by
  induction items with
  | nil => exact coupled_pure rfl
  | cons item items ih => exact coupled_seq (hbody item) fun _ => ih

theorem coupled_get_bind {f g : World → Flight α}
    (h : ∀ w w', R w w' → Coupled R rel (f w) (g w')) :
    Coupled R rel (get >>= f) (get >>= g) :=
  fun w w' hw => h w w' hw w w' hw

theorem coupled_modify {f : World → World}
    (h : ∀ w w', R w w' → R (f w) (f w')) :
    Coupled R Eq (modify f : Flight PUnit) (modify f) :=
  fun w w' hw => .ok rfl (h w w' hw)

theorem coupled_ofOption (cause : Fault) (o : Option α) :
    Coupled R (fun a b => a = b ∧ o = some a)
      (ofOption cause o) (ofOption cause o) := by
  cases o with
  | some a => exact coupled_pure ⟨rfl, rfl⟩
  | none => exact coupled_throw _

theorem coupled_ofExcept (e : Except Fault α) :
    Coupled R (fun a b => a = b ∧ e = .ok a) (ofExcept e) (ofExcept e) := by
  cases e with
  | ok a => exact coupled_pure ⟨rfl, rfl⟩
  | error cause => exact coupled_throw _

end Flight

def Event.isDraw : Event → Bool
  | .draw _ => true
  | _ => false

def Grid.MadeOf (sound : Cell → Prop) (g : Grid) : Prop :=
  ∀ row ∈ g, ∀ c ∈ row, sound c

namespace Mission

structure MadeOf (sound : Cell → Prop) (m : Mission) : Prop where
  grid : m.grid.MadeOf sound
  block : sound m.block

/-- The missions differ at most in the operator and in the marks of the map. -/
def Alike (m m' : Mission) : Prop :=
  m' = { m with
    operator := m'.operator, sample := m'.sample, base := m'.base }

end Mission

namespace Grid.MadeOf

variable {sound : Cell → Prop} {g : Grid} {p : Position} {c : Cell}

theorem cell? (h : g.MadeOf sound) (hc : g.cell? p = some c) : sound c := by
  simp only [Grid.cell?, Grid.row?, Option.bind_eq_some_iff] at hc
  obtain ⟨row, ⟨i, -, hrow⟩, j, -, hcell⟩ := hc
  exact h row (List.mem_of_getElem? hrow) c (List.mem_of_getElem? hcell)

theorem put {g' : Grid} (h : g.MadeOf sound) (hc : sound c)
    (hput : g.put p c = .ok g') : g'.MadeOf sound := by
  unfold Grid.put at hput
  split at hput
  · cases hput
  · next i _ =>
    split at hput
    · cases hput
    · next j _ =>
      cases hput
      intro row hrow d hd
      obtain ⟨k, hk⟩ := List.mem_iff_getElem?.1 hrow
      rw [List.getElem?_modify] at hk
      cases hold : g[k]? with
      | none => simp [hold] at hk
      | some old =>
        have hsound := h old (List.mem_of_getElem? hold)
        by_cases hik : i = k
        · simp only [hold, hik, if_true, Option.map_eq_map, Option.map_some,
            Option.some.injEq] at hk
          subst hk
          rcases List.mem_or_eq_of_mem_set hd with hd | rfl
          · exact hsound d hd
          · exact hc
        · simp only [hold, hik, if_false, Option.map_eq_map, Option.map_some,
            Option.some.injEq] at hk
          subst hk
          exact hsound d hd

end Grid.MadeOf

/-- What a relation between worlds has to survive.  All cells that the first
mission or its atlas holds are sound; if the relation is exact, the worlds agree
in whatever can be seen. -/
structure Coupling (exact : Prop) (sound : Cell → Prop)
    (R : World → World → Prop) : Prop where
  rover : sound Cell.rover
  path : sound Cell.path
  mission : ∀ {w w'}, R w w' → w.mission.Alike w'.mission
  same : ∀ {w w'}, exact → R w w' →
    w'.mission = w.mission ∧ w'.console.platform = w.console.platform
  cells : ∀ {w w'}, R w w' → w.mission.MadeOf sound
  maps : ∀ {w w' level sector map}, R w w' →
    w.atlas.sector? level = some sector → sector.map = some map →
    map.MadeOf sound
  atlas : ∀ {w w'}, R w w' → w'.atlas = w.atlas
  inputs : ∀ {w w'}, R w w' → w'.console.inputs = w.console.inputs
  unlockIn : ∀ {w w'}, R w w' → w'.console.unlockIn = w.console.unlockIn
  note : ∀ {w w' event event'}, R w w' → event.isDraw = event'.isDraw →
    (exact → event' = event) → R (w.note event) (w'.note event')
  alter : ∀ {w w'} (m m' : Mission), R w w' → m.Alike m' → (exact → m' = m) →
    m.MadeOf sound → R { w with mission := m } { w' with mission := m' }
  countDown : ∀ w w', R w w' → R (countDown w) (countDown w')
  flush : Coupled R Eq flush flush
  take : ∀ {w w' line rest}, R w w' → w.console.inputs = line :: rest →
    R { w with console.inputs := rest } { w' with console.inputs := rest }

section Primitives

variable {α : Type} {exact : Prop} {sound : Cell → Prop}
  {R : World → World → Prop} {rel : α → α → Prop}
  (h : Coupling exact sound R)
include h

/-- What is read from the mission is the same but for the operator and the
marks, and those are the same if the coupling is exact. -/
theorem coupled_mission_bind {f g : Mission → Flight α}
    (hfg : ∀ m operator sample base, m.MadeOf sound →
      (exact → ({ m with operator, sample, base } : Mission) = m) →
      Coupled R rel (f m) (g { m with operator, sample, base })) :
    Coupled R rel (mission >>= f) (mission >>= g) := by
  intro w w' hw
  have halike := h.mission hw
  have hsame : exact → ({ w.mission with
      operator := w'.mission.operator
      sample := w'.mission.sample
      base := w'.mission.base } : Mission) = w.mission := by
    intro hexact
    rw [← halike]
    exact (h.same hexact hw).1
  have hrun : (mission >>= g) w' = g w'.mission w' := rfl
  rw [hrun, halike]
  exact hfg w.mission _ _ _ (h.cells hw) hsame w w' hw

theorem coupled_update {f : Mission → Mission}
    (hcells : ∀ m, m.MadeOf sound → (f m).MadeOf sound)
    (halike : ∀ m operator sample base,
      (f m).Alike (f { m with operator, sample, base })) :
    Coupled R Eq (update f) (update f) := by
  intro w w' hw
  refine .ok rfl (h.alter (f w.mission) (f w'.mission) hw ?_ ?_ ?_)
  · have hfields := halike w.mission w'.mission.operator w'.mission.sample
      w'.mission.base
    rwa [← h.mission hw] at hfields
  · exact fun hexact => congrArg f (h.same hexact hw).1
  · exact hcells w.mission (h.cells hw)

theorem coupled_adjust {f : Mission → Mission}
    (hcells : ∀ m, (f m).grid = m.grid ∧ (f m).block = m.block)
    (halike : ∀ m operator sample base,
      (f m).Alike (f { m with operator, sample, base })) :
    Coupled R Eq (update f) (update f) := by
  refine coupled_update h (fun m hm => ⟨?_, ?_⟩) halike
  · rw [(hcells m).1]
    exact hm.grid
  · rw [(hcells m).2]
    exact hm.block

theorem coupled_record {event event' : Event}
    (hdraw : event.isDraw = event'.isDraw) (hsame : exact → event' = event) :
    Coupled R Eq (record event) (record event') :=
  fun _ _ hw => .ok rfl (h.note hw hdraw hsame)

theorem coupled_log (event : Event) :
    Coupled R Eq (record event) (record event) :=
  coupled_record h rfl fun _ => rfl

theorem coupled_say_named {message message' : Message}
    (hshow : message.isShowable = message'.isShowable)
    (hsame : exact → message' = message) :
    Coupled R Eq (say message) (say message') := by
  unfold say
  rw [hshow]
  refine coupled_ite (coupled_record h rfl fun hexact => ?_) (coupled_throw _)
  rw [hsame hexact]

theorem coupled_say (message : Message) :
    Coupled R Eq (say message) (say message) :=
  coupled_say_named h rfl fun _ => rfl

theorem coupled_tell (voice : Voice) (text : String) :
    Coupled R Eq (tell voice text) (tell voice text) :=
  coupled_say h _

theorem coupled_pause (micros : Int) :
    Coupled R Eq (pause micros) (pause micros) :=
  coupled_seq (coupled_log h _) fun _ => coupled_modify h.countDown

theorem coupled_millis (ms : Int) : Coupled R Eq (millis ms) (millis ms) :=
  coupled_pause h _

theorem coupled_clearScreen : Coupled R Eq clearScreen clearScreen := by
  refine coupled_get_bind fun w w' hw => ?_
  refine coupled_record h rfl fun hexact => ?_
  rw [(h.same hexact hw).2]

theorem coupled_loadBar (color : Style) (ms : Int) :
    Coupled R Eq (loadBar color ms) (loadBar color ms) := by
  have hlocked : ∀ locked, Coupled R Eq
      (update ({ · with locked := locked }))
      (update ({ · with locked := locked })) :=
    fun _ => coupled_adjust h (fun _ => ⟨rfl, rfl⟩) fun _ _ _ _ => rfl
  refine coupled_seq (coupled_seq (hlocked true) fun _ => h.flush) fun _ => ?_
  refine coupled_seq (coupled_forM fun i => ?_) fun _ => ?_
  · exact coupled_seq (coupled_log h _) fun _ => coupled_pause h _
  · exact coupled_seq (coupled_log h _) fun _ => hlocked false

theorem coupled_awaitUnlock (patience : Nat) :
    Coupled R Eq (awaitUnlock patience) (awaitUnlock patience) := by
  induction patience with
  | zero =>
    refine coupled_mission_bind h fun m _ _ _ _ _ => ?_
    exact coupled_ite (coupled_throw _) (coupled_pure rfl)
  | succ patience ih =>
    refine coupled_mission_bind h fun m _ _ _ _ _ => ?_
    refine coupled_ite ?_ (coupled_pure rfl)
    refine coupled_seq (coupled_log h _) fun _ => ?_
    exact coupled_seq (coupled_modify h.countDown) fun _ => ih

theorem coupled_ask (question : Prompt) :
    Coupled R Eq (ask question) (ask question) := by
  refine coupled_seq (coupled_log h _) fun _ w w' hw => ?_
  dsimp only
  rw [h.inputs hw]
  cases hinputs : w.console.inputs with
  | nil => exact .error _ hw
  | cons line rest => exact .ok rfl (h.take hw hinputs)

theorem coupled_prompt (question : Prompt) :
    Coupled R Eq (prompt question) (prompt question) := by
  refine coupled_get_bind fun w w' hw => ?_
  rw [h.unlockIn hw]
  refine coupled_seq (coupled_awaitUnlock h _) fun _ => ?_
  exact coupled_seq h.flush fun _ => coupled_ask h question

theorem coupled_position : Coupled R Eq position position :=
  coupled_mission_bind h fun m _ _ _ _ _ =>
    (coupled_ofOption _ m.rover).mono fun _ _ hab => hab.1

theorem coupled_readCell (p : Position) :
    Coupled R (fun c c' => c = c' ∧ sound c) (readCell p) (readCell p) :=
  coupled_mission_bind h fun m _ _ _ hm _ =>
    (coupled_ofOption _ (m.grid.cell? p)).mono
      fun _ _ hab => ⟨hab.1, hm.grid.cell? hab.2⟩

theorem coupled_putCell (p : Position) {c : Cell} (hc : sound c) :
    Coupled R Eq (putCell p c) (putCell p c) := by
  refine coupled_mission_bind h fun m _ _ _ hm _ => ?_
  refine coupled_bind (coupled_ofExcept (m.grid.put p c)) ?_
  rintro grid _ ⟨rfl, hput⟩
  refine coupled_update h (fun m' hm' => ?_) fun _ _ _ _ => rfl
  exact ⟨hm.grid.put hc hput, hm'.block⟩

end Primitives

section Same

variable {R : World → World → Prop}
  (hnote : ∀ {w w'} event, R w w' → R (w.note event) (w'.note event))
include hnote

theorem coupled_flush_of_same
    (hsame : ∀ {w w'}, R w w' →
      w'.console.platform = w.console.platform ∧
      w'.console.pendingKeys = w.console.pendingKeys)
    (hkeys : ∀ {w w'}, R w w' → R { w with console.pendingKeys := 0 }
      { w' with console.pendingKeys := 0 }) :
    Coupled R Eq flush flush := by
  have hrecord : ∀ event, Coupled R Eq (record event) (record event) :=
    fun event _ _ hw => .ok rfl (hnote event hw)
  refine coupled_get_bind fun w w' hw => ?_
  rw [(hsame hw).1]
  cases w.console.platform with
  | unix => exact hrecord _
  | windows =>
    refine coupled_get_bind fun v v' hv => ?_
    rw [(hsame hv).2]
    refine coupled_seq (coupled_forM hrecord) fun _ => ?_
    exact coupled_modify fun _ _ hw => hkeys hw

theorem coupled_draw_of_same
    (hsame : ∀ {w w'}, R w w' → w'.console.draws = w.console.draws)
    (hdraws : ∀ {w w'} draws, R w w' → R { w with console.draws := draws }
      { w' with console.draws := draws }) {n : Nat} (hn : 0 < n) :
    Coupled R (fun a b => a < n ∧ a = b) (draw n) (draw n) := by
  have hrecord : Coupled R Eq (record (.draw n)) (record (.draw n)) :=
    fun _ _ hw => .ok rfl (hnote _ hw)
  refine coupled_seq hrecord fun _ w w' hw => ?_
  dsimp only
  rw [hsame hw]
  cases w.console.draws with
  | nil => exact .ok ⟨hn, rfl⟩ hw
  | cons lot rest => exact .ok ⟨Nat.mod_lt lot hn, rfl⟩ (hdraws rest hw)

end Same

theorem Flight.Coupled.keeps {α : Type} {inv : World → Prop} {x y : Flight α}
    {w : World} (h : Coupled (fun w w' => w' = w ∧ inv w) Eq x y)
    (hw : inv w) : x.Yields w (fun _ => inv) fun _ => inv := by
  have hpair := h w w ⟨rfl, hw⟩
  unfold Yields
  generalize x w = r at hpair ⊢
  generalize y w = r' at hpair
  cases hpair with
  | ok _ hv => exact hv.2
  | error _ hv => exact hv.2

/-- An assertion on a single world that no event and no change of the mission
can touch couples every such world with itself. -/
theorem Coupling.ofInvariant {inv : World → Prop}
    (hnote : ∀ w event, inv w → inv (w.note event))
    (halter : ∀ w (m : Mission), inv w → inv { w with mission := m })
    (hcount : ∀ w, inv w → inv (Flight.countDown w))
    (hkeys : ∀ w, inv w → inv { w with console.pendingKeys := 0 })
    (htake : ∀ w line rest, inv w → w.console.inputs = line :: rest →
      inv { w with console.inputs := rest }) :
    Coupling True (fun _ => True) fun w w' => w' = w ∧ inv w where
  rover := trivial
  path := trivial
  mission := by
    rintro _ w ⟨rfl, -⟩
    rfl
  same := by
    rintro _ w - ⟨rfl, -⟩
    exact ⟨rfl, rfl⟩
  cells _ := ⟨fun _ _ _ _ => trivial, trivial⟩
  maps _ _ _ := fun _ _ _ _ => trivial
  atlas := by
    rintro _ w ⟨rfl, -⟩
    rfl
  inputs := by
    rintro _ w ⟨rfl, -⟩
    rfl
  unlockIn := by
    rintro _ w ⟨rfl, -⟩
    rfl
  note := by
    rintro _ w event event' ⟨rfl, hw⟩ - hsame
    rw [hsame trivial]
    exact ⟨rfl, hnote w event hw⟩
  alter := by
    rintro _ w m m' ⟨rfl, hw⟩ - hsame -
    rw [hsame trivial]
    exact ⟨rfl, halter w m hw⟩
  countDown := by
    rintro _ w ⟨rfl, hw⟩
    exact ⟨rfl, hcount w hw⟩
  flush := by
    apply coupled_flush_of_same
    · rintro _ w event ⟨rfl, hw⟩
      exact ⟨rfl, hnote w event hw⟩
    · rintro _ w ⟨rfl, -⟩
      exact ⟨rfl, rfl⟩
    · rintro _ w ⟨rfl, hw⟩
      exact ⟨rfl, hkeys w hw⟩
  take := by
    rintro _ w line rest ⟨rfl, hw⟩ hinputs
    exact ⟨rfl, htake w line rest hw hinputs⟩

end Rover

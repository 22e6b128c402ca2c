import Rover.Flight

/-!
Contracts of flights.  A flight yields two assertions from a world if it returns
into the first or halts into the second.  Whatever a flight is built from, the
contract passes to its parts, so a program is taken apart by rewriting.
-/

namespace Rover

namespace World

def note (w : World) (event : Event) : World :=
  { w with console.log := ⟨event, w.mission⟩ :: w.console.log }

def noteAll (w : World) (events : List Event) : World :=
  { w with
    console.log := (events.map (⟨·, w.mission⟩)).reverse ++ w.console.log }

def alter (w : World) (f : Mission → Mission) : World :=
  { w with mission := f w.mission }

def hear (w : World) (prompt : Prompt) (rest : List String) : World :=
  { w with
    console.log := ⟨.ask prompt, w.mission⟩ :: w.console.log,
    console.inputs := rest }

@[simp] theorem note_mission (w : World) (event : Event) :
    (w.note event).mission = w.mission := rfl

@[simp] theorem note_atlas (w : World) (event : Event) :
    (w.note event).atlas = w.atlas :=
  rfl

@[simp] theorem note_inputs (w : World) (event : Event) :
    (w.note event).console.inputs = w.console.inputs := rfl

@[simp] theorem note_log (w : World) (event : Event) :
    (w.note event).console.log = ⟨event, w.mission⟩ :: w.console.log := rfl

theorem note_noteAll (w : World) (event : Event) (events : List Event) :
    (w.note event).noteAll events = w.noteAll (event :: events) := by
  simp [note, noteAll]

theorem noteAll_noteAll (w : World) (events more : List Event) :
    (w.noteAll events).noteAll more = w.noteAll (events ++ more) := by
  simp [noteAll]

theorem noteAll_log_ne (w : World) {events : List Event} (h : events ≠ []) :
    (w.noteAll events).console.log ≠ w.console.log := by
  intro hlog
  have hlength := congrArg List.length hlog
  simp only [noteAll, List.length_append, List.length_reverse, List.length_map]
    at hlength
  exact h (List.length_eq_zero_iff.1 (by omega))

@[simp] theorem alter_mission (w : World) (f : Mission → Mission) :
    (w.alter f).mission = f w.mission := rfl

@[simp] theorem alter_console (w : World) (f : Mission → Mission) :
    (w.alter f).console = w.console := rfl

@[simp] theorem alter_atlas (w : World) (f : Mission → Mission) :
    (w.alter f).atlas = w.atlas := rfl

@[simp] theorem hear_mission (w : World) (prompt : Prompt)
    (rest : List String) : (w.hear prompt rest).mission = w.mission :=
  rfl

@[simp] theorem hear_atlas (w : World) (prompt : Prompt) (rest : List String) :
    (w.hear prompt rest).atlas = w.atlas := rfl

@[simp] theorem hear_inputs (w : World) (prompt : Prompt) (rest : List String) :
    (w.hear prompt rest).console.inputs = rest := rfl

@[simp] theorem hear_log (w : World) (prompt : Prompt) (rest : List String) :
    (w.hear prompt rest).console.log =
      ⟨.ask prompt, w.mission⟩ :: w.console.log :=
  rfl

end World

namespace Flight

variable {α β : Type} {post : α → World → Prop}
  {halted : Halt → World → Prop} {w : World}

theorem bind_of_ok {x : Flight β} {f : β → Flight α} {b : β} {w' : World}
    (hx : x w = .ok b w') : (x >>= f) w = f b w' := by
  change EStateM.bind x f w = _
  rw [EStateM.bind, hx]

theorem bind_of_error {x : Flight β} {f : β → Flight α} {h : Halt} {w' : World}
    (hx : x w = .error h w') : (x >>= f) w = .error h w' := by
  change EStateM.bind x f w = _
  rw [EStateM.bind, hx]

theorem bind_congr_world {x y : Flight β} {f : β → Flight α} {w' : World}
    (hx : x w = y w') :
    (x >>= f) w = (y >>= f) w' := by
  change EStateM.bind x f w = EStateM.bind y f w'
  rw [EStateM.bind, EStateM.bind, hx]

theorem forM_record (events : List Event) (w : World) :
    events.forM record w = .ok () (w.noteAll events) := by
  induction events generalizing w with
  | nil => rfl
  | cons event events ih =>
    change (record event >>= fun _ => events.forM record) w = _
    have hrecord : record event w = .ok () (w.note event) := rfl
    rw [bind_of_ok hrecord, ih, World.note_noteAll]

theorem forM_say (messages : List Message) (w : World) :
    messages.forM say w =
      let w' := w.noteAll ((messages.takeWhile Message.isShowable).map .say)
      if messages.all Message.isShowable then .ok () w'
        else .error (.fault .notShowable) w' := by
  induction messages generalizing w with
  | nil => rfl
  | cons message messages ih =>
    change (say message >>= fun _ => messages.forM say) w = _
    cases hshow : message.isShowable with
    | true =>
      have hsay : say message w = .ok () (w.note (.say message)) := by
        rw [say, if_pos hshow]
        rfl
      rw [bind_of_ok hsay, ih, World.note_noteAll]
      simp [hshow]
    | false =>
      have hsay : say message w = .error (.fault .notShowable) w := by
        rw [say, hshow]
        rfl
      rw [bind_of_error hsay]
      simp [hshow, World.noteAll]

/-- Started in `w`, the flight returns into `post` or halts into `halted`. -/
def Yields (x : Flight α) (w : World) (post : α → World → Prop)
    (halted : Halt → World → Prop) : Prop :=
  match x w with
  | .ok a w' => post a w'
  | .error h w' => halted h w'

theorem Yields.ok {x : Flight α} (hx : x.Yields w post halted) {a : α}
    {w' : World} (hrun : x w = .ok a w') : post a w' := by
  rw [Yields, hrun] at hx
  exact hx

theorem Yields.error {x : Flight α} (hx : x.Yields w post halted) {h : Halt}
    {w' : World} (hrun : x w = .error h w') : halted h w' := by
  rw [Yields, hrun] at hx
  exact hx

theorem Yields.exists_ok {x : Flight α}
    (hx : x.Yields w post fun _ _ => False) :
    ∃ a w', x w = .ok a w' ∧ post a w' := by
  cases hrun : x w with
  | ok a w' => exact ⟨a, w', rfl, hx.ok hrun⟩
  | error h w' => exact (hx.error hrun).elim

theorem Yields.exists_error {x : Flight α}
    (hx : x.Yields w (fun _ _ => False) halted) :
    ∃ h w', x w = .error h w' ∧ halted h w' := by
  cases hrun : x w with
  | ok a w' => exact (hx.ok hrun).elim
  | error h w' => exact ⟨h, w', rfl, hx.error hrun⟩

theorem Yields.mono {x : Flight α}
    {post' : α → World → Prop} {halted' : Halt → World → Prop}
    (hx : x.Yields w post halted) (hpost : ∀ a w', post a w' → post' a w')
    (hhalted : ∀ h w', halted h w' → halted' h w') :
    x.Yields w post' halted' := by
  unfold Yields at hx ⊢
  split
  · next hrun =>
    rw [hrun] at hx
    exact hpost _ _ hx
  · next hrun =>
    rw [hrun] at hx
    exact hhalted _ _ hx

theorem Yields.imp {x : Flight α} {post' : α → World → Prop}
    (hx : x.Yields w post halted) (hpost : ∀ a w', post a w' → post' a w') :
    x.Yields w post' halted :=
  hx.mono hpost fun _ _ h => h

theorem yields_of_run {x : Flight α} (hok : ∀ a w', x w = .ok a w' → post a w')
    (herror : ∀ h w', x w = .error h w' → halted h w') :
    x.Yields w post halted := by
  unfold Yields
  split
  · next hrun => exact hok _ _ hrun
  · next hrun => exact herror _ _ hrun

theorem Yields.of_eq {x y : Flight α} {w' : World}
    (hx : x.Yields w post halted) (h : y w' = x w) :
    y.Yields w' post halted := by
  unfold Yields at hx ⊢
  rw [h]
  exact hx

theorem Yields.of_never {x : Flight α}
    (hx : x.Yields w (fun _ _ => False) halted) :
    x.Yields w post halted :=
  hx.imp fun _ _ h => h.elim

theorem Yields.and {x : Flight α} {post' : α → World → Prop}
    {halted' : Halt → World → Prop} (hx : x.Yields w post halted)
    (hx' : x.Yields w post' halted') :
    x.Yields w (fun a w' => post a w' ∧ post' a w')
      (fun h w' => halted h w' ∧ halted' h w') := by
  unfold Yields at hx hx' ⊢
  split
  · next hrun =>
    rw [hrun] at hx hx'
    exact ⟨hx, hx'⟩
  · next hrun =>
    rw [hrun] at hx hx'
    exact ⟨hx, hx'⟩

@[simp] theorem yields_pure (a : α) :
    (pure a : Flight α).Yields w post halted ↔ post a w := Iff.rfl

@[simp] theorem yields_bind (x : Flight β) (f : β → Flight α) :
    (x >>= f).Yields w post halted ↔
      x.Yields w (fun b w' => (f b).Yields w' post halted) halted := by
  change (match EStateM.bind x f w with
    | .ok a w' => post a w'
    | .error h w' => halted h w') ↔ _
  unfold EStateM.bind Yields
  cases x w <;> rfl

theorem Yields.bind {x : Flight β}
    {f : β → Flight α} {mid : β → World → Prop} (hx : x.Yields w mid halted)
    (hf : ∀ b w', mid b w' → (f b).Yields w' post halted) :
    (x >>= f).Yields w post halted :=
  (yields_bind x f).2 (hx.imp hf)

@[simp] theorem yields_mission {post : Mission → World → Prop} :
    mission.Yields w post halted ↔ post w.mission w := Iff.rfl

@[simp] theorem yields_get {post : World → World → Prop} :
    (get : Flight World).Yields w post halted ↔ post w w := Iff.rfl

@[simp] theorem yields_modify {post : PUnit → World → Prop}
    (f : World → World) :
    (modify f : Flight PUnit).Yields w post halted ↔ post ⟨⟩ (f w) :=
  Iff.rfl

@[simp] theorem yields_update {post : Unit → World → Prop}
    (f : Mission → Mission) :
    (update f).Yields w post halted ↔ post () (w.alter f) :=
  Iff.rfl

@[simp] theorem yields_record {post : Unit → World → Prop} (event : Event) :
    (record event).Yields w post halted ↔ post () (w.note event) := Iff.rfl

@[simp] theorem yields_throw (h : Halt) :
    (throw h : Flight α).Yields w post halted ↔ halted h w := Iff.rfl

@[simp] theorem yields_exit :
    (exit : Flight α).Yields w post halted ↔ halted .exit w := Iff.rfl

@[simp] theorem yields_fail (cause : Fault) :
    (fail cause : Flight α).Yields w post halted ↔ halted (.fault cause) w :=
  Iff.rfl

theorem yields_ofOption
    {cause : Fault} {o : Option α} (hsome : ∀ a, o = some a → post a w)
    (hnone : o = none → halted (.fault cause) w) :
    (ofOption cause o).Yields w post halted := by
  cases o with
  | some a => exact hsome a rfl
  | none => exact hnone rfl

theorem yields_ofExcept {e : Except Fault α} (hok : ∀ a, e = .ok a → post a w)
    (herror : ∀ cause, e = .error cause → halted (.fault cause) w) :
    (ofExcept e).Yields w post halted := by
  cases e with
  | ok a => exact hok a rfl
  | error cause => exact herror cause rfl

theorem yields_ite {p : Prop} [Decidable p] {x y : Flight α}
    (hx : p → x.Yields w post halted) (hy : ¬p → y.Yields w post halted) :
    (if p then x else y).Yields w post halted := by
  split
  · next hp => exact hx hp
  · next hp => exact hy hp

@[simp] theorem yields_run (run : World → EStateM.Result Halt World α) :
    Yields run w post halted ↔
      match run w with
      | .ok a w' => post a w'
      | .error h w' => halted h w' := Iff.rfl

-- From here on a contract is taken apart by its rules only; unfolding it would
-- run the flight.
attribute [irreducible] Yields

theorem yields_forM {items : List β} {body : β → Flight PUnit}
    (inv : World → Prop) (hbody : ∀ item ∈ items, ∀ w, inv w →
      (body item).Yields w (fun _ => inv) halted) (hw : inv w) :
    (items.forM body).Yields w (fun _ => inv) halted := by
  induction items generalizing w with
  | nil => exact (yields_pure PUnit.unit).2 hw
  | cons item items ih =>
    change (body item >>= fun _ => items.forM body).Yields w _ _
    refine (hbody item (List.mem_cons_self ..) w hw).bind fun _ w' hw' => ?_
    exact ih (fun item hitem => hbody item (List.mem_cons_of_mem _ hitem)) hw'

end Flight

end Rover

import Rover.Ending
import Rover.Proofs.Yields

/-!
Interludes: messages, pauses and bars.  An interlude leaves the mission as it
was, but for the lock of the keyboard, which it never leaves locked unless it
was.  It takes no input, and what it logs is background, stamped with the same
mission.
-/

namespace Rover

open Flight

/-- The events that mark the course of a mission.  All others are background. -/
def Event.isMilestone : Event → Bool
  | .ask _ | .wait => true
  | .say (.controlGranted _) | .say .sampleCollected | .say .sampleDelivered
  | .say (.solarFlare _) | .say (.interference _) | .say (.charged _)
  | .say .compiling | .say (.scriptLoaded _) | .say (.memoryShortage _ _)
  | .say .linkTerminated => true
  | _ => false

structure Interlude (w w' : World) : Prop where
  mission : w'.mission = { w.mission with locked := w'.mission.locked }
  unlocked : w.mission.locked = false → w'.mission.locked = false
  atlas : w'.atlas = w.atlas
  inputs : w'.console.inputs = w.console.inputs
  log : ∃ entries, w'.console.log = entries ++ w.console.log ∧
    ∀ e ∈ entries, e.event.isMilestone = false ∧
      e.mission = { w.mission with locked := e.mission.locked }

namespace Interlude

variable {w w' w'' : World}

theorem refl (w : World) : Interlude w w where
  mission := rfl
  unlocked := id
  atlas := rfl
  inputs := rfl
  log := ⟨[], rfl, by simp⟩

theorem trans (h : Interlude w w') (h' : Interlude w' w'') :
    Interlude w w'' where
  mission := by rw [h'.mission, h.mission]
  unlocked := fun hw => h'.unlocked (h.unlocked hw)
  atlas := h'.atlas.trans h.atlas
  inputs := h'.inputs.trans h.inputs
  log := by
    obtain ⟨entries, hlog, hentries⟩ := h.log
    obtain ⟨entries', hlog', hentries'⟩ := h'.log
    refine ⟨entries' ++ entries, by rw [hlog', hlog, List.append_assoc],
      fun e he => ?_⟩
    rcases List.mem_append.1 he with he | he
    · obtain ⟨hevent, hmission⟩ := hentries' e he
      exact ⟨hevent, by rw [hmission, h.mission]⟩
    · exact hentries e he

theorem note (event : Event) (hevent : event.isMilestone = false) (w : World) :
    Interlude w (w.note event) where
  mission := rfl
  unlocked := id
  atlas := rfl
  inputs := rfl
  log := ⟨[⟨event, w.mission⟩], rfl, by simpa using hevent⟩

theorem noteAll {events : List Event}
    (hevents : ∀ event ∈ events, event.isMilestone = false) (w : World) :
    Interlude w (w.noteAll events) where
  mission := rfl
  unlocked := id
  atlas := rfl
  inputs := rfl
  log := by
    refine ⟨_, rfl, fun e he => ?_⟩
    obtain ⟨event, hevent, rfl⟩ := List.mem_map.1 (List.mem_reverse.1 he)
    exact ⟨hevents event hevent, rfl⟩

/-- What happens behind a locked keyboard is an interlude once the keyboard is
unlocked. -/
theorem behind_lock (h : Interlude (w.alter ({ · with locked := true })) w') :
    Interlude w (w'.alter ({ · with locked := false })) where
  mission := by
    rw [World.alter_mission, h.mission]
    rfl
  unlocked := fun _ => rfl
  atlas := h.atlas
  inputs := h.inputs
  log := h.log

end Interlude

namespace Flight

variable {α β : Type} {post : α → World → Prop}
  {halted : Halt → World → Prop} {w : World}

def Quiet (x : Flight α) : Prop :=
  ∀ w, x.Yields w (fun _ w' => Interlude w w') fun _ _ => False

theorem Quiet.yields {x : Flight α} (hx : Quiet x)
    (hpost : ∀ a w', Interlude w w' → post a w') : x.Yields w post halted :=
  (hx w).mono hpost fun _ _ h => h.elim

@[simp] theorem quiet_pure (a : α) : Quiet (pure a : Flight α) :=
  fun w => (yields_pure a).2 (Interlude.refl w)

@[simp] theorem quiet_mission : Quiet mission :=
  fun w => yields_mission.2 (Interlude.refl w)

@[simp] theorem quiet_get : Quiet (get : Flight World) :=
  fun w => yields_get.2 (Interlude.refl w)

theorem quiet_modify {f : World → World} (hf : ∀ w, Interlude w (f w)) :
    Quiet (modify f : Flight PUnit) :=
  fun w => (yields_modify f).2 (hf w)

theorem quiet_bind {x : Flight β} {f : β → Flight α} (hx : Quiet x)
    (hf : ∀ b, Quiet (f b)) : Quiet (x >>= f) := by
  intro w
  rw [yields_bind]
  exact hx.yields fun b w' h => (hf b).yields fun a w'' h' => h.trans h'

theorem quiet_forM {items : List β} {body : β → Flight PUnit}
    (hbody : ∀ item ∈ items, Quiet (body item)) : Quiet (items.forM body) := by
  intro w
  refine yields_forM (Interlude w) (fun item hitem w' h => ?_)
    (Interlude.refl w)
  exact (hbody item hitem).yields fun _ _ h' => h.trans h'

@[simp] theorem quiet_record {event : Event}
    (hevent : event.isMilestone = false) :
    Quiet (record event) :=
  fun w => (yields_record event).2 (Interlude.note event hevent w)

theorem quiet_say {message : Message} (hshow : message.isShowable = true)
    (hmessage : (Event.say message).isMilestone = false) :
    Quiet (say message) := by
  rw [say, if_pos hshow]
  exact quiet_record hmessage

@[simp] theorem quiet_tell (voice : Voice) (text : String) :
    Quiet (tell voice text) :=
  quiet_say rfl rfl

theorem interlude_countDown (w : World) : Interlude w (countDown w) := by
  unfold countDown
  split
  · exact Interlude.refl w
  · exact ⟨rfl, fun _ => rfl, rfl, rfl, [], rfl, by simp⟩
  · exact ⟨rfl, id, rfl, rfl, [], rfl, by simp⟩

@[simp] theorem quiet_pause (micros : Int) : Quiet (pause micros) :=
  quiet_bind (quiet_record rfl) fun _ => quiet_modify interlude_countDown

@[simp] theorem quiet_millis (ms : Int) : Quiet (millis ms) :=
  quiet_pause _

@[simp] theorem quiet_draw (n : Nat) : Quiet (draw n) := by
  refine quiet_bind (quiet_record rfl) fun _ w => ?_
  rw [yields_run]
  cases w.console.draws with
  | nil => exact Interlude.refl w
  | cons lot rest => exact ⟨rfl, id, rfl, rfl, [], rfl, by simp⟩

theorem draw_yields {n : Nat} {post : Nat → World → Prop} (hn : 0 < n)
    (hpost : ∀ lot w', lot < n → Interlude w w' → post lot w') :
    (draw n).Yields w post halted := by
  have hlot : (draw n).Yields w (fun lot _ => lot < n) fun _ _ => True := by
    refine (yields_bind _ _).2 ((yields_record _).2 ((yields_run _).2 ?_))
    cases (w.note (.draw n)).console.draws with
    | nil => exact hn
    | cons lot rest => exact Nat.mod_lt lot hn
  refine (hlot.and (quiet_draw n w)).mono (fun lot w' h => ?_)
    fun _ _ h => h.2.elim
  exact hpost lot w' h.1 h.2

theorem quiet_draw_bind {n : Nat} {f : Nat → Flight α} (hn : 0 < n)
    (hf : ∀ lot, lot < n → Quiet (f lot)) : Quiet (draw n >>= f) := by
  intro w
  rw [yields_bind]
  exact draw_yields hn fun lot w' hlot h =>
    (hf lot hlot).yields fun _ _ h' => h.trans h'

@[simp] theorem quiet_clearScreen : Quiet clearScreen := by
  refine quiet_bind quiet_get fun w => quiet_record rfl

@[simp] theorem quiet_flush : Quiet flush := by
  refine quiet_bind quiet_get fun w => ?_
  cases w.console.platform with
  | unix => exact quiet_record rfl
  | windows =>
    refine quiet_bind quiet_get fun w =>
      quiet_bind (quiet_forM fun event hevent => ?_) fun _ => ?_
    · rw [List.eq_of_mem_replicate hevent]
      exact quiet_record rfl
    · exact quiet_modify fun w => ⟨rfl, id, rfl, rfl, [], rfl, by simp⟩

theorem quiet_barFrames (color : Style) (micros : Int) (length : Nat) :
    Quiet ((List.range length).forM fun i => do
      record (.barFrame color (i + 1))
      pause micros) :=
  quiet_forM fun _ _ => quiet_bind (quiet_record rfl) fun _ =>
    quiet_pause micros

def Unlocking (x : Flight α) : Prop :=
  ∀ w, x.Yields w (fun _ w' => Interlude w w' ∧ w'.mission.locked = false)
      fun _ _ => False

theorem Unlocking.yields {x : Flight α} (hx : Unlocking x)
    (hpost : ∀ a w', Interlude w w' → w'.mission.locked = false → post a w') :
    x.Yields w post halted :=
  (hx w).mono (fun a w' h => hpost a w' h.1 h.2) fun _ _ h => h.elim

theorem unlocking_bind {x : Flight β} {f : β → Flight α} (hx : Unlocking x)
    (hf : ∀ b, Quiet (f b)) : Unlocking (x >>= f) := by
  intro w
  rw [yields_bind]
  refine hx.yields fun b w' h hlocked => (hf b).yields fun a w'' h' => ?_
  exact ⟨h.trans h', h'.unlocked hlocked⟩

theorem Quiet.bind_unlocking {x : Flight β} {f : β → Flight α} (hx : Quiet x)
    (hf : ∀ b, Unlocking (f b)) : Unlocking (x >>= f) := by
  intro w
  rw [yields_bind]
  refine hx.yields fun b w' h => (hf b).yields fun a w'' h' hlocked => ?_
  exact ⟨h.trans h', hlocked⟩

theorem unlocking_loadBar (color : Style) (ms : Int) :
    Unlocking (loadBar color ms) := by
  intro w
  simp only [loadBar, lock, unlock, yields_bind, yields_update, yields_record]
  refine quiet_flush.yields fun _ w₁ h₁ => ?_
  refine (quiet_barFrames color (50 * ms) barLength).yields fun _ w₂ h₂ => ?_
  have hbar := (h₁.trans h₂).trans (Interlude.note .newline rfl w₂)
  exact ⟨hbar.behind_lock, rfl⟩

@[simp] theorem quiet_loadBar (color : Style) (ms : Int) :
    Quiet (loadBar color ms) :=
  fun _ => (unlocking_loadBar color ms).yields fun _ _ h _ => h

end Flight

end Rover

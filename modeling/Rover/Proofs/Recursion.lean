import Rover.Proofs.Conduct
import Rover.Proofs.Tandem

/-!
The bound on the number of scripts is never felt.  Two flights agree below `n`
if they do the same whenever fewer than `n` lines are left; every part of a
campaign agrees with itself if what follows it does, so that writing scripts
satisfies the equation of an unbounded recursion.
-/

namespace Rover

open Flight

namespace Flight

variable {α β : Type} {n : Nat} {w : World}

def Below (n : Nat) (w : World) : Prop :=
  w.console.inputs.length < n

/-- The flights do the same from every world below `n`, and stay below. -/
abbrev Agree (n : Nat) (x y : Flight α) : Prop :=
  Coupled (fun w w' => w' = w ∧ Below n w) Eq x y

theorem Agree.eq {x y : Flight α} (h : Agree n x y) (hw : Below n w) :
    x w = y w := by
  have hpair := h w w ⟨rfl, hw⟩
  generalize x w = r at hpair ⊢
  generalize y w = r' at hpair ⊢
  cases hpair with
  | ok hab hv => rw [hab, hv.1]
  | error halt hv => rw [hv.1]

theorem bind_eq {x y : Flight β} {f g : β → Flight α}
    {between : World → Prop} (hx : x w = y w)
    (hbetween : x.Yields w (fun _ => between) fun _ _ => True)
    (hf : ∀ b w', between w' → f b w' = g b w') :
    (x >>= f) w = (y >>= g) w := by
  change EStateM.bind x f w = EStateM.bind y g w
  unfold EStateM.bind
  rw [← hx]
  cases hrun : x w with
  | ok b w' => exact hf b w' (hbetween.ok hrun)
  | error h w' => rfl

theorem bind_of_never {x : Flight β} {f g : β → Flight α}
    (hx : x.Yields w (fun _ _ => False) fun _ _ => True) :
    (x >>= f) w = (x >>= g) w :=
  bind_eq rfl hx fun _ _ h => h.elim

theorem below_countDown (hw : Below n w) : Below n (countDown w) := by
  unfold countDown
  split
  · exact hw
  · exact hw
  · exact hw

theorem tandem_below (n : Nat) :
    Tandem True (fun _ => True) fun w w' => w' = w ∧ Below n w where
  toCoupling := by
    apply Coupling.ofInvariant
    · exact fun _ _ hw => hw
    · exact fun _ _ hw => hw
    · exact fun _ hw => below_countDown hw
    · exact fun _ hw => hw
    · intro w line rest hw hinputs
      rw [Below, hinputs, List.length_cons] at hw
      exact Nat.lt_of_succ_lt hw
  draw hk := by
    refine (coupled_draw_of_same ?_ ?_ ?_ hk).mono ?_
    · rintro _ w event ⟨rfl, hw⟩
      exact ⟨rfl, hw⟩
    · rintro _ w ⟨rfl, -⟩
      rfl
    · rintro _ w draws ⟨rfl, hw⟩
      exact ⟨rfl, hw⟩
    · rintro a _ ⟨ha, rfl⟩
      exact ⟨ha, ha, fun _ => rfl⟩
  fair := Or.inl trivial

theorem prompt_takes (question : Prompt) (w : World) :
    (prompt question).Yields w (fun _ => Below w.console.inputs.length)
      fun _ _ => True := by
  have hawait : Agree (w.console.inputs.length + 1)
      (do awaitUnlock w.console.unlockIn; flush)
      (do awaitUnlock w.console.unlockIn; flush) :=
    coupled_seq (coupled_awaitUnlock (tandem_below _).toCoupling _)
      fun _ => (tandem_below _).flush
  have hflushed :=
    Coupled.keeps hawait (Nat.lt_succ_self w.console.inputs.length)
  simp only [prompt, yields_bind, yields_get] at hflushed ⊢
  refine hflushed.mono (fun _ w₁ hw₁ => ?_) fun _ _ _ => trivial
  refine hw₁.mono (fun _ w₂ hw₂ => ?_) fun _ _ _ => trivial
  refine ask_yields (fun line rest hinputs => ?_) fun _ => trivial
  unfold Below at hw₂ ⊢
  rw [hinputs, List.length_cons] at hw₂
  rw [World.hear_inputs]
  omega

end Flight

private theorem readLines_takes (limit number : Nat) (w : World) :
    (readLines limit number).Yields w
      (fun _ => Below w.console.inputs.length) fun _ _ => True := by
  induction limit generalizing number w with
  | zero =>
    rw [readLines, yields_throw]
    trivial
  | succ limit ih =>
    rw [readLines]
    refine (prompt_takes _ w).bind fun line w₁ hw₁ => ?_
    rw [yields_bind, yields_update]
    refine yields_ite (fun _ => (yields_pure _).2 hw₁) fun _ => ?_
    refine (ih (number + 1) _).bind fun lines w₂ hw₂ => ?_
    exact (yields_pure _).2 (Nat.lt_trans hw₂ hw₁)

private theorem readScript_takes (w : World) :
    readScript.Yields w (fun _ => Below w.console.inputs.length)
      fun _ _ => True := by
  rw [readScript, yields_bind, yields_get]
  exact readLines_takes _ _ w

/-- Bounds that exceed the number of lines left make no difference. -/
private theorem agree_composeWithin (n : Nat) : ∀ a b, n ≤ a → n ≤ b →
    Agree n (composeWithin a) (composeWithin b) := by
  induction n with
  | zero => exact fun a b _ _ w _ hw => absurd hw.2 (Nat.not_lt_zero _)
  | succ n ih =>
    intro a b ha hb
    obtain ⟨a, rfl⟩ :=
      Nat.exists_eq_add_of_le' (Nat.lt_of_lt_of_le n.succ_pos ha)
    obtain ⟨b, rfl⟩ :=
      Nat.exists_eq_add_of_le' (Nat.lt_of_lt_of_le n.succ_pos hb)
    rintro _ w ⟨rfl, hw⟩
    rw [composeWithin, composeWithin]
    have hread := coupled_readScript (tandem_below (n + 1)) w w ⟨rfl, hw⟩
    cases hrun : readScript w with
    | ok script w₁ =>
      -- A script takes a line, so whatever follows it is below `n`, where the
      -- two already agree.
      have hw₁ : Below n w₁ := Nat.lt_of_lt_of_le
        ((readScript_takes w).ok hrun) (Nat.le_of_lt_succ hw)
      have hnext := coupled_executeScript (tandem_below n)
        (ih a b (by omega) (by omega)) script
      rw [bind_of_ok hrun, bind_of_ok hrun]
      refine (hnext w₁ w₁ ⟨rfl, hw₁⟩).widen fun _ _ hv => ?_
      exact ⟨hv.1, Nat.lt_succ_of_lt hv.2⟩
    | error h w₁ =>
      rw [bind_of_error hrun, bind_of_error hrun]
      rw [hrun] at hread
      cases hread with
      | error _ hv => exact .error h hv

private theorem composeWithin_eq {limit : Nat} {w : World}
    (h : w.console.inputs.length < limit) :
    composeWithin limit w = compose w :=
  (agree_composeWithin (w.console.inputs.length + 1) limit _ h
    (Nat.le_refl _)).eq (Nat.lt_succ_self w.console.inputs.length)

/-- Writing scripts is one script after the other, without a bound. -/
theorem compose_eq (w : World) :
    compose w =
      (do executeScript compose (← readScript) : Flight Unit) w := by
  have hcompose : Agree w.console.inputs.length
      (composeWithin w.console.inputs.length) compose := by
    rintro _ w' ⟨rfl, hw'⟩
    rw [← composeWithin_eq hw']
    exact agree_composeWithin _ _ _ (Nat.le_refl _) (Nat.le_refl _) _ _
      ⟨rfl, hw'⟩
  change composeWithin (w.console.inputs.length + 1) w = _
  -- One step of the bounded recursion; below the lines left now, the rest of it
  -- is `compose`.
  rw [composeWithin]
  exact bind_eq rfl (readScript_takes w) fun script w' hw' =>
    Agree.eq (coupled_executeScript (tandem_below _) hcompose script) hw'

end Rover

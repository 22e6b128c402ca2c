import Rover.Proofs.BranchText
import Rover.Voice

/-!
Stripped texts.  A control sequence has no escape character but its first.  So a
sequence that was begun in one text is never finished by another that begins
with an escape character, and stripping goes through the two one by one; what a
voice adds to a message is gone but for its label.
-/

namespace Rover

open Text

namespace Ansi

inductive IsSequence : List Char → Prop
  | mk {introducer final : Char} {parameters intermediates : List Char}
    (hintroducer : isIntroducer introducer = true)
    (hparameters : ∀ c ∈ parameters, isParameter c = true)
    (hintermediates : ∀ c ∈ intermediates, isIntermediate c = true)
    (hfinal : isFinal final = true) : IsSequence
    (escape :: introducer :: (parameters ++ (intermediates ++ [final])))

/-- The classes of characters are intervals, and those of one sequence lie
apart. -/
private theorem between_apart {low high low' high' : Nat} {c : Char}
    (hapart : high < low' ∨ high' < low) (h : between low high c = true) :
    between low' high' c = false := by
  simp only [between, Bool.and_eq_true, decide_eq_true_eq,
    Bool.and_eq_false_iff, decide_eq_false_iff_not] at h ⊢
  omega

variable {seq cs rest : List Char} {n : Nat}

theorem IsSequence.escape_notMem_tail (h : IsSequence seq) :
    escape ∉ seq.tail := by
  obtain ⟨hintroducer, hparameters, hintermediates, hfinal⟩ := h
  simp only [List.tail_cons, List.mem_cons, List.mem_append, List.mem_nil_iff,
    or_false, not_or]
  refine ⟨?_, ?_, ?_, ?_⟩
  · rintro rfl
    cases hintroducer
  · exact fun hmem => absurd (hparameters _ hmem) (by decide)
  · exact fun hmem => absurd (hintermediates _ hmem) (by decide)
  · rintro rfl
    cases hfinal

theorem IsSequence.length_append (h : IsSequence seq) :
    sequenceLength? (seq ++ rest) = some seq.length := by
  obtain @⟨introducer, final, parameters, intermediates, hintroducer,
    hparameters, hintermediates, hfinal⟩ := h
  have hstop : ∀ c ∈ (intermediates ++ (final :: rest)).head?,
      isParameter c = false := by
    intro c hc
    cases intermediates with
    | nil =>
      cases hc
      exact between_apart (by decide) hfinal
    | cons d intermediates =>
      cases hc
      exact between_apart (by decide) (hintermediates _ (List.mem_cons_self ..))
  have hend : ∀ c ∈ (final :: rest).head?, isIntermediate c = false := by
    rintro c ⟨⟩
    exact between_apart (by decide) hfinal
  simp only [List.cons_append, List.append_assoc,
    List.nil_append, sequenceLength?, hintroducer, and_self, if_true,
    takeWhile_append_stop hparameters hstop, dropWhile_append_stop hparameters
    hstop, takeWhile_append_stop hintermediates hend,
    dropWhile_append_stop hintermediates hend, hfinal, List.length_cons,
    List.length_append, List.length_nil]
  congr 1
  omega

private theorem exists_sequence (h : sequenceLength? cs = some n) :
    ∃ seq rest, cs = seq ++ rest ∧ IsSequence seq ∧ seq.length = n := by
  rcases cs with _ | ⟨e, _ | ⟨c, cs⟩⟩
  · cases h
  · cases h
  · simp only [sequenceLength?, Option.ite_none_right_eq_some] at h
    obtain ⟨⟨rfl, hintroducer⟩, h⟩ := h
    have hparameters : ∀ d ∈ cs.takeWhile isParameter, isParameter d = true :=
      List.all_eq_true.1 List.all_takeWhile
    have hintermediates :
        ∀ d ∈ (cs.dropWhile isParameter).takeWhile isIntermediate,
        isIntermediate d = true := List.all_eq_true.1 List.all_takeWhile
    cases hdrop : (cs.dropWhile isParameter).dropWhile isIntermediate with
    | nil => simp [hdrop] at h
    | cons f rest =>
      simp only [hdrop, Option.ite_none_right_eq_some, Option.some.injEq] at h
      obtain ⟨hfinal, hn⟩ := h
      refine ⟨_, rest, ?_,
        .mk hintroducer hparameters hintermediates hfinal, ?_⟩
      · have hsplit := List.takeWhile_append_dropWhile (p := isIntermediate)
          (l := cs.dropWhile isParameter)
        rw [hdrop] at hsplit
        simp only [List.cons_append, List.append_assoc, List.nil_append, hsplit,
          List.takeWhile_append_dropWhile]
      · simp only [List.length_cons, List.length_append, List.length_nil]
        omega

private theorem sequenceLength?_eq_some_iff :
    sequenceLength? cs = some n ↔
      ∃ seq rest, cs = seq ++ rest ∧ IsSequence seq ∧ seq.length = n := by
  refine ⟨exists_sequence, ?_⟩
  rintro ⟨seq, rest, rfl, hseq, rfl⟩
  exact hseq.length_append

/-- What an escape character is behind is finished, or never will be. -/
private theorem sequenceLength?_append_escape (hne : cs ≠ []) :
    sequenceLength? (cs ++ escape :: rest) = sequenceLength? cs := by
  ext n
  rw [sequenceLength?_eq_some_iff, sequenceLength?_eq_some_iff]
  constructor
  · rintro ⟨seq, rest', happend, hseq, hn⟩
    rcases List.append_eq_append_iff.1 happend with
      ⟨more, rfl, hmore⟩ | ⟨more, rfl, -⟩
    · cases more with
      | nil => exact ⟨cs, [], by simp, by simpa using hseq, by simpa using hn⟩
      | cons c more =>
        cases hmore
        refine absurd ?_ hseq.escape_notMem_tail
        rw [List.tail_append_of_ne_nil hne]
        simp
    · exact ⟨seq, more, rfl, hseq, hn⟩
  · rintro ⟨seq, rest', rfl, hseq, hn⟩
    exact ⟨seq, rest' ++ escape :: rest, by simp, hseq, hn⟩

private theorem dropSequences_append_escape {skip : Nat}
    (hskip : skip ≤ cs.length) :
    dropSequences skip (cs ++ escape :: rest) =
      dropSequences skip cs ++ dropSequences 0 (escape :: rest) := by
  induction cs generalizing skip with
  | nil =>
    cases Nat.le_zero.1 hskip
    rfl
  | cons c cs ih =>
    cases skip with
    | succ skip => exact ih (Nat.le_of_succ_le_succ hskip)
    | zero =>
      have hlength : sequenceLength? (c :: (cs ++ escape :: rest)) =
          sequenceLength? (c :: cs) :=
        sequenceLength?_append_escape (List.cons_ne_nil c cs)
      rw [List.cons_append]
      rw [dropSequences, dropSequences, hlength]
      cases hn : sequenceLength? (c :: cs) with
      | none => exact congrArg (c :: ·) (ih (Nat.zero_le _))
      | some n =>
        obtain ⟨seq, rest', hcs, -, rfl⟩ := exists_sequence hn
        have hle := congrArg List.length hcs
        rw [List.length_cons, List.length_append] at hle
        exact ih (by omega)

theorem dropSequences_append_of_isSequence (h : IsSequence seq) :
    dropSequences 0 (seq ++ rest) = dropSequences 0 rest := by
  have hlength : sequenceLength? (seq ++ rest) = some seq.length :=
    h.length_append
  cases seq with
  | nil => cases h
  | cons c seq =>
    rw [List.cons_append] at hlength ⊢
    rw [dropSequences, hlength]
    dsimp only
    rw [List.length_cons, Nat.add_sub_cancel, dropSequences_eq_drop,
      List.drop_left]

theorem dropSequences_append_of_notMem (h : escape ∉ cs) :
    dropSequences 0 (cs ++ rest) = cs ++ dropSequences 0 rest := by
  induction cs with
  | nil => rfl
  | cons c cs ih =>
    rw [List.mem_cons, not_or] at h
    have hnone : sequenceLength? (c :: (cs ++ rest)) = none := by
      cases hcs : cs ++ rest with
      | nil => rfl
      | cons d ds => rw [sequenceLength?, if_neg fun hc => h.1 hc.1.symm]
    rw [List.cons_append, dropSequences, hnone, List.cons_append, ← ih h.2]

theorem isSequence_code (style : Style) : IsSequence style.code.toList := by
  have hwhole : sequenceLength? style.code.toList =
      some style.code.toList.length := by
    cases style <;> decide
  obtain ⟨seq, rest, hcode, hseq, hlength⟩ := exists_sequence hwhole
  rw [hcode, List.length_append] at hlength
  rw [hcode, List.eq_nil_of_length_eq_zero (by omega : rest.length = 0),
    List.append_nil]
  exact hseq

theorem dropSequences_codes_append (styles : List Style) :
    dropSequences 0 ((Voice.codes styles).toList ++ rest) =
      dropSequences 0 rest := by
  induction styles with
  | nil => rfl
  | cons style styles ih =>
    rw [Voice.codes,
      List.foldr_cons, ← Voice.codes, String.toList_append, List.append_assoc,
      dropSequences_append_of_isSequence (isSequence_code style), ih]

private theorem strip_append {a b : String}
    (hb : b.toList.head? = some escape) :
    strip (a ++ b) = strip a ++ strip b := by
  obtain ⟨rest, hrest⟩ := List.head?_eq_some_iff.1 hb
  rw [strip, strip, strip, String.toList_append, hrest,
    dropSequences_append_escape (Nat.zero_le _), String.ofList_append]

private theorem strip_codes_append (styles : List Style) (s : String) :
    strip (Voice.codes styles ++ s) = strip s := by
  rw [strip, String.toList_append, dropSequences_codes_append, strip]

private theorem strip_plain_append {a : String} (ha : escape ∉ a.toList)
    (b : String) :
    strip (a ++ b) = a ++ strip b := by
  rw [strip, String.toList_append, dropSequences_append_of_notMem ha,
    String.ofList_append, String.ofList_toList, strip]

private theorem strip_code (style : Style) : strip style.code = "" := by
  cases style <;> rfl

private theorem head?_code (style : Style) :
    style.code.toList.head? = some escape := by
  cases style <;> rfl

end Ansi

/-- Stripping undoes what a voice adds to a message, the label apart, whatever
control sequences the message has in it, complete or not.  The reason is that it
goes through any two texts one by one if the second begins with an escape
character, as the reset at the end of a message does. -/
theorem stripping_undoes_voices (voice : Voice) (message : String) :
    Ansi.strip (voice.render message) = voice.label ++ Ansi.strip message ∧
    voice.label =
      (if voice = .operator then "Operator: "
      else if voice = .system then "System: "
      else if voice = .mission then "Mission Control: "
      else "") ∧
    ∀ a b : String, b.toList.head? = some Ansi.escape →
      Ansi.strip (a ++ b) = Ansi.strip a ++ Ansi.strip b := by
  have hlabel : Ansi.escape ∉ voice.label.toList := by cases voice <;> decide
  refine ⟨?_, by cases voice <;> rfl, fun a b => Ansi.strip_append⟩
  calc Ansi.strip (voice.render message)
      = Ansi.strip (Voice.codes voice.lead ++ (voice.label ++
          (Voice.codes voice.tone ++ (message ++ Style.reset.code)))) := by
        simp only [Voice.render, String.append_assoc]
    _ = voice.label ++ Ansi.strip (message ++ Style.reset.code) := by
        rw [Ansi.strip_codes_append, Ansi.strip_plain_append hlabel,
          Ansi.strip_codes_append]
    _ = voice.label ++ Ansi.strip message := by
        rw [Ansi.strip_append (Ansi.head?_code .reset), Ansi.strip_code,
          String.append_empty]

theorem stripping_undoes_voices_at_broken_sequence :
    Ansi.strip (Voice.operator.render "All clear\x1b[3") =
      "Operator: All clear\x1b[3" ∧
    Ansi.strip (Voice.hint.render "\x1b[31mAll\x1b[m clear\x1b") =
      "All clear\x1b" ∧
    Ansi.strip ("go\x1b[1" ++ "\x1b[0mon") = "go\x1b[1" ++ "on" ∧
    Ansi.strip ("go\x1b[1" ++ "on") = "gon" := by
  refine ⟨?_, ?_, ?_, by decide⟩
  · exact (stripping_undoes_voices .operator "All clear\x1b[3").1.trans
      (by decide)
  · exact (stripping_undoes_voices .hint "\x1b[31mAll\x1b[m clear\x1b").1.trans
      (by decide)
  · exact ((stripping_undoes_voices .text "").2.2 "go\x1b[1" "\x1b[0mon"
        (by decide)).trans (by decide)

end Rover

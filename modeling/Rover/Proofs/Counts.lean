import Rover.Proofs.Endures

namespace Rover

open Text

namespace Text

theorem isBlank_of_isDigit {c : Char} (h : isDigit c = true) :
    isBlank c = false := by
  have hzeros : ∀ first ∈ digitZeros, ∀ k < 10,
      isBlankCode (first + k) = false := by
    decide
  simp only [isDigit, digitValue?, Option.isSome_map, List.find?_isSome,
    Bool.and_eq_true, decide_eq_true_eq] at h
  obtain ⟨first, hfirst, hle, hlt⟩ := h
  have hblank := hzeros first hfirst (c.toNat - first) (by omega)
  rwa [Nat.add_sub_cancel' hle] at hblank

theorem ne_of_isDigit {c : Char} (h : isDigit c = true) :
    c ≠ '-' ∧ c ≠ '+' ∧ c ≠ '_' := by
  refine ⟨?_, ?_, ?_⟩ <;> (rintro rfl; revert h; decide)

end Text

namespace Numeral

private theorem moreDigits_of_all {cs : List Char}
    (h : ∀ c ∈ cs, isDigit c = true) :
    ∃ ds, moreDigits cs = some (ds, []) ∧ ds.length = cs.length := by
  induction cs with
  | nil => exact ⟨[], rfl, rfl⟩
  | cons c cs ih =>
    obtain ⟨ds, hds, hlength⟩ := ih fun c hc => h c (List.mem_cons_of_mem _ hc)
    have hc := h c (List.mem_cons_self ..)
    obtain ⟨d, hd⟩ := Option.isSome_iff_exists.1 hc
    have hunderscore := (ne_of_isDigit hc).2.2
    refine ⟨d :: ds, ?_, by rw [List.length_cons, hlength, List.length_cons]⟩
    rw [moreDigits.eq_4 _ _ (by simp_all) (by simp_all)]
    simp [hd, hds]

theorem read_of_digits {c : Char} {cs : List Char} {ds : List Nat}
    (hc : isDigit c = true) (hdigits : digits (c :: cs) = some (ds, [])) :
    read (c :: cs) =
      if maxDigits < ds.length then .error (.tooLong ds.length)
        else .ok (ofDigits ds) := by
  have hdrop : (c :: cs).dropWhile isPadding = c :: cs := by
    simp [isPadding, isBlank_of_isDigit hc]
  have hsign : sign (c :: cs) = (false, c :: cs) := by
    have hne := ne_of_isDigit hc
    rw [sign.eq_3] <;> simp_all
  rw [read, hdrop, hsign]
  dsimp only
  rw [hdigits]
  simp

private theorem read_digits {cs : List Char} (hne : cs ≠ [])
    (h : ∀ c ∈ cs, isDigit c = true) :
    ∃ n : Nat, read cs =
      if maxDigits < cs.length then .error (.tooLong cs.length)
        else .ok (n : Int) := by
  cases cs with
  | nil => exact absurd rfl hne
  | cons c cs =>
    have hc := h c (List.mem_cons_self ..)
    obtain ⟨d, hd⟩ := Option.isSome_iff_exists.1 hc
    obtain ⟨ds, hds, hlength⟩ :=
      moreDigits_of_all fun c hc => h c (List.mem_cons_of_mem _ hc)
    have hdigits : digits (c :: cs) = some (d :: ds, []) := by
      simp [digits, hd, hds]
    refine ⟨ofDigits (d :: ds), ?_⟩
    rw [read_of_digits hc hdigits, List.length_cons, List.length_cons, hlength]

private theorem readOrFault_digits {cs : List Char}
    {cause : Fault} (hne : cs ≠ []) (h : ∀ c ∈ cs, isDigit c = true)
    (hread : readOrFault (String.ofList cs) = .error cause) :
    cause = .tooManyDigits cs.length ∧ maxDigits < cs.length := by
  obtain ⟨n, hn⟩ := read_digits hne h
  rw [readOrFault, String.toList_ofList, hn] at hread
  by_cases hlong : maxDigits < cs.length
  · rw [if_pos hlong] at hread
    cases hread
    exact ⟨rfl, hlong⟩
  · rw [if_neg hlong] at hread
    cases hread

end Numeral

def Fault.IsLength (cause : Fault) : Prop :=
  ∃ digits, cause = .tooManyDigits digits ∧ Numeral.maxDigits < digits

section

variable {cs : List Char} {line : LoopLine} (h : loopHere? cs = some line)
include h

private theorem isDigit_count :
    line.count ≠ [] ∧ ∀ c ∈ line.count, isDigit c = true := by
  obtain ⟨_, _, _, _, -, -, hcount, -, -, rfl⟩ := loopHere?_eq_some h
  exact ⟨hcount, List.all_eq_true.1 List.all_takeWhile⟩

theorem read_count :
    ∃ n : Nat, Numeral.read line.count =
      if Numeral.maxDigits < line.count.length then
        .error (.tooLong line.count.length)
      else .ok (n : Int) :=
  Numeral.read_digits (isDigit_count h).1 (isDigit_count h).2

private theorem count_of_loopHere? {cause : Fault}
    (hread : Numeral.readOrFault (String.ofList line.count) = .error cause) :
    cause.IsLength := by
  obtain ⟨hne, hdigits⟩ := isDigit_count h
  obtain ⟨rfl, hlong⟩ := Numeral.readOrFault_digits hne hdigits hread
  exact ⟨_, rfl, hlong⟩

end

namespace Instruction

theorem allCounted_map {faults : Fault → Prop}
    {items : List (List Char)} {f : List Char → Instruction}
    (h : ∀ item ∈ items, (f item).Counted faults) :
    AllCounted faults (items.map f) := by
  induction items with
  | nil => trivial
  | cons item items ih =>
    refine ⟨h item (List.mem_cons_self ..), ih fun item hitem => ?_⟩
    exact h item (List.mem_cons_of_mem _ hitem)

/-- Whatever is read, its counts are refused for their length only.  Both sides
of a branch and every item of a loop are shorter than the text, which carries
the recursion. -/
theorem counted_reader (cs : List Char) :
    (ofChars cs).Counted Fault.IsLength ∧
    (ofWord cs).Counted Fault.IsLength := by
  have ih : ∀ part : List Char,
      part.length < cs.length → (ofChars part).Counted Fault.IsLength ∧
      (ofWord part).Counted Fault.IsLength :=
    fun part _ => counted_reader part
  have hchars : (ofChars cs).Counted Fault.IsLength := by
    rw [ofChars_eq]
    split
    · next line hline =>
      obtain ⟨hyes, hno⟩ := length_branchLine? hline
      exact ⟨(ih line.yes hyes).2, (ih line.no hno).2⟩
    · split
      · next line hline =>
        refine ⟨fun cause hcause => count_of_loopHere? hline hcause,
          allCounted_map ?_⟩
        intro item hitem
        exact (ih item (length_loopLine? hline hitem)).1
      · split
        · trivial
        · trivial
  refine ⟨hchars, ?_⟩
  rw [ofWord_eq]
  split
  · split
    · next line hline =>
      refine ⟨fun cause hcause => count_of_loopHere? hline hcause,
        allCounted_map ?_⟩
      intro item hitem
      exact (ih item (length_loopHere? hline hitem)).1
    · trivial
  · exact hchars
termination_by cs.length

theorem counted_parse (text : String) : (parse text).Counted Fault.IsLength :=
  (counted_reader text.toList).1

end Instruction

end Rover

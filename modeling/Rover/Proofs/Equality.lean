import Mathlib.Data.List.DropRight
import Rover.Proofs.Branches

/-!
Equality in conditions.  The right operand of a comparison loses its quotes
before it is read, the left one only after it has been taken for text.  So
equality is symmetric, unless quotes hide a gauge, a direction or a number.
-/

namespace Rover

open Flight Text

namespace Text

def isQuote (c : Char) : Bool :=
  c == apostrophe || c == doubleQuote

private theorem eq_of_isQuote {c : Char} (h : isQuote c = true) :
    c = apostrophe ∨ c = doubleQuote := by
  simpa [isQuote] using h

section Quotes

variable {cs : List Char}

private theorem dropQuotes_eq (cs : List Char) :
    dropQuotes cs = (cs.dropWhile isQuote).rdropWhile isQuote := rfl

private theorem dropQuotes_of_forall (h : ∀ c ∈ cs, isQuote c = false) :
    dropQuotes cs = cs := by
  have hfirst : cs.dropWhile isQuote = cs :=
    List.dropWhile_eq_self_iff.2 fun _ => by simp [h _ (List.getElem_mem _)]
  rw [dropQuotes_eq, hfirst]
  exact List.rdropWhile_eq_self_iff.2 fun hne => by
    simp [h _ (List.getLast_mem hne)]

private theorem exists_quote (h : dropQuotes cs ≠ cs) :
    ∃ c ∈ cs, isQuote c = true := by
  by_contra hnone
  refine h (dropQuotes_of_forall fun c hc => ?_)
  rw [← Bool.not_eq_true]
  exact fun hquote => hnone ⟨c, hc, hquote⟩

private theorem dropQuotes_dropQuotes (cs : List Char) :
    dropQuotes (dropQuotes cs) = dropQuotes cs := by
  have hfirst : (dropQuotes cs).dropWhile isQuote = dropQuotes cs := by
    obtain ⟨rest, hrest⟩ :=
      List.rdropWhile_prefix isQuote (cs.dropWhile isQuote)
    rw [← dropQuotes_eq] at hrest
    have hopen := List.dropWhile_idempotent isQuote cs
    rw [← hrest] at hopen
    cases hdrop : dropQuotes cs with
    | nil => rfl
    | cons c inner =>
      rw [hdrop, List.cons_append, List.dropWhile_eq_self_iff] at hopen
      exact List.dropWhile_cons_of_neg (hopen (Nat.succ_pos _))
  rw [dropQuotes_eq (dropQuotes cs), hfirst, dropQuotes_eq cs]
  exact List.rdropWhile_idempotent isQuote _

end Quotes

end Text

namespace Numeral

def isPart (c : Char) : Bool :=
  isPadding c || isDigit c || c == '-' || c == '+' || c == '_'

private theorem isPart_of_digitValue? {c : Char} {d : Nat}
    (h : digitValue? c = some d) :
    isPart c = true := by
  have hdigit : isDigit c = true := by rw [isDigit, h, Option.isSome_some]
  simp [isPart, hdigit]

private theorem isPart_of_moreDigits
    {cs rest : List Char} {ds : List Nat} (h : moreDigits cs = some (ds, rest))
    (hrest : ∀ c ∈ rest, isPart c = true) :
    ∀ c ∈ cs, isPart c = true := by
  fun_induction moreDigits cs generalizing ds with
  | case1 => nofun
  | case2 => cases h
  | case3 c cs d hd ih =>
    obtain ⟨⟨more, _⟩, hmore, hpair⟩ := Option.map_eq_some_iff.1 h
    cases hpair
    have hdigits : ∀ c' ∈ c :: cs, isPart c' = true :=
      List.forall_mem_cons.2 ⟨isPart_of_digitValue? hd, ih hmore⟩
    exact List.forall_mem_cons.2 ⟨by decide, hdigits⟩
  | case4 => cases h
  | case5 c cs _ _ d hd ih =>
    obtain ⟨⟨more, _⟩, hmore, hpair⟩ := Option.map_eq_some_iff.1 h
    cases hpair
    exact List.forall_mem_cons.2 ⟨isPart_of_digitValue? hd, ih hmore⟩
  | case6 =>
    cases h
    exact hrest

private theorem isPart_of_digits {cs rest : List Char} {ds : List Nat}
    (h : digits cs = some (ds, rest)) (hrest : ∀ c ∈ rest, isPart c = true) :
    ∀ c ∈ cs, isPart c = true := by
  unfold digits at h
  split at h
  · cases h
  · next c cs =>
    split at h
    · next d hd =>
      obtain ⟨⟨more, _⟩, hmore, hpair⟩ := Option.map_eq_some_iff.1 h
      cases hpair
      exact List.forall_mem_cons.2 ⟨isPart_of_digitValue? hd,
        isPart_of_moreDigits hmore hrest⟩
    · cases h

private theorem isPart_of_sign {cs : List Char}
    (h : ∀ c ∈ (sign cs).2, isPart c = true) :
    ∀ c ∈ cs, isPart c = true := by
  unfold sign at h
  split at h
  · exact List.forall_mem_cons.2 ⟨by decide, h⟩
  · exact List.forall_mem_cons.2 ⟨by decide, h⟩
  · exact h

private theorem isPart_of_read {cs : List Char} {n : Int}
    (h : read cs = .ok n) :
    ∀ c ∈ cs, isPart c = true := by
  have hpadding : ∀ {l : List Char}, l.all isPadding = true → ∀ c ∈ l,
      isPart c = true := by
    intro l hl c hc
    simp [isPart, List.all_eq_true.1 hl c hc]
  have hbody : ∀ c ∈ (sign (cs.dropWhile isPadding)).2, isPart c = true := by
    unfold read at h
    dsimp only at h
    split at h
    · cases h
    · next ds rest hdigits =>
      split at h
      · cases h
      · split at h
        · next hrest => exact isPart_of_digits hdigits (hpadding hrest)
        · cases h
  rw [← List.takeWhile_append_dropWhile (p := isPadding) (l := cs)]
  intro c hc
  rcases List.mem_append.1 hc with hc | hc
  · exact hpadding List.all_takeWhile c hc
  · exact isPart_of_sign hbody c hc

private theorem not_isQuote_of_isPart {c : Char} (h : isPart c = true) :
    isQuote c = false := by
  rw [← Bool.not_eq_true]
  intro hquote
  rcases eq_of_isQuote hquote with rfl | rfl
  · exact absurd h (by decide)
  · exact absurd h (by decide)

end Numeral

namespace Operand

def isText : Operand → Bool
  | .text _ => true
  | _ => false

variable {cs : List Char}

theorem ofText_of_isText (h : (ofText cs).isText = true) :
    ofText cs = .text (String.ofList (dropQuotes cs)) := by
  unfold ofText at h ⊢
  split
  · next hgauge =>
    rw [hgauge] at h
    cases h
  · next hgauge hdirection =>
    rw [hgauge, hdirection] at h
    cases h
  · next hgauge hdirection hread =>
    rw [hgauge, hdirection, hread] at h
    cases h
  · rfl

theorem isText_of_quote {c : Char} (hc : c ∈ cs) (hquote : isQuote c = true) :
    (ofText cs).isText = true := by
  have hgauge : Gauge.ofText? cs = none := by
    have hname : ∀ g ∈ Gauge.all, g.name.toList.all (!isQuote ·) = true := by
      decide
    have hcapital : isQuote (Gauge.capital c) = true := by
      rcases eq_of_isQuote hquote with rfl | rfl
      · decide
      · decide
    refine List.find?_eq_none.2 fun g hg heq => ?_
    have hmem : Gauge.capital c ∈ g.name.toList := by
      rw [beq_iff_eq.1 heq]
      exact List.mem_map_of_mem hc
    have hplain := List.all_eq_true.1 (hname g hg) _ hmem
    rw [hcapital] at hplain
    cases hplain
  have hdirection : Direction.ofWord? (String.ofList cs) = none := by
    have hword : ∀ d ∈ Direction.all,
        d.word.toList.all (!isQuote ·) = true := by
      decide
    refine List.find?_eq_none.2 fun d hd heq => ?_
    have hmem : c ∈ d.word.toList := by
      rw [beq_iff_eq.1 heq, String.toList_ofList]
      exact hc
    have hplain := List.all_eq_true.1 (hword d hd) _ hmem
    rw [hquote] at hplain
    cases hplain
  unfold ofText
  rw [hgauge, hdirection]
  cases hread : Numeral.read cs with
  | ok n =>
    have hplain :=
      Numeral.not_isQuote_of_isPart (Numeral.isPart_of_read hread c hc)
    rw [hquote] at hplain
    cases hplain
  | error refusal => rfl

end Operand

/-- The operand stands in quotes, and without them it is no text. -/
structure Masked (cs : List Char) : Prop where
  quoted : dropQuotes cs ≠ cs
  hides : (Operand.ofText (dropQuotes cs)).isText = false

instance (cs : List Char) : Decidable (Masked cs) :=
  decidable_of_iff
    (dropQuotes cs ≠ cs ∧ (Operand.ofText (dropQuotes cs)).isText = false)
    ⟨fun h => ⟨h.1, h.2⟩, fun h => ⟨h.quoted, h.hides⟩⟩

theorem Operand.ofText_quoted {cs : List Char} (h : dropQuotes cs ≠ cs) :
    ofText cs = .text (String.ofList (dropQuotes cs)) := by
  obtain ⟨c, hc, hquote⟩ := exists_quote h
  exact ofText_of_isText (isText_of_quote hc hquote)

/-- Unless they mask it, quotes around an operand make no difference. -/
theorem Operand.ofText_dropQuotes {cs : List Char} (h : ¬Masked cs) :
    ofText (dropQuotes cs) = ofText cs := by
  by_cases hquoted : dropQuotes cs = cs
  · rw [hquoted]
  · have htext : (ofText (dropQuotes cs)).isText = true := by
      rw [← Bool.not_eq_false]
      exact fun hhides => h ⟨hquoted, hhides⟩
    rw [ofText_quoted hquoted, ofText_of_isText htext, dropQuotes_dropQuotes]

theorem Operand.value_error {m : Mission} {o : Operand} {cause : Fault}
    (h : o.value m = .error cause) :
    cause = if m.rover = none then .noPosition else .outOfRange := by
  cases o with
  | ahead d =>
    change m.lookAhead d = _ at h
    unfold Mission.lookAhead at h
    cases hrover : m.rover with
    | none =>
      rw [hrover] at h
      cases h
      rfl
    | some p =>
      rw [hrover] at h
      dsimp only at h
      split at h
      · split at h
        · cases h
        · cases h
          rfl
      · cases h
  | _ => cases h

def Comparison.isSymmetric : Comparison → Bool
  | .equal | .notEqual => true
  | _ => false

theorem Comparison.test?_comm {c : Comparison} (hc : c.isSymmetric = true)
    (v v' : Value) :
    c.test? v v' = c.test? v' v := by
  cases c with
  | equal => exact congrArg some (BEq.comm ..)
  | notEqual => exact congrArg (fun b => some (!b)) (BEq.comm ..)
  | _ => cases hc

namespace Condition

variable {m : Mission} {a b : Operand} {v v' : Value} {c : Comparison}

theorem decide_of_values (hc : c.isSymmetric = true) (ha : a.value m = .ok v)
    (hb : b.value m = .ok v') :
    decide m ⟨a, some c, b⟩ = .ok (c.test? v v') := by
  rw [decide, ha, hb]
  cases c with
  | equal => rfl
  | notEqual => rfl
  | _ => cases hc

/-- Read in either order, two operands are equal or not; and if they cannot be
read, it is for the same reason. -/
theorem decide_comm (hc : c.isSymmetric = true) (m : Mission) (a b : Operand) :
    decide m ⟨a, some c, b⟩ = decide m ⟨b, some c, a⟩ := by
  cases ha : a.value m with
  | error cause =>
    rw [decide, decide, ha]
    cases hb : b.value m with
    | error cause' => rw [Operand.value_error ha, Operand.value_error hb]
    | ok v' => rfl
  | ok v =>
    cases hb : b.value m with
    | error cause' =>
      rw [decide, decide, ha, hb]
      rfl
    | ok v' =>
      rw [decide_of_values hc ha hb, decide_of_values hc hb ha,
        Comparison.test?_comm hc]

end Condition

def branchParts (left : String) (comparison : Comparison)
    (right yes no : String) : List String :=
  ["if", left, comparison.symbol, right, "then", yes, "else", no]

section Branches

variable {w : World} {left right yes no : String} {v v' : Value}

private theorem performParts_branchParts (left right yes no : String)
    (c : Comparison) :
    performParts (branchParts left c right yes no) =
      (Instruction.branch (.ofTexts left.toList (some c) right.toList)
        (Instruction.ofWord yes.toList) (Instruction.ofWord no.toList)).run
          (startSector compose) := by
  rw [branchParts, performParts_eq, c.ofSymbol?_symbol]

private theorem performParts_equal
    (hleft : (Operand.ofText left.toList).value w.mission = .ok v) (hright :
      (Operand.ofText (dropQuotes right.toList)).value w.mission = .ok v') :
    performParts (branchParts left .equal right yes no) w =
      performSide (if v = v' then yes else no) w := by
  have hdecide : (Condition.ofTexts left.toList
        (Comparison.ofSymbol? Comparison.equal.symbol)
      right.toList).decide w.mission = .ok (some (v == v')) := by
    rw [Comparison.ofSymbol?_symbol]
    exact Condition.decide_of_values rfl hleft hright
  rw [branchParts, performParts_decided "if" "then" "else" hdecide]
  by_cases heq : v = v'
  · simp [heq]
  · simp [heq]

end Branches

/-- Equality is symmetric, and every operand that can be read equals itself,
unless quotes mask an operand.  On the left a masked operand is its text, on the
right it is what the text says.  So it equals itself, or its bare text on the
right, only if the two happen to be the same; but its bare text on the left
always equals it. -/
theorem only_masked_operands_break_symmetry (w : World)
    (left right yes no : String) :
    (¬Masked left.toList → ¬Masked right.toList → ∀ c : Comparison, c = .equal ∨
      c = .notEqual →
      performParts (branchParts left c right yes no) w =
        performParts (branchParts right c left yes no) w) ∧
    (¬Masked left.toList → ∀ v,
      (Operand.ofText left.toList).value w.mission = .ok v →
      performParts (branchParts left .equal left yes no) w =
        performSide yes w) ∧
    (Masked left.toList → ∀ bare v, bare.toList = dropQuotes left.toList →
      (Operand.ofText bare.toList).value w.mission = .ok v →
      performParts (branchParts left .equal left yes no) w =
        performSide (if v = .text bare then yes else no) w ∧
      performParts (branchParts left .equal bare yes no) w =
        performSide (if v = .text bare then yes else no) w ∧
      performParts (branchParts bare .equal left yes no) w =
        performSide yes w) := by
  refine ⟨fun hleft hright c hc => ?_,
    fun hleft v hv => ?_, fun hmasked bare v hbare hv => ?_⟩
  · have hsymmetric : c.isSymmetric = true := by
      rcases hc with rfl | rfl
      · rfl
      · rfl
    rw [performParts_branchParts, performParts_branchParts, Condition.ofTexts,
      Condition.ofTexts, Operand.ofText_dropQuotes hleft,
      Operand.ofText_dropQuotes hright, Instruction.run_branch,
      Instruction.run_branch, Condition.decide_comm hsymmetric]
  · have hright : (Operand.ofText (dropQuotes left.toList)).value w.mission =
        .ok v := by
      rw [Operand.ofText_dropQuotes hleft]
      exact hv
    rw [performParts_equal hv hright, if_pos rfl]
  · have htext : (Operand.ofText left.toList).value w.mission =
        .ok (.text bare) := by
      rw [Operand.ofText_quoted hmasked.quoted, ← hbare, String.ofList_toList]
      rfl
    have hinner : (Operand.ofText (dropQuotes left.toList)).value w.mission =
        .ok v := hbare ▸ hv
    have hstays : (Operand.ofText (dropQuotes bare.toList)).value w.mission =
        .ok v := by
      rw [hbare, dropQuotes_dropQuotes]
      exact hinner
    refine ⟨?_, ?_, ?_⟩
    · rw [performParts_equal htext hinner]
      simp only [eq_comm]
    · rw [performParts_equal htext hstays]
      simp only [eq_comm]
    · rw [performParts_equal hv hinner, if_pos rfl]

/-- What is seen ahead can stand on either side.  A number in apostrophes is not
what it was. -/
theorem quoted_number_differs_from_itself :
    performParts (branchParts "mve" .equal "'#'" "mvs" "mve") ledge =
      performParts (branchParts "'#'" .equal "mve" "mvs" "mve") ledge ∧
    performParts (branchParts "mve" .equal "mve" "mvs" "mve") ledge =
      performSide "mvs" ledge ∧
    performParts (branchParts "'5'" .equal "'5'" "mvs" "mve") ledge =
      performSide "mve" ledge ∧
    performParts (branchParts "'5'" .equal "5" "mvs" "mve") ledge =
      performSide "mve" ledge ∧
    performParts (branchParts "5" .equal "'5'" "mvs" "mve") ledge =
      performSide "mvs" ledge := by
  obtain ⟨hsymmetric, hself, -⟩ :=
    only_masked_operands_break_symmetry ledge "mve" "'#'" "mvs" "mve"
  obtain ⟨-, -, hmasked⟩ :=
    only_masked_operands_break_symmetry ledge "'5'" "5" "mvs" "mve"
  exact ⟨hsymmetric (by decide) (by decide) .equal (Or.inl rfl), hself
    (by decide) _ rfl, hmasked (by decide) "5" (.number 5) (by decide) rfl⟩

end Rover

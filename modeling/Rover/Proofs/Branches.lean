import Rover.Proofs.Foresight
import Rover.Proofs.Unrolling

namespace Rover

open Flight Text

def Condition.ofTexts (left : List Char) (comparison : Option Comparison)
    (right : List Char) :
    Condition :=
  ⟨Operand.ofText left, comparison, Operand.ofText (dropQuotes right)⟩

def performSide (word : String) : Flight Unit := do
  (Instruction.ofWord word.toList).run (startSector compose)
  millis 500

section Parts

variable {w : World} {left symbol right yes no : String}

theorem performParts_eq (first middle last : String) :
    performParts [first, left, symbol, right, middle, yes, last, no] =
      (Instruction.branch
          (.ofTexts left.toList (Comparison.ofSymbol? symbol) right.toList)
        (Instruction.ofWord yes.toList) (Instruction.ofWord no.toList)).run
          (startSector compose) :=
  rfl

theorem performParts_decided {outcome : Bool} (first middle last : String)
    (hdecide : (Condition.ofTexts left.toList (Comparison.ofSymbol? symbol)
      right.toList).decide w.mission = .ok (some outcome)) :
    performParts [first, left, symbol, right, middle, yes, last, no] w =
      performSide (if outcome then yes else no) w := by
  rw [performParts_eq, Instruction.run_branch, hdecide]
  cases outcome with
  | true => rfl
  | false => rfl

end Parts

section Loops

variable {text : String} {line : LoopLine} {n : Nat}

private theorem ofWord_loopLine (hline : loopHere? text.toList = some line) :
    Instruction.ofWord text.toList =
      .burst (Numeral.readOrFault (String.ofList line.count))
        ((line.items.map String.ofList).map Instruction.parse) := by
  obtain ⟨_, -, -, -, hfor, -⟩ := loopHere?_eq_some hline
  rw [Instruction.ofWord_eq, hfor, Option.isSome_some, if_pos rfl,
    hline, List.map_map]
  simp [Instruction.parse, Function.comp_def]

private theorem performSide_loopLine (hline : loopHere? text.toList = some line)
    (hcount : Numeral.read line.count = .ok (n : Int)) :
    performSide text = (do
      obey (List.replicate n (line.items.map String.ofList)).flatten
      millis 500) := by
  rw [performSide, ofWord_loopLine hline, Numeral.readOrFault,
    String.toList_ofList, hcount, Instruction.run, runEach_parse,
    obey, ← repeated_forM]
  simp only [bind_pure_unit]
  rfl

private theorem loopLine_refused (hline : loopHere? text.toList = some line)
    (hcount : Numeral.read line.count = .error (.tooLong line.count.length))
    (w : World) :
    performSide text w = .error (.fault (.tooManyDigits line.count.length)) w ∧
      perform text w =
        .error (.fault (.tooManyDigits line.count.length)) w := by
  have hfault : Numeral.readOrFault (String.ofList line.count) =
      .error (.tooManyDigits line.count.length) := by
    rw [Numeral.readOrFault, String.toList_ofList, hcount]
  constructor
  · rw [performSide, ofWord_loopLine hline, hfault, Instruction.run]
    rfl
  · rw [perform, Instruction.parse_loopLine hline, Instruction.ofLoop, hfault,
      Instruction.run]
    rfl

private theorem course_loopLine (hline : loopHere? text.toList = some line)
    (hfits : ∀ n : Nat, Numeral.read line.count = .ok (n : Int) →
      n * line.items.length < instructionSpace) {w : World}
    (hw : w.console.unlockIn = 0) :
    (performSide text).course w = (perform text).course w := by
  obtain ⟨n, hread⟩ := read_count hline
  split at hread
  · obtain ⟨hside, hperform⟩ := loopLine_refused hline hread w
    rw [course, course, hside, hperform]
  · let lines := (List.replicate n (line.items.map String.ofList)).flatten
    have hloop : SameCourse (perform text) (obey lines) := by
      rw [perform_loopLine hline hread (hfits n hread)]
      exact coupled_forM sameCourse_paused
    have hside : SameCourse (performSide text) (do obey lines; pure ()) := by
      rw [performSide_loopLine hline hread]
      exact coupled_seq (coupled_forM sameCourse_parse) fun _ =>
        sameCourse_pause _
    rw [bind_pure_unit] at hside
    exact (hside.course_eq hw).trans (hloop.course_eq hw).symm

end Loops

/-- A loop on the side of a branch and the same loop on a line of its own run
the same items, the one with a pause behind them all and the other with a pause
behind each; and both refuse a count with too many digits.  So they have the
same course, however an item ends. -/
theorem branch_runs_loop_like_line (w : World)
    (first left symbol right middle yes last no : String) (outcome : Bool)
    (line : LoopLine)
    (hdecide : (Condition.ofTexts left.toList (Comparison.ofSymbol? symbol)
      right.toList).decide w.mission = .ok (some outcome))
    (hline : loopHere? (if outcome then yes else no).toList = some line)
    (hfits : ∀ n : Nat, Numeral.read line.count = .ok (n : Int) →
      n * line.items.length < instructionSpace) :
    let parts := [first, left, symbol, right, middle, yes, last, no]
    let chosen := if outcome then yes else no
    (∀ n : Nat, Numeral.read line.count = .ok (n : Int) →
      let lines := (List.replicate n (line.items.map String.ofList)).flatten
      performParts parts w = (do obey lines; millis 500) w ∧
      perform chosen = (lines.forM fun item => do
        perform item
        millis 500)) ∧
    (Numeral.read line.count = .error (.tooLong line.count.length) →
      performParts parts w =
        .error (.fault (.tooManyDigits line.count.length)) w ∧
      perform chosen w = .error (.fault (.tooManyDigits line.count.length)) w) ∧
    (w.console.unlockIn = 0 →
      (performParts parts).course w = (perform chosen).course w) := by
  intro parts chosen
  have hparts : performParts parts w = performSide chosen w :=
    performParts_decided first middle last hdecide
  refine ⟨fun n hcount => ⟨?_, perform_loopLine hline hcount (hfits n hcount)⟩,
    fun hcount => ?_, fun hw => ?_⟩
  · rw [hparts, performSide_loopLine hline hcount]
  · rw [hparts]
    exact loopLine_refused hline hcount w
  · rw [← course_loopLine hline hfits hw, course, course, hparts]

theorem branch_runs_loop_like_line_off_the_map :
    performParts ["if", "BATTERY", "<", "'50'", "then", "for 3 >> , mve",
      "else", "obs"]
        chargingStation =
      (do obey ["", "mve", "", "mve", "", "mve"]; millis 500) chargingStation ∧
    (performParts ["if", "BATTERY", "<", "'50'", "then", "for 3 >> , mve",
        "else", "obs"]).course
        chargingStation = (perform "for 3 >> , mve").course chargingStation ∧
    (perform "for 3 >> , mve").halt? chargingStation = some .exit := by
  have hline : loopHere? "for 3 >> , mve".toList =
      some ⟨['3'], [[], "mve".toList]⟩ := rfl
  have hthree : ∀ n : Nat, Numeral.read ['3'] = .ok (n : Int) →
      n * 2 < instructionSpace := by
    intro n hn
    obtain rfl : 3 = n := Int.ofNat.inj (Except.ok.inj hn)
    decide
  obtain ⟨hruns, -, hcourse⟩ := branch_runs_loop_like_line chargingStation
    "if" "BATTERY" "<" "'50'" "then" "for 3 >> , mve" "else" "obs" true
    ⟨['3'], [[], "mve".toList]⟩ rfl hline hthree
  exact ⟨(hruns 3 rfl).1, hcourse rfl, by decide +kernel⟩

namespace Text

private theorem isWord_of_word? {cs word rest : List Char}
    (h : word? cs = some (word, rest)) :
    IsWord word := by
  unfold word? at h
  split at h
  · cases h
  · next hne =>
    cases h
    exact ⟨hne, List.all_eq_true.1 List.all_takeWhile⟩

end Text

section Words

variable {cs yes no : List Char} {line : BranchLine}

private theorem isWord_of_clause? {key side rest : List Char}
    (h : clause? key cs = some (side, rest)) :
    IsWord side := by
  obtain ⟨_, -, h⟩ := Option.bind_eq_some_iff.1 h
  obtain ⟨_, -, h⟩ := Option.bind_eq_some_iff.1 h
  obtain ⟨_, -, h⟩ := Option.bind_eq_some_iff.1 h
  exact isWord_of_word? h

private theorem isWord_of_thenElse? (h : thenElse? cs = some (yes, no)) :
    IsWord yes ∧ IsWord no := by
  rw [thenElse?_eq] at h
  obtain ⟨⟨_, rest⟩, hyes, h⟩ := Option.bind_eq_some_iff.1 h
  obtain ⟨⟨_, _⟩, hno, h⟩ := Option.bind_eq_some_iff.1 h
  cases h
  exact ⟨isWord_of_clause? hyes, isWord_of_clause? hno⟩

/-- Whichever way a line is taken for a branch, its sides are words. -/
private theorem isWord_of_branchLine? (h : branchLine? cs = some line) :
    IsWord line.yes ∧ IsWord line.no := by
  obtain ⟨_, -, h⟩ := Option.bind_eq_some_iff.1 h
  obtain ⟨_, -, h⟩ := Option.bind_eq_some_iff.1 h
  obtain ⟨⟨_, _⟩, -, h⟩ := List.exists_of_findSome?_eq_some h
  obtain ⟨_, -, h⟩ := List.exists_of_findSome?_eq_some h
  obtain ⟨_, -, h⟩ := Option.bind_eq_some_iff.1 h
  obtain ⟨⟨_, _⟩, -, h⟩ := List.exists_of_findSome?_eq_some h
  obtain ⟨⟨_, _⟩, hthen, h⟩ := Option.bind_eq_some_iff.1 h
  cases h
  exact isWord_of_thenElse? hthen

private theorem loopHere?_word (h : IsWord cs) : loopHere? cs = none := by
  rw [Option.eq_none_iff_forall_ne_some]
  intro line hline
  obtain ⟨rest, _, _, _, hfor, hblank, -⟩ := loopHere?_eq_some hline
  rw [keyword?_eq_some_iff.1 hfor] at h
  cases rest with
  | nil => cases hblank
  | cons c rest =>
    have hvisible : isBlank c = false := by
      simpa [isVisible] using h.visible c (by simp)
    simp [blanks?, hvisible] at hblank

end Words

namespace Instruction

/-- Every loop in the instruction pauses behind each of its items. -/
inductive Paced : Instruction → Prop
  | command (c : Command) : Paced (.command c)
  | branch (condition : Condition) {yes no : Instruction} (hyes : Paced yes)
    (hno : Paced no) : Paced (.branch condition yes no)
  | loop (count : Except Fault Int) {body : List Instruction}
    (hbody : ∀ i ∈ body, Paced i) : Paced (.loop count body)
  | skip : Paced .skip
  | unknown : Paced .unknown

theorem ofWord_for {cs : List Char} (hword : IsWord cs)
    (hfor : "for".toList <+: cs) :
    ofWord cs = .skip := by
  obtain ⟨rest, rfl⟩ := hfor
  have hkey : keyword? "for".toList ("for".toList ++ rest) = some rest :=
    keyword?_eq_some_iff.2 rfl
  rw [ofWord_eq, hkey, Option.isSome_some, if_pos rfl, loopHere?_word hword]

/-- What is read from a line is paced: a loop without pauses could only stand on
the side of a branch, and there the reader has words. -/
theorem paced_ofChars (cs : List Char) : (ofChars cs).Paced := by
  have ih : ∀ part : List Char, part.length < cs.length →
      (ofChars part).Paced :=
    fun part _ => paced_ofChars part
  have hside : ∀ side : List Char, IsWord side → side.length < cs.length →
      (ofWord side).Paced := by
    intro side hword hlength
    by_cases hfor : "for".toList <+: side
    · rw [ofWord_for hword hfor]
      exact .skip
    · have hkey : ¬(keyword? "for".toList side).isSome = true := by
        intro hsome
        obtain ⟨rest, hrest⟩ := Option.isSome_iff_exists.1 hsome
        exact hfor ⟨rest, (keyword?_eq_some_iff.1 hrest).symm⟩
      rw [ofWord_eq, if_neg hkey]
      exact ih side hlength
  rw [ofChars_eq]
  split
  · next line hline =>
    obtain ⟨hyes, hno⟩ := isWord_of_branchLine? hline
    obtain ⟨hyesLength, hnoLength⟩ := length_branchLine? hline
    exact .branch _ (hside line.yes hyes hyesLength)
      (hside line.no hno hnoLength)
  · split
    · next line hline =>
      refine .loop _ fun i hi => ?_
      obtain ⟨item, hitem, rfl⟩ := List.mem_map.1 hi
      exact ih item (length_loopLine? hline hitem)
    · split
      · exact .command _
      · exact .unknown
termination_by cs.length

end Instruction

/-- No line starts a loop from a branch.  However deep they lie, all loops of a
line are paced; and when a condition chooses a side that begins with `for`, the
line comes down to a pause. -/
theorem branch_on_line_starts_no_loop (text : String) :
    (Instruction.parse text).Paced ∧
    ∀ (line : BranchLine) (w : World) (outcome : Bool),
      branchLine? text.toList = some line →
      (Condition.ofTexts line.left (some line.comparison) line.right).decide
          w.mission = .ok (some outcome) →
      "for".toList <+: (if outcome then line.yes else line.no) →
      perform text w = millis 500 w ∧
      (w.console.unlockIn = 0 →
        perform text w = .ok () (w.note (.pause 500000))) := by
  refine ⟨Instruction.paced_ofChars text.toList,
    fun line w outcome hline hdecide hfor => ?_⟩
  have hparse : Instruction.parse text =
      .branch (.ofTexts line.left (some line.comparison) line.right)
        (Instruction.ofWord line.yes) (Instruction.ofWord line.no) := by
    rw [Instruction.parse, Instruction.ofChars_eq, hline]
    rfl
  have hchosen : (if outcome then Instruction.ofWord line.yes
        else Instruction.ofWord line.no) = .skip := by
    obtain ⟨hyes, hno⟩ := isWord_of_branchLine? hline
    cases outcome with
    | true => exact Instruction.ofWord_for hyes hfor
    | false => exact Instruction.ofWord_for hno hfor
  have hpause : perform text w = millis 500 w := by
    rw [perform, hparse, Instruction.run_branch, hdecide]
    dsimp only
    rw [hchosen, Instruction.run]
    rfl
  exact ⟨hpause, fun hunlock => hpause.trans (pause_eq hunlock _)⟩

theorem branch_on_line_starts_no_loop_when_squeezed :
    branchLine? "if mve == X then for,2>>mve else obs".toList =
      some ⟨"mve".toList, .equal, "X".toList, "for,2>>mve".toList,
        "obs".toList⟩ ∧
    perform "if mve == X then for,2>>mve else obs" chargingStation =
      .ok () (chargingStation.note (.pause 500000)) := by
  have hline : branchLine? "if mve == X then for,2>>mve else obs".toList = some
      ⟨"mve".toList, .equal, "X".toList, "for,2>>mve".toList, "obs".toList⟩ :=
    rfl
  obtain ⟨-, hpause⟩ :=
    branch_on_line_starts_no_loop "if mve == X then for,2>>mve else obs"
  exact ⟨hline,
    (hpause _ chargingStation true hline rfl ⟨",2>>mve".toList, rfl⟩).2 rfl⟩

end Rover

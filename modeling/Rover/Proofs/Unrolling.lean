import Rover.Proofs.Journey
import Rover.Proofs.LoopText
import Rover.Proofs.Timing

namespace Rover

open Flight Text

private theorem obey_append (lines more : List String) :
    obey (lines ++ more) = (do obey lines; obey more) :=
  List.forM_append

theorem runEach_parse (advance after : Flight Unit) (items : List String) :
    Instruction.runEach advance after (items.map Instruction.parse) =
      (items.forM fun item => do
        (Instruction.parse item).run advance
        after) := by
  induction items with
  | nil => rfl
  | cons item items ih =>
    rw [List.map_cons, Instruction.runEach, ih, List.forM, bind_assoc]

theorem repeated_forM {α : Type} (items : List α)
    (body : α → Flight PUnit) (n : Nat) :
    repeated (items.forM body) n =
      (List.replicate n items).flatten.forM body := by
  induction n with
  | zero => rfl
  | succ n ih =>
    rw [repeated, ih, List.replicate_succ, List.flatten_cons]
    exact List.forM_append.symm

theorem Instruction.parse_loopLine {text : String} {line : LoopLine}
    (hline : loopHere? text.toList = some line) :
    parse text =
      ofLoop line.count ((line.items.map String.ofList).map parse) := by
  obtain ⟨rest, -, -, -, hfor, -⟩ := loopHere?_eq_some hline
  rw [keyword?_eq_some_iff.1 hfor] at hline
  rw [parse, keyword?_eq_some_iff.1 hfor, ofChars_for, hline, List.map_map]
  simp [parse, Function.comp_def]

/-- A line that reads as a loop runs its items round after round, with a pause
behind each. -/
theorem perform_loopLine {text : String}
    {line : LoopLine} {n : Nat} (hline : loopHere? text.toList = some line)
    (hcount : Numeral.read line.count = .ok (n : Int))
    (hfits : n * line.items.length < instructionSpace) :
    perform text = ((List.replicate n
        (line.items.map String.ofList)).flatten.forM fun item => do
      perform item
      millis 500) := by
  have hrounds : (Except.ok (n : Int)).bind (loopRounds
        ((line.items.map String.ofList).map Instruction.parse).length) =
      .ok n := by
    rw [Except.bind, List.length_map, List.length_map,
      loopRounds_of_fits (items_pos_of_loopHere? hline) hfits]
  rw [perform, Instruction.parse_loopLine hline, Instruction.ofLoop,
    Numeral.readOrFault, String.toList_ofList, hcount, Instruction.run, hrounds,
    runEach_parse, ← repeated_forM]
  rfl

section

variable {n : Nat} {items : List String}

theorem perform_loopText
    (hne : items ≠ []) (hitems : ∀ item ∈ items, IsItem item)
    (hfits : n * items.length < instructionSpace) :
    perform (loopText n items) =
      ((List.replicate n items).flatten.forM fun item => do
      perform item
      millis 500) := by
  have hpos : 0 < items.length := List.length_pos_iff.2 hne
  have hn : n < instructionSpace :=
    Nat.lt_of_le_of_lt (Nat.le_mul_of_pos_right n hpos) hfits
  have hloop := perform_loopLine (loopHere?_loopText hitems hne)
    (Numeral.read_writeNat (isShowable_of_fits hn)) (by simpa using hfits)
  simpa [Function.comp_def] using hloop

theorem sameCourse_paused (line : String) :
    SameCourse (do perform line; millis 500) (perform line) := by
  have hsame : SameCourse (do perform line; millis 500)
      (do perform line; pure ()) :=
    coupled_seq (sameCourse_parse line) fun _ => sameCourse_pause _
  rwa [bind_pure_unit] at hsame

private theorem sameCourse_loopText
    (hne : items ≠ []) (hitems : ∀ item ∈ items, IsItem item)
    (hfits : n * items.length < instructionSpace) :
    SameCourse (perform (loopText n items))
      (obey (List.replicate n items).flatten) := by
  rw [perform_loopText hne hitems hfits]
  exact coupled_forM sameCourse_paused

end

private theorem sameCourse_nested {item : String} (hitem : IsItem item)
    {n : Nat} (hn : n < instructionSpace) (m : Nat) :
    SameCourse (obey (List.replicate m [loopText n [item]]).flatten)
      (obey (List.replicate (m * n) [item]).flatten) := by
  have hinner : SameCourse (perform (loopText n [item]))
      (obey (List.replicate n [item]).flatten) :=
    sameCourse_loopText (List.cons_ne_nil _ _) (by simpa using hitem)
      (by simpa using hn)
  induction m with
  | zero =>
    rw [Nat.zero_mul]
    exact coupled_pure rfl
  | succ m ih =>
    have hsplit : (List.replicate ((m + 1) * n) [item]).flatten =
        (List.replicate n [item]).flatten ++
        (List.replicate (m * n) [item]).flatten := by
      rw [Nat.succ_mul, Nat.add_comm, ← List.replicate_append_replicate,
        List.flatten_append]
    rw [hsplit, obey_append]
    exact coupled_seq hinner fun _ => ih

/-- A loop has the course of its items given one after the other, round after
round, and differs from them by a pause behind each item.  A loop of loops over
one item has the course of one loop, as long as the item is not empty; over the
empty item, the inner loop is not seen. -/
theorem loops_unroll :
    (∀ n items, items ≠ [] → (∀ item ∈ items, IsItem item) →
      n * items.length < instructionSpace →
      perform (loopText n items) =
        ((List.replicate n items).flatten.forM fun item => do
          perform item
          millis 500) ∧
      ∀ w : World, w.console.unlockIn = 0 →
        (perform (loopText n items)).course w =
          (obey (List.replicate n items).flatten).course w) ∧
    (∀ m n item, IsItem item → item ≠ "" →
      m < instructionSpace → n < instructionSpace →
      m * n < instructionSpace → ∀ w : World, w.console.unlockIn = 0 →
        (perform (loopText m [loopText n [item]])).course w =
          (perform (loopText (m * n) [item])).course w) ∧
    ∀ m n, m < instructionSpace →
      perform (loopText m [loopText n [""]]) = perform (loopText m [""]) := by
  refine ⟨fun n items hne hitems hfits =>
    ⟨perform_loopText hne hitems hfits, ?_⟩, ?_, ?_⟩
  · exact fun w hw =>
      SameCourse.course_eq (sameCourse_loopText hne hitems hfits) hw
  · intro m n item hitem hne hm hn hmn w hw
    have hone : ∀ k text, k < instructionSpace →
        IsItem text → SameCourse (perform (loopText k [text]))
        (obey (List.replicate k [text]).flatten) :=
      fun k text hk htext =>
        sameCourse_loopText (List.cons_ne_nil _ _) (by simpa using htext)
          (by simpa using hk)
    calc (perform (loopText m [loopText n [item]])).course w
      _ = (obey (List.replicate m [loopText n [item]]).flatten).course w :=
        (hone m _ hm (isItem_loopText hitem hne)).course_eq hw
      _ = (obey (List.replicate (m * n) [item]).flatten).course w :=
        (sameCourse_nested hitem hn m).course_eq hw
      _ = (perform (loopText (m * n) [item])).course w :=
        ((hone (m * n) item hmn hitem).course_eq hw).symm
  · intro m n hm
    rw [perform, Instruction.parse_loop_of_empty hm, perform]

def chargingStation : World where
  mission := {
    grid := [["[R]", "[X]"]]
    rover := some ⟨0, 0⟩
    block := "[@]"
    battery := 10 }
  atlas := ⟨[]⟩

theorem loops_unroll_at_chargingStation :
    (perform (loopText 2 ["mve", "", "if mve == # then mvs else mvw"])).course
      chargingStation =
      (obey ["mve", "", "if mve == # then mvs else mvw",
        "mve", "", "if mve == # then mvs else mvw"]).course chargingStation ∧
    (perform (loopText 2 [loopText 3 ["obs"]])).course chargingStation =
      (perform (loopText (2 * 3) ["obs"])).course chargingStation ∧
    perform (loopText 1 [loopText 2 [""]]) = perform (loopText 1 [""]) :=
  ⟨(loops_unroll.1 2 ["mve", "", "if mve == # then mvs else mvw"]
      (by decide) (by decide)
      (by decide)).2 chargingStation rfl,
    loops_unroll.2.1 2 3 "obs" (by decide) (by decide) (by decide)
      (by decide) (by decide)
      chargingStation rfl,
    loops_unroll.2.2 1 2 (by decide)⟩

/-- Nested over the empty item, loops are not one long loop: the battery is
charged once and not twice. -/
theorem empty_item_hides_the_inner_loop :
    IsItem "" ∧
    ((perform (loopText 1 [loopText 2 [""]])).final
        chargingStation).mission.battery = 35 ∧
    ((perform (loopText (1 * 2) [""])).final chargingStation).mission.battery =
      60 := by
  decide +kernel

end Rover

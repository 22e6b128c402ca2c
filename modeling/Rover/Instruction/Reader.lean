import Rover.Instruction.Basic
import Rover.Text.Scan

/-!
Reading instructions.  A line is a branch, a loop, a command, or unknown, tried
in this order. Both branches of an `if` and the items of a loop are shorter than
the line, so reading them ends.
-/

namespace Rover

open Text

structure BranchLine where
  left : List Char
  comparison : Comparison
  right : List Char
  yes : List Char
  no : List Char

structure LoopLine where
  count : List Char
  items : List (List Char)

/-- Reads `then A else B` behind at least one blank. -/
def thenElse? (cs : List Char) : Option (List Char × List Char) := do
  let cs ← blanks? cs
  let cs ← keyword? "then".toList cs
  let cs ← blanks? cs
  let (yes, cs) ← word? cs
  let cs ← blanks? cs
  let cs ← keyword? "else".toList cs
  let cs ← blanks? cs
  let (no, _) ← word? cs
  return (yes, no)

/-- The ways to read a right operand, each with the rest: as a word, else in
quotes. -/
def rightOperands (cs : List Char) : List (List Char × List Char) :=
  [word? cs, enclosed? apostrophe cs, enclosed? doubleQuote cs].filterMap id

/-- Reads what follows the left operand.  The first comparison and right operand
that leave a proper rest are taken. -/
def afterLeft? (left cs : List Char) : Option BranchLine :=
  Comparison.all.findSome? fun comparison => do
    let cs ← keyword? comparison.symbol.toList cs
    (rightOperands (skipBlanks cs)).findSome? fun (right, cs) => do
      let (yes, no) ← thenElse? cs
      return { left, comparison, right, yes, no }

/-- The places at which a left operand may end, with the rest: after the whole
word and the blanks behind it, else inside the word, the longest beginning
first. -/
def leftEnds (cs : List Char) : List (Nat × List Char) :=
  match (cs.takeWhile isVisible).length with
  | 0 => []
  | n + 1 =>
    (n + 1, skipBlanks (cs.drop (n + 1))) ::
      (List.range n).reverse.map fun k => (k + 1, cs.drop (k + 1))

def branchLine? (cs : List Char) : Option BranchLine := do
  let cs ← keyword? "if".toList (skipBlanks cs)
  let cs ← blanks? cs
  (leftEnds cs).findSome? fun (n, rest) => afterLeft? (cs.take n) rest

/-- The body of a loop, up to the end of its line.  A body of blanks counts as
empty, unless there are only line ends. -/
def loopBody? (cs : List Char) : Option (List Char) :=
  match skipBlanks cs with
  | [] => if cs.all (· == '\n') then none else some []
  | body => some (body.takeWhile (· != '\n'))

def loopHere? (cs : List Char) : Option LoopLine := do
  let cs ← keyword? "for".toList cs
  let cs ← blanks? cs
  let count := cs.takeWhile isDigit
  guard (count ≠ [])
  let cs ← keyword? ">>".toList (skipBlanks (cs.dropWhile isDigit))
  let body ← loopBody? cs
  return { count, items := (splitCommas body).map trim }

def loopLine? (cs : List Char) : Option LoopLine :=
  loopHere? (skipBlanks cs)

theorem length_thenElse? {cs yes no : List Char}
    (h : thenElse? cs = some (yes, no)) :
    yes.length < cs.length ∧ no.length < cs.length := by
  simp only [thenElse?, Option.bind_eq_bind, Option.bind_eq_some_iff,
    Option.pure_def, Option.some.injEq, Prod.exists, Prod.mk.injEq] at h
  obtain ⟨a, ha, b, hb, c, hc, y, d, hd, e, he, f, hf, g, hg, n, r, hn,
    rfl, rfl⟩ := h
  have := length_blanks? ha
  have := length_keyword? hb
  have := length_blanks? hc
  have := length_word? hd
  have := length_blanks? he
  have := length_keyword? hf
  have := length_blanks? hg
  have := length_word? hn
  omega

theorem length_of_mem_rightOperands {cs right rest : List Char}
    (h : (right, rest) ∈ rightOperands cs) : rest.length ≤ cs.length := by
  simp only [rightOperands, List.mem_filterMap, List.mem_cons, List.not_mem_nil,
    or_false, id, exists_eq_right] at h
  rcases h with h | h | h
  · have := length_word? h.symm
    omega
  · exact length_enclosed? h.symm
  · exact length_enclosed? h.symm

theorem length_afterLeft? {left cs : List Char} {line : BranchLine}
    (h : afterLeft? left cs = some line) :
    line.yes.length < cs.length ∧ line.no.length < cs.length := by
  obtain ⟨comparison, -, h⟩ := List.exists_of_findSome?_eq_some h
  obtain ⟨rest, hkey, h⟩ := Option.bind_eq_some_iff.1 h
  obtain ⟨⟨right, after⟩, hmem, h⟩ := List.exists_of_findSome?_eq_some h
  obtain ⟨⟨yes, no⟩, hthen, h⟩ := Option.bind_eq_some_iff.1 h
  cases h
  have := length_keyword? hkey
  have := length_skipBlanks_le rest
  have := length_of_mem_rightOperands hmem
  have := length_thenElse? hthen
  dsimp only
  omega

theorem length_of_mem_leftEnds {cs rest : List Char} {n : Nat}
    (h : (n, rest) ∈ leftEnds cs) :
    rest.length ≤ cs.length := by
  simp only [leftEnds] at h
  split at h
  · simp at h
  · next n _ =>
    rcases List.mem_cons.1 h with h | h
    · cases h
      have := length_skipBlanks_le (cs.drop (n + 1))
      have := List.length_drop (i := n + 1) (l := cs)
      omega
    · simp only [List.mem_map, Prod.mk.injEq] at h
      obtain ⟨k, -, -, rfl⟩ := h
      simp

theorem length_branchLine? {cs : List Char} {line : BranchLine}
    (h : branchLine? cs = some line) :
    line.yes.length < cs.length ∧ line.no.length < cs.length := by
  obtain ⟨a, hkey, h⟩ := Option.bind_eq_some_iff.1 h
  obtain ⟨b, hblank, h⟩ := Option.bind_eq_some_iff.1 h
  obtain ⟨⟨n, rest⟩, hmem, h⟩ := List.exists_of_findSome?_eq_some h
  have := length_skipBlanks_le cs
  have := length_keyword? hkey
  have := length_blanks? hblank
  have := length_of_mem_leftEnds hmem
  have := length_afterLeft? h
  omega

theorem length_loopBody? {cs body : List Char} (h : loopBody? cs = some body) :
    body.length ≤ cs.length := by
  simp only [loopBody?] at h
  split at h
  · split at h
    · simp at h
    · cases h
      simp
  · cases h
    exact Nat.le_trans (List.takeWhile_sublist _).length_le
      (length_skipBlanks_le cs)

theorem loopHere?_eq_some {cs : List Char} {line : LoopLine}
    (h : loopHere? cs = some line) :
    ∃ a b c body, keyword? "for".toList cs = some a ∧ blanks? a = some b ∧
      b.takeWhile isDigit ≠ [] ∧
      keyword? ">>".toList (skipBlanks (b.dropWhile isDigit)) = some c ∧
      loopBody? c = some body ∧
      line =
        { count := b.takeWhile isDigit,
          items := (splitCommas body).map trim } := by
  unfold loopHere? at h
  obtain ⟨a, hkey, h⟩ := Option.bind_eq_some_iff.1 h
  obtain ⟨b, hblank, h⟩ := Option.bind_eq_some_iff.1 h
  obtain ⟨_, hguard, h⟩ := Option.bind_eq_some_iff.1 h
  obtain ⟨c, harrow, h⟩ := Option.bind_eq_some_iff.1 h
  obtain ⟨body, hbody, h⟩ := Option.bind_eq_some_iff.1 h
  cases h
  have hcount : b.takeWhile isDigit ≠ [] := by
    intro hnil
    change (if b.takeWhile isDigit ≠ [] then some () else none) = _ at hguard
    rw [if_neg (fun h => h hnil)] at hguard
    cases hguard
  exact ⟨a, b, c, body, hkey, hblank, hcount, harrow, hbody, rfl⟩

theorem length_loopHere? {cs : List Char}
    {line : LoopLine} (h : loopHere? cs = some line) {item : List Char}
    (hitem : item ∈ line.items) : item.length < cs.length := by
  obtain ⟨a, b, c, body, hkey, hblank, -, harrow, hbody, rfl⟩ :=
    loopHere?_eq_some h
  obtain ⟨piece, hpiece, rfl⟩ := List.mem_map.1 hitem
  have := length_keyword? hkey
  have := length_blanks? hblank
  have := length_dropWhile_le isDigit b
  have := length_skipBlanks_le (b.dropWhile isDigit)
  have := length_keyword? harrow
  have := length_loopBody? hbody
  have := length_of_mem_splitCommas hpiece
  have := length_trim_le piece
  omega

theorem length_loopLine? {cs : List Char}
    {line : LoopLine} (h : loopLine? cs = some line) {item : List Char}
    (hitem : item ∈ line.items) : item.length < cs.length :=
  Nat.lt_of_lt_of_le (length_loopHere? h hitem) (length_skipBlanks_le cs)

namespace Instruction

/-- A branch on the words of its condition.  Quotes around the right operand do
not count. -/
def ofCondition (left : List Char) (comparison : Option Comparison)
    (right : List Char) (yes no : Instruction) : Instruction :=
  .branch ⟨Operand.ofText left, comparison,
    Operand.ofText (dropQuotes right)⟩ yes no

def ofLoop (count : List Char) (body : List Instruction) : Instruction :=
  .loop (Numeral.readOrFault (String.ofList count)) body

mutual

def ofChars (cs : List Char) : Instruction :=
  match _hbranch : branchLine? cs with
  | some line =>
    ofCondition line.left (some line.comparison) line.right (ofWord line.yes)
      (ofWord line.no)
  | none =>
    match _hloop : loopLine? cs with
    | some line =>
      ofLoop line.count (line.items.attach.map fun ⟨item, _⟩ => ofChars item)
    | none =>
      match Command.ofWord? (String.ofList cs) with
      | some c => .command c
      | none => .unknown
termination_by 2 * cs.length
decreasing_by
  · have := length_branchLine? _hbranch
    omega
  · have := length_branchLine? _hbranch
    omega
  · have := length_loopLine? _hloop ‹_›
    omega

/-- Reads one side of a branch.  What starts with `for` is a loop or nothing at
all. -/
def ofWord (cs : List Char) : Instruction :=
  if (keyword? "for".toList cs).isSome then
    match _hloop : loopHere? cs with
    | some line =>
      .burst (Numeral.readOrFault (String.ofList line.count))
        (line.items.attach.map fun ⟨item, _⟩ => ofChars item)
    | none => .skip
  else ofChars cs
termination_by 2 * cs.length + 1
decreasing_by
  · have := length_loopHere? _hloop ‹_›
    omega
  · omega

end

theorem ofChars_eq (cs : List Char) :
    ofChars cs =
      match branchLine? cs with
      | some line =>
        ofCondition line.left (some line.comparison) line.right
          (ofWord line.yes) (ofWord line.no)
      | none =>
        match loopLine? cs with
        | some line => ofLoop line.count (line.items.map ofChars)
        | none =>
          match Command.ofWord? (String.ofList cs) with
          | some c => .command c
          | none => .unknown := by
  rw [ofChars]
  split
  · simp [*]
  · split <;> simp [*]

theorem ofWord_eq (cs : List Char) :
    ofWord cs =
      if (keyword? "for".toList cs).isSome then
        match loopHere? cs with
        | some line =>
          .burst (Numeral.readOrFault (String.ofList line.count))
            (line.items.map ofChars)
        | none => .skip
      else ofChars cs := by
  rw [ofWord]
  split
  · split <;> simp [*]
  · rfl

def parse (text : String) : Instruction :=
  ofChars text.toList

theorem parse_word (c : Command) : parse c.word = .command c := by
  rw [parse, ofChars_eq]
  cases c with
  | move direction => cases direction <;> rfl
  | _ => rfl

/-- A branch from the eight parts of its line. -/
def ofBranchParts : List String → Except Fault Instruction
  | [_, left, symbol, right, _, yes, _, no] =>
    .ok (ofCondition left.toList (Comparison.ofSymbol? symbol) right.toList
        (ofWord yes.toList)
      (ofWord no.toList))
  | parts =>
    if parts.length < 8 then .error (.tooFewParts parts.length)
      else .error .tooManyParts

def ofLoopParts : List String → Except Fault Instruction
  | _ :: count :: rest => .ok (ofLoop count.toList ((rest.drop 1).map parse))
  | _ => .error .outOfRange

end Instruction

end Rover

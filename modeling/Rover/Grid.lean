import Rover.Ansi
import Rover.Fault

/-!
The ground: cells in rows, positions on them and the four directions.  Rows may
differ in length. A coordinate below zero counts back from the end, as far as
there are cells; the perimeter, on the other hand, is the rectangle given by the
number of rows and the length of the first.
-/

namespace Rover

inductive Direction
  | north | east | south | west
  deriving DecidableEq

structure Position where
  row : Int
  col : Int
  deriving DecidableEq

def Position.step (p : Position) : Direction → Position
  | .north => ⟨p.row - 1, p.col⟩
  | .east => ⟨p.row, p.col + 1⟩
  | .south => ⟨p.row + 1, p.col⟩
  | .west => ⟨p.row, p.col - 1⟩

inductive Terrain
  | path | base | sample | charger | uncharted | obstacle | rover |
    beacon | other
  deriving DecidableEq

abbrev Cell := String

namespace Cell

def path : Cell := "[X]"

def base : Cell := "[B]"

def sample : Cell := "[S]"

def rover : Cell := "[R]"

def terrain : Cell → Terrain
  | "[X]" => .path
  | "[B]" => .base
  | "[S]" => .sample
  | "[@]" => .charger
  | "[?]" => .uncharted
  | "[#]" => .obstacle
  | "[R]" => .rover
  | "[*]" => .beacon
  | _ => .other

/-- The mark between the brackets of a three-character cell; any other cell is
its own mark. -/
def mark (c : Cell) : String :=
  match c.toList with
  | ['[', x, ']'] => String.ofList [x]
  | _ => c

end Cell

abbrev Grid := List (List Cell)

def addressSpace : Nat := 0x8000000000000000

/-- Whether a number can count places in memory, from the front or back from the
end. -/
def isAddress (i : Int) : Bool :=
  -(addressSpace : Int) ≤ i && i < addressSpace

def slot? (size : Nat) (i : Int) : Option Nat :=
  let j := if i < 0 then i + size else i
  if 0 ≤ j ∧ j < size then some j.toNat else none

namespace Grid

def width (g : Grid) : Nat :=
  (g.head?.getD []).length

def spans (g : Grid) (p : Position) : Bool :=
  0 ≤ p.row && p.row < g.length && 0 ≤ p.col && p.col < g.width

def row? (g : Grid) (i : Int) : Option (List Cell) :=
  (slot? g.length i).bind (g[·]?)

def cell? (g : Grid) (p : Position) : Option Cell :=
  (g.row? p.row).bind fun row => (slot? row.length p.col).bind (row[·]?)

def missing (cause : Fault) (i : Int) : Fault :=
  if isAddress i then cause else .notAnAddress

def put (g : Grid) (p : Position) (c : Cell) : Except Fault Grid :=
  match slot? g.length p.row with
  | none => .error (missing .outOfRange p.row)
  | some i =>
    match slot? (g[i]?.getD []).length p.col with
    | none => .error (missing .notAssignable p.col)
    | some j => .ok (g.modify i (·.set j c))

def lastIndex? (c : Cell) : List Cell → Option Nat
  | [] => none
  | x :: xs =>
    match lastIndex? c xs with
    | some j => some (j + 1)
    | none => if x = c then some 0 else none

/-- The last place, row by row, that holds a cell. -/
def locate? (c : Cell) : Grid → Option Position
  | [] => none
  | row :: rows =>
    match locate? c rows with
    | some p => some ⟨p.row + 1, p.col⟩
    | none => (lastIndex? c row).map fun j => ⟨0, j⟩

end Grid

end Rover

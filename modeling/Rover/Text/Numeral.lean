import Rover.Text.Blank
import Rover.Text.Digit

/-!
Whole numbers as text.  Reading takes one sign and digits of any script, with
single underscores between digits and white space around.  Writing is plain
decimal.  A number of more than 4300 digits is neither read nor shown.
-/

namespace Rover.Numeral

open Rover.Text

inductive Refusal
  | malformed
  | tooLong (digits : Nat)
  deriving DecidableEq

def maxDigits : Nat := 4300

/-- White space around a number.  The information separators are not part of
it. -/
def isPadding (c : Char) : Bool :=
  isBlank c && !(0x1c ≤ c.toNat && c.toNat ≤ 0x1f)

def sign : List Char → Bool × List Char
  | '-' :: cs => (true, cs)
  | '+' :: cs => (false, cs)
  | cs => (false, cs)

/-- The digits that follow a digit, and the rest; `none` if an underscore has no
digit behind it. -/
def moreDigits : List Char → Option (List Nat × List Char)
  | [] => some ([], [])
  | '_' :: [] => none
  | '_' :: c :: cs =>
    match digitValue? c with
    | some d => (moreDigits cs).map fun (ds, rest) => (d :: ds, rest)
    | none => none
  | c :: cs =>
    match digitValue? c with
    | some d => (moreDigits cs).map fun (ds, rest) => (d :: ds, rest)
    | none => some ([], c :: cs)

def digits : List Char → Option (List Nat × List Char)
  | [] => none
  | c :: cs =>
    match digitValue? c with
    | some d => (moreDigits cs).map fun (ds, rest) => (d :: ds, rest)
    | none => none

def ofDigits (ds : List Nat) : Nat :=
  ds.foldl (fun n d => 10 * n + d) 0

/-- Reads a number.  The digit limit is tested before what follows the
digits. -/
def read (cs : List Char) : Except Refusal Int :=
  let (negative, body) := sign (cs.dropWhile isPadding)
  match digits body with
  | none => .error .malformed
  | some (ds, rest) =>
    if maxDigits < ds.length then .error (.tooLong ds.length)
    else if rest.all isPadding then
      .ok (if negative then -(ofDigits ds : Int) else (ofDigits ds : Int))
    else .error .malformed

def digitChar (d : Nat) : Char :=
  Char.ofNat (0x30 + d)

def writeNat (n : Nat) : List Char :=
  if n < 10 then [digitChar n] else writeNat (n / 10) ++ [digitChar (n % 10)]
termination_by n

def write : Int → String
  | .ofNat n => String.ofList (writeNat n)
  | .negSucc n => String.ofList ('-' :: writeNat (n + 1))

def ceiling : Nat :=
  Nat.pow 10 maxDigits

def isShowable (n : Int) : Bool :=
  n.natAbs < ceiling

theorem isShowable_of_lt {n : Int}
    (h : n.natAbs < 0x1000000000000000000000000000000000000000000000000) :
    isShowable n = true := by
  have hsmall : 0x1000000000000000000000000000000000000000000000000 ≤
      Nat.pow 10 60 := by decide
  have hlarge : ∀ digits, 60 ≤ digits → n.natAbs < Nat.pow 10 digits :=
    fun digits hdigits =>
    Nat.lt_of_lt_of_le h
      (Nat.le_trans hsmall (Nat.pow_le_pow_right (by decide) hdigits))
  unfold isShowable ceiling
  exact decide_eq_true (hlarge maxDigits (by decide))

end Rover.Numeral

/-!
Terminal styles and the control sequences that switch them.  `Ansi.strip`
removes every complete control sequence from a text and leaves all else,
unfinished sequences included.
-/

namespace Rover

inductive Style
  | red | green | yellow | blue | magenta | cyan | white
  | gray | lightYellow | lightBlue | lightCyan | lightWhite
  | bright | dim | normal | reset
  deriving DecidableEq

def Style.code : Style → String
  | .red => "\x1b[31m"
  | .green => "\x1b[32m"
  | .yellow => "\x1b[33m"
  | .blue => "\x1b[34m"
  | .magenta => "\x1b[35m"
  | .cyan => "\x1b[36m"
  | .white => "\x1b[37m"
  | .gray => "\x1b[90m"
  | .lightYellow => "\x1b[93m"
  | .lightBlue => "\x1b[94m"
  | .lightCyan => "\x1b[96m"
  | .lightWhite => "\x1b[97m"
  | .bright => "\x1b[1m"
  | .dim => "\x1b[2m"
  | .normal => "\x1b[22m"
  | .reset => "\x1b[0m"

namespace Ansi

def escape : Char := '\x1b'

def between (low high : Nat) (c : Char) : Bool :=
  low ≤ c.toNat && c.toNat ≤ high

def isIntroducer : Char → Bool := between 0x40 0x5f

def isParameter : Char → Bool := between 0x30 0x3f

def isIntermediate : Char → Bool := between 0x20 0x2f

def isFinal : Char → Bool := between 0x40 0x7e

/-- The length of the control sequence at the head of a text, if one stands
there: the escape character, an introducer, parameters, intermediates and one
final character.  The classes of the last three are disjoint, so each run is as
long as it can be. -/
def sequenceLength? : List Char → Option Nat
  | e :: c :: cs =>
    if e = escape ∧ isIntroducer c then
      let rest := cs.dropWhile isParameter
      match rest.dropWhile isIntermediate with
      | f :: _ =>
        if isFinal f then
          some (3 + (cs.takeWhile isParameter).length +
              (rest.takeWhile isIntermediate).length)
        else none
      | [] => none
    else none
  | _ => none

/-- Drops `skip` characters, then every control sequence. -/
def dropSequences : (skip : Nat) → List Char → List Char
  | _, [] => []
  | skip + 1, _ :: cs => dropSequences skip cs
  | 0, c :: cs =>
    match sequenceLength? (c :: cs) with
    | some n => dropSequences (n - 1) cs
    | none => c :: dropSequences 0 cs

def strip (s : String) : String :=
  String.ofList (dropSequences 0 s.toList)

theorem dropSequences_eq_drop (skip : Nat) (cs : List Char) :
    dropSequences skip cs = dropSequences 0 (cs.drop skip) := by
  induction cs generalizing skip with
  | nil => simp [dropSequences]
  | cons c cs ih =>
    cases skip with
    | zero => rfl
    | succ skip => exact ih skip

end Ansi

end Rover

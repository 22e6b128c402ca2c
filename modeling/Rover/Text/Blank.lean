namespace Rover.Text

def isBlankCode (n : Nat) : Bool :=
  (0x09 ≤ n && n ≤ 0x0d) || (0x1c ≤ n && n ≤ 0x20) || n == 0x85 || n ==
    0xa0 || n == 0x1680 ||
    (0x2000 ≤ n && n ≤ 0x200a) || n == 0x2028 || n == 0x2029 || n ==
      0x202f || n == 0x205f ||
    n == 0x3000

def isBlank (c : Char) : Bool :=
  isBlankCode c.toNat

def skipBlanks (cs : List Char) : List Char :=
  cs.dropWhile isBlank

def skipBlanksEnd (cs : List Char) : List Char :=
  (skipBlanks cs.reverse).reverse

def trim (cs : List Char) : List Char :=
  skipBlanksEnd (skipBlanks cs)

theorem length_dropWhile_le (p : Char → Bool) (cs : List Char) :
    (cs.dropWhile p).length ≤ cs.length :=
  (List.dropWhile_sublist p).length_le

theorem length_skipBlanks_le (cs : List Char) :
    (skipBlanks cs).length ≤ cs.length :=
  length_dropWhile_le isBlank cs

theorem length_skipBlanksEnd_le (cs : List Char) :
    (skipBlanksEnd cs).length ≤ cs.length := by
  simpa [skipBlanksEnd] using length_skipBlanks_le cs.reverse

theorem length_trim_le (cs : List Char) : (trim cs).length ≤ cs.length :=
  Nat.le_trans (length_skipBlanksEnd_le _) (length_skipBlanks_le cs)

end Rover.Text

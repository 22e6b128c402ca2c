import Rover.Text.Printable

namespace Rover.Text

def apostrophe : Char := '\x27'

def doubleQuote : Char := '\x22'

def backslash : Char := '\x5c'

def quoteFor (cs : List Char) : Char :=
  if cs.contains apostrophe && !cs.contains doubleQuote then doubleQuote
    else apostrophe

def hexadecimal : (width : Nat) → (n : Nat) → List Char
  | 0, _ => []
  | width + 1, n => hexadecimal width (n / 16) ++ [Nat.digitChar (n % 16)]

def escapeFor (quote c : Char) : List Char :=
  if c = quote ∨ c = backslash then [backslash, c]
  else if c = '\t' then [backslash, 't']
  else if c = '\n' then [backslash, 'n']
  else if c = '\r' then [backslash, 'r']
  else if isPrintable c then [c]
  else if c.toNat < 0x100 then backslash :: 'x' :: hexadecimal 2 c.toNat
  else if c.toNat < 0x10000 then backslash :: 'u' :: hexadecimal 4 c.toNat
  else backslash :: 'U' :: hexadecimal 8 c.toNat

def quoted (cs : List Char) : List Char :=
  let quote := quoteFor cs
  quote :: cs.flatMap (escapeFor quote) ++ [quote]

def dropQuotes (cs : List Char) : List Char :=
  let isQuote := fun c => c == apostrophe || c == doubleQuote
  ((cs.dropWhile isQuote).reverse.dropWhile isQuote).reverse

end Rover.Text

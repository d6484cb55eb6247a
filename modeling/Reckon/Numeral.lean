import Reckon.Digits
import Reckon.Text.Blank
import Reckon.Text.Digit

/-! The shapes of written numbers. Digits of any script and blanks of any kind are read as their
ASCII counterparts, blanks around a numeral are dropped, and single underscores may group
digits. -/
namespace Reckon.Numeral
open Digits (signed)

def plain (c : Char) : Char :=
  if c.toNat < 127 then c
  else if Text.isBlank c then ' '
  else ((Text.digitValue? c).map Nat.digitChar).getD c

/-- The blanks that may surround a numeral once it is in ASCII; the separators `\x1c` to `\x1f`
are not among them. -/
def isGap (c : Char) : Bool := c = ' ' || 9 ≤ c.toNat && c.toNat ≤ 13

def trim (cs : List Char) : List Char :=
  ((cs.dropWhile isGap).reverse.dropWhile isGap).reverse

/-- Whether a minus stands in front, and what follows the sign. -/
def takeSign : List Char → Bool × List Char
  | '-' :: cs => (true, cs)
  | '+' :: cs => (false, cs)
  | cs => (false, cs)

/-- Digits with at most one underscore between two neighbours. -/
def isGrouped : List Char → Bool
  | [] => false
  | [c] => c.isDigit
  | c :: '_' :: cs => c.isDigit && isGrouped cs
  | c :: cs => c.isDigit && isGrouped cs

def value (digits : List Char) : Nat := Nat.ofDigitChars 10 digits 0

/-- Nothing, or `e` and a signed whole number. -/
def exponent? : List Char → Option Int
  | [] => some 0
  | c :: cs =>
    let (negative, digits) := takeSign cs
    if (c = 'e' || c = 'E') && !digits.isEmpty && digits.all Char.isDigit then
      some (signed negative (value digits))
    else none

/-- The coefficient and exponent of an unsigned numeral: digits, a point somewhere among or beside
them, and an exponent. -/
def scientific? (cs : List Char) : Option (Nat × Int) :=
  let whole := cs.takeWhile Char.isDigit
  let (fraction, rest) := match cs.dropWhile Char.isDigit with
    | '.' :: rest => (rest.takeWhile Char.isDigit, rest.dropWhile Char.isDigit)
    | rest => ([], rest)
  if whole.isEmpty && fraction.isEmpty then none
  else (exponent? rest).map fun exponent =>
    (value (whole ++ fraction), exponent - fraction.length)

def lower (cs : List Char) : String := String.ofList (cs.map Char.toLower)

end Reckon.Numeral

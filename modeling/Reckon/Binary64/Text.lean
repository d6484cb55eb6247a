import Reckon.Binary64.Shortest

/-! The written form of a floating-point number: the shortest digits, positional from `10 ^ -4`
up to below `10 ^ 16` and with at least one digit after the point, and elsewhere with an exponent
of at least two digits. -/
namespace Reckon.Binary64
open Digits (pointed)
attribute [local instance (2000)] instPowNat

def exponentText (n : Int) : List Char :=
  let size := Digits.ofNat n.natAbs
  'e' :: (if n < 0 then '-' else '+') :: List.replicate (2 - size.length) '0' ++ size

def isPositional (s : Scientific) : Bool :=
  let top := s.exponent + Digits.width s.coefficient - 1
  top < 16 && -4 ≤ top

/-- The digits as they are written positionally: at least one stands after the point. -/
def Scientific.positional (s : Scientific) : Scientific :=
  if s.exponent < 0 then s else ⟨s.coefficient * 10 ^ (s.exponent.toNat + 1), -1⟩

def layout (s : Scientific) : List Char :=
  if isPositional s then
    let shown := s.positional
    pointed shown.coefficient (-shown.exponent).toNat
  else
    let fraction := Digits.width s.coefficient - 1
    pointed s.coefficient fraction ++ exponentText (s.exponent + fraction)

def text : Binary64 → String
  | .finite negative significand exponent _ =>
    let body := layout (shortest significand exponent)
    String.ofList (if negative then '-' :: body else body)
  | .infinite negative => if negative then "-inf" else "inf"
  | .nan => "nan"

end Reckon.Binary64

import Reckon.Literal

/-! The precision in force: the number of digits that fixed decimals keep. Without one, numbers are
plain integers and floating-point numbers. -/
namespace Reckon

abbrev Precision := Option Int

namespace Precision

/-- The precision that a text asks for: a positive integer, or none. -/
def read (text : String) : Precision :=
  match Literal.integer text with
  | .ok n => if n ≤ 0 then none else some n
  | .error _ => none

/-- The greatest number of digits that a decimal operation can work with. -/
def greatest : Int := 999999999999999999

/-- The first number too large for a signed word of 64 bits. -/
def wordBound : Int := 0x8000000000000000

def check (digits : Int) : Except Fault Nat :=
  if digits < -wordBound || wordBound ≤ digits then .error .precisionTooWide
  else if digits < 1 || greatest < digits then .error .precisionOutOfRange
  else .ok digits.toNat

end Precision
end Reckon

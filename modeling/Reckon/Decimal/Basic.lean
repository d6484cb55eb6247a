import Reckon.Digits

/-! Decimal numbers that keep their exponent: `1.50` and `1.5` are equal in value and differ in
form. A result is fitted into a precision by dropping digits toward zero. -/
namespace Reckon
attribute [local instance (2000)] instPowNat

inductive Decimal where
  | finite (negative : Bool) (coefficient : Nat) (exponent : Int)
  | infinite (negative : Bool)
  | nan (negative signaling : Bool) (payload : Nat)
  deriving DecidableEq, Inhabited

/-- The conditions that end an operation instead of giving a result. -/
inductive Decimal.Signal where
  | invalidOperation
  | divisionUndefined
  | divisionByZero
  | overflow
  deriving DecidableEq

namespace Decimal

def maxExponent : Int := 999999
def minExponent : Int := -999999

/-- The last place of the smallest number that a precision can hold. -/
def leastPlace (precision : Nat) : Int := minExponent - ((precision : Int) - 1)

/-- The exponent of the first digit. -/
def adjusted : Decimal → Int
  | .finite _ coefficient exponent => exponent + Digits.width coefficient - 1
  | _ => 0

def isFinite : Decimal → Bool
  | .finite .. => true
  | _ => false

/-- Keeps at most `precision` digits and the exponent within its limits. -/
def fit (precision : Nat) (negative : Bool) (coefficient : Nat) (exponent : Int) :
    Except Signal Decimal :=
  if coefficient = 0 then
    .ok (.finite negative 0 (max (leastPlace precision) (min exponent maxExponent)))
  else if maxExponent < exponent + Digits.width coefficient - 1 then .error .overflow
  else
    let place := max (leastPlace precision) (exponent + Digits.width coefficient - precision)
    if exponent < place then
      .ok (.finite negative (Digits.drop coefficient (place - exponent).toNat) place)
    else .ok (.finite negative coefficient exponent)

/-- A quiet NaN with as much of the payload as fits. -/
def quiet (precision : Nat) (negative : Bool) (payload : Nat) : Decimal :=
  .nan negative false
    (if Digits.width payload ≤ precision then payload else payload % 10 ^ precision)

/-- The result of an operation with a NaN operand, if there is one: the first NaN, unless one
of the two is signaling. -/
def nanResult? (precision : Nat) : Decimal → Decimal → Option (Except Signal Decimal)
  | .nan _ true _, _ => some (.error .invalidOperation)
  | _, .nan _ true _ => some (.error .invalidOperation)
  | .nan negative _ payload, _ => some (.ok (quiet precision negative payload))
  | _, .nan negative _ payload => some (.ok (quiet precision negative payload))
  | _, _ => none

end Decimal
end Reckon

import Reckon.Decimal.Basic

/-! Decimal sums, differences, products, quotients and the cut to a given place. Each result is the
exact one, fitted into the precision once. -/
namespace Reckon.Decimal
open Digits (signed)
attribute [local instance (2000)] instPowNat

def negate : Decimal → Decimal
  | .finite negative coefficient exponent => .finite (!negative) coefficient exponent
  | .infinite negative => .infinite (!negative)
  | .nan negative signaling payload => .nan negative signaling payload

/-- A sum of zero is negative only when both terms are. -/
def add (precision : Nat) (x y : Decimal) : Except Signal Decimal :=
  (nanResult? precision x y).getD <| match x, y with
  | .finite a m e, .finite b n f =>
    let place := min e f
    let sum := signed a m * 10 ^ (e - place).toNat + signed b n * 10 ^ (f - place).toNat
    fit precision (if sum = 0 then a && b else sum < 0) sum.natAbs place
  | .infinite a, .infinite b => if a = b then .ok (.infinite a) else .error .invalidOperation
  | .infinite a, _ => .ok (.infinite a)
  | _, y => .ok y

def sub (precision : Nat) (x y : Decimal) : Except Signal Decimal := add precision x (negate y)

def mul (precision : Nat) (x y : Decimal) : Except Signal Decimal :=
  (nanResult? precision x y).getD <| match x, y with
  | .finite a m e, .finite b n f => fit precision (a != b) (m * n) (e + f)
  | .infinite a, .finite b n _ =>
    if n = 0 then .error .invalidOperation else .ok (.infinite (a != b))
  | .finite a m _, .infinite b =>
    if m = 0 then .error .invalidOperation else .ok (.infinite (a != b))
  | .infinite a, .infinite b => .ok (.infinite (a != b))
  | x, _ => .ok x

/-- The quotient of two coefficients, with one digit more than the precision at least. An exact
one ends where the difference of the exponents would have it end, if it can. -/
def quotient (precision : Nat) (negative : Bool) (m n : Nat) (ideal : Int) :
    Except Signal Decimal :=
  let shift : Int := Digits.width n - Digits.width m + precision + 1
  let num := m * 10 ^ shift.toNat
  let den := n * 10 ^ (-shift).toNat
  if num % den = 0 then
    let exact := num / den
    let spare := min (Digits.trailingZeros exact) shift.toNat
    fit precision negative (exact / 10 ^ spare) (ideal - shift + spare)
  else fit precision negative (num / den) (ideal - shift)

def div (precision : Nat) (x y : Decimal) : Except Signal Decimal :=
  (nanResult? precision x y).getD <| match x, y with
  | .finite a m e, .finite b n f =>
    if n = 0 then .error (if m = 0 then .divisionUndefined else .divisionByZero)
    else if m = 0 then fit precision (a != b) 0 (e - f)
    else quotient precision (a != b) m n (e - f)
  | .infinite _, .infinite _ => .error .invalidOperation
  | .infinite a, .finite b _ _ => .ok (.infinite (a != b))
  | .finite a _ _, .infinite b => .ok (.finite (a != b) 0 (leastPlace precision))
  | x, _ => .ok x

/-- The number with its last digit at `10 ^ place`, digits below it dropped; invalid when that
takes more than `precision` digits. -/
def quantize (precision : Nat) (place : Int) (x : Decimal) : Except Signal Decimal :=
  (nanResult? precision x x).getD <| match x with
  | .finite negative coefficient exponent =>
    if place < leastPlace precision || maxExponent < place then .error .invalidOperation
    else if coefficient = 0 then .ok (.finite negative 0 place)
    else if (precision : Int) < Digits.width coefficient + exponent - place then
      .error .invalidOperation
    else
      let kept :=
        Digits.drop (coefficient * 10 ^ (exponent - place).toNat) (place - exponent).toNat
      if maxExponent < place + Digits.width kept - 1 then .error .invalidOperation
      else .ok (.finite negative kept place)
  | _ => .error .invalidOperation

/-- The place of `10 ^ -digits` when that power is itself fitted into the precision. -/
def fractionPlace (precision : Nat) (digits : Int) : Except Signal Int :=
  if 2 * (maxExponent + precision) < digits.natAbs then .error .invalidOperation
  else match fit precision false 1 (-digits) with
    | .ok (.finite _ _ place) => .ok place
    | .ok _ => .error .invalidOperation
    | .error signal => .error signal

/-- Cuts `x` to the given number of fraction digits. -/
def truncate (precision : Nat) (digits : Int) (x : Decimal) : Except Signal Decimal := do
  quantize precision (← fractionPlace precision digits) x

end Reckon.Decimal

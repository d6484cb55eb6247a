import Reckon.Binary64.Arithmetic
import Reckon.Binary64.Machine
import Reckon.Decimal.Arithmetic
import Reckon.Value

/-! The arithmetic operations on values. Each is a list of rules, of which the first that covers
the operands applies: words wrap, a fixed decimal on either side makes the result one, and
everything else is done in floating point. -/
namespace Reckon.Operation

/-- The result for the operands that the rule covers. -/
abbrev Rule := Precision → Value → Value → Option (Except Fault Value)

def words (perform : Int → Int → Int) : Rule
  | _, .integer m, .integer n => some (.ok (.integer (Word.wrap (perform m n))))
  | _, _, _ => none

/-- The digits kept beyond what the operands and the precision need. -/
def guardDigits : Int := 28

/-- The digits that hold `x` exactly, those before the point and those after it together. -/
def span (x : Decimal) : Int :=
  match x with
  | .finite _ _ exponent => max x.adjusted 0 + 1 + max (-exponent) 0
  | _ => 1

/-- Enough for any sum, difference or product of the operands to be exact. -/
def exactDigits (precision : Precision) (x y : Decimal) : Int :=
  span x + span y + precision.getD 0 + guardDigits

/-- Enough for the whole part of the quotient and the fraction digits kept. -/
def quotientDigits (precision : Precision) (x y : Decimal) : Int :=
  max (x.adjusted - y.adjusted) 0 + 2 + precision.getD 0 + guardDigits

/-- Cuts to the fraction digits of the precision in force. -/
def cut (working : Nat) (precision : Precision) (x : Decimal) : Except Decimal.Signal Decimal :=
  match precision with
  | some digits => x.truncate working digits
  | none => .ok x

/-- The result keeps the digits of the right operand, or of the left one if the right is not a
fixed decimal. -/
def decimals (perform : Nat → Decimal → Decimal → Except Decimal.Signal Decimal)
    (working : Precision → Decimal → Decimal → Int) : Rule := fun precision a b =>
  (b.digits?.or a.digits?).map fun digits => do
    let x := a.toDecimal
    let y := b.toDecimal
    let places ← Precision.check (working precision x y)
    let result ← (perform places x y >>= cut places precision).mapError .decimal
    return .fixed result digits

def floats (perform : Binary64 → Binary64 → Except Fault Binary64) : Rule := fun _ a b =>
  some do
    let x ← a.toBinary
    let y ← b.toBinary
    return .float (← perform x y)

def quotient (x y : Binary64) : Except Fault Binary64 :=
  if y.isZero then .error .divisionByZero else .ok (x.div y)

/-- An infinite or undefined power of finite numbers is an error. -/
def power (x y : Binary64) : Except Fault Binary64 :=
  let result := x.power y
  if x.isFinite && y.isFinite && !result.isFinite then
    .error (if x.isZero || result = .nan then .outsideDomain else .outsideRange)
  else .ok result

def addition : List Rule := [
  words (· + ·), decimals Decimal.add exactDigits, floats fun x y => .ok (x.add y)]

def subtraction : List Rule := [
  words (· - ·), decimals Decimal.sub exactDigits, floats fun x y => .ok (x.sub y)]

def multiplication : List Rule := [
  words (· * ·), decimals Decimal.mul exactDigits, floats fun x y => .ok (x.mul y)]

/-- Integers divide in floating point, exactly divisible or not. -/
def division : List Rule := [decimals Decimal.div quotientDigits, floats quotient]

/-- A power is computed in floating point and made a value anew. -/
def exponentiation : List Rule := [fun precision a b => some do
  let x ← a.toBinary
  let y ← b.toBinary
  Value.ofBinary precision (← power x y)]

def result? (rules : List Rule) (precision : Precision) (a b : Value) :
    Option (Except Fault Value) :=
  rules.findSome? fun rule => rule precision a b

end Reckon.Operation

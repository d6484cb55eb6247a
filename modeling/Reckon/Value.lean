import Reckon.Binary64.Text
import Reckon.Decimal.Binary
import Reckon.Decimal.Text
import Reckon.Precision
import Reckon.Word

/-! Values: what an expression comes down to. A fixed decimal carries the number of digits it was
made with. A newly computed number becomes a value by `ofBinary`. -/
namespace Reckon

inductive Value where
  | integer (n : Int)
  | float (x : Binary64)
  | fixed (number : Decimal) (digits : Int)
  deriving DecidableEq, Inhabited

namespace Value

def kindName : Value → String
  | .integer _ => "Integer"
  | .float _ => "Float"
  | .fixed .. => "Fixed decimal"

def text : Value → String
  | .integer n => String.ofList (Digits.ofInt n)
  | .float x => x.text
  | .fixed number _ => number.text

def toBinary : Value → Except Fault Binary64
  | .integer n =>
    let x := Binary64.ofInt n
    if x.isFinite then .ok x else .error .integerTooLarge
  | .float x => .ok x
  | .fixed number _ =>
    match number.toBinary? with
    | some x => .ok x
    | none => .error .signalingNaN

def toDecimal : Value → Decimal
  | .integer n => .ofInt n
  | .float x => .written x
  | .fixed number _ => number

/-- Whether the number is zero; a signaling NaN refuses the comparison. -/
def isZero : Value → Except Fault Bool
  | .integer n => .ok (n = 0)
  | .float x => .ok x.isZero
  | .fixed (.finite _ coefficient _) _ => .ok (coefficient = 0)
  | .fixed (.nan _ true _) _ => .error (.decimal .invalidOperation)
  | .fixed _ _ => .ok false

def digits? : Value → Option Int
  | .fixed _ digits => some digits
  | _ => none

/-- The fixed decimal nearest to `x` with so many significant digits. -/
def fixedOf (digits : Int) (x : Binary64) : Except Fault Value := do
  return .fixed (.rounded (← Precision.check digits) x) digits

/-- A fixed decimal under a precision; else an integer if the number is one and fits a word. -/
def ofBinary (precision : Precision) (x : Binary64) : Except Fault Value :=
  match precision with
  | some digits => fixedOf digits x
  | none =>
    match x.toInt? with
    | some n => .ok (if Word.fits n then .integer n else .float x)
    | none => .ok (.float x)

end Value
end Reckon

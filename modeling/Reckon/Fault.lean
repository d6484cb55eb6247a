import Reckon.Decimal.Basic
import Reckon.Text.Quoted

/-! What can fail below the level of expressions: reading a numeral, a conversion between kinds of
numbers, and an arithmetic operation outside its domain or range. -/
namespace Reckon

inductive Fault where
  | invalidInteger (text : String)
  | tooManyDigits (count : Nat)
  | invalidReal (text : String)
  | precisionOutOfRange
  | precisionTooWide
  | integerTooLarge
  | signalingNaN
  | outsideDomain
  | outsideRange
  | divisionByZero
  | negativeRoot
  | decimal (signal : Decimal.Signal)
  | unknownOperator (lexeme : String)
  | operatorWithoutSymbol
  | notAnExpression (text : String)
  | unknownLogLevel (name : String)
  deriving DecidableEq

def Decimal.Signal.name : Decimal.Signal → String
  | .invalidOperation => "InvalidOperation"
  | .divisionUndefined => "DivisionUndefined"
  | .divisionByZero => "DivisionByZero"
  | .overflow => "Overflow"

/-- The most digits that an integer numeral may have. -/
def maxIntegerDigits : Nat := 4300

def Fault.message : Fault → String
  | .invalidInteger text =>
    "invalid literal for int() with base 10: " ++
      String.ofList ((Text.quoted text).toList.take 200)
  | .tooManyDigits count =>
    s!"Exceeds the limit ({maxIntegerDigits} digits) for integer string conversion: " ++
      s!"value has {count} digits; use sys.set_int_max_str_digits() to increase the limit"
  | .invalidReal text => "could not convert string to float: " ++ Text.quoted text
  | .precisionOutOfRange => "valid range for prec is [1, MAX_PREC]"
  | .precisionTooWide => "Python int too large to convert to C ssize_t"
  | .integerTooLarge => "int too large to convert to float"
  | .signalingNaN => "cannot convert signaling NaN to float"
  | .outsideDomain => "math domain error"
  | .outsideRange => "math range error"
  | .divisionByZero => "float division by zero"
  | .negativeRoot => "Negative square roots are not supported"
  | .decimal signal => s!"[<class 'decimal.{signal.name}'>]"
  | .unknownOperator lexeme => Text.quoted lexeme
  | .operatorWithoutSymbol => "'str' object has no attribute 'symbol'"
  | .notAnExpression text => "Unexpected expression type: " ++ text
  | .unknownLogLevel name => "Unknown level: " ++ Text.quoted name

end Reckon

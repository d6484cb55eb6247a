import Reckon.Decimal.Basic
import Reckon.Numeral

/-! The written form of a decimal number. Every digit and the exponent show: the form is
positional when the exponent is not positive and no more than five zeros follow the point, and
has an exponent otherwise. -/
namespace Reckon.Decimal
open Digits (pointed)

def exponentText (n : Int) : List Char :=
  'E' :: (if n < 0 then '-' else '+') :: Digits.ofNat n.natAbs

def layout (coefficient : Nat) (exponent : Int) : List Char :=
  let fraction := Digits.width coefficient - 1
  let top := exponent + fraction
  if exponent ≤ 0 && top ≥ -6 then pointed coefficient (-exponent).toNat
  else pointed coefficient fraction ++ exponentText top

def payloadText (payload : Nat) : List Char := if payload = 0 then [] else Digits.ofNat payload

def text (x : Decimal) : String :=
  let (negative, body) : Bool × List Char := match x with
    | .finite negative coefficient exponent => (negative, layout coefficient exponent)
    | .infinite negative => (negative, "Infinity".toList)
    | .nan negative false payload => (negative, "NaN".toList ++ payloadText payload)
    | .nan negative true payload => (negative, "sNaN".toList ++ payloadText payload)
  String.ofList (if negative then '-' :: body else body)

/-- A number or the name of a special value; underscores are not read. -/
def read? (text : String) : Option Decimal :=
  let cs := (Numeral.trim (text.toList.map Numeral.plain)).filter (· != '_')
  let (negative, body) := Numeral.takeSign cs
  match Numeral.scientific? body with
  | some (coefficient, exponent) => some (.finite negative coefficient exponent)
  | none =>
    let letters := body.takeWhile Char.isAlpha
    let digits := body.dropWhile Char.isAlpha
    let payload := Numeral.value digits
    match Numeral.lower letters, digits.all Char.isDigit, digits.isEmpty with
    | "inf", _, true => some (.infinite negative)
    | "infinity", _, true => some (.infinite negative)
    | "nan", true, _ => some (.nan negative false payload)
    | "snan", true, _ => some (.nan negative true payload)
    | _, _, _ => none

end Reckon.Decimal

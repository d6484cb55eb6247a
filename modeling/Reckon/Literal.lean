import Reckon.Binary64.Basic
import Reckon.Fault
import Reckon.Numeral

/-! Reading the numerals of integers and floating-point numbers. -/
namespace Reckon.Literal

/-- A sign, then at most `maxIntegerDigits` digits, which single underscores may group. Too many
digits are reported before anything that follows them. -/
def integer (text : String) : Except Fault Int :=
  let (negative, body) := Numeral.takeSign (Numeral.trim (text.toList.map Numeral.plain))
  let run := body.takeWhile fun c => c.isDigit || c = '_'
  let digits := run.filter Char.isDigit
  if !Numeral.isGrouped run then .error (.invalidInteger text)
  else if maxIntegerDigits < digits.length then .error (.tooManyDigits digits.length)
  else if run.length < body.length then .error (.invalidInteger text)
  else .ok (Digits.signed negative (Numeral.value digits))

/-- Takes out the underscores, each of which must stand between two digits. -/
def ungroup (afterDigit : Bool) : List Char → Option (List Char)
  | [] => some []
  | ['_'] => none
  | '_' :: c :: cs =>
    if afterDigit && c.isDigit then (ungroup true cs).map (c :: ·) else none
  | c :: cs => (ungroup c.isDigit cs).map (c :: ·)

/-- The number nearest to what the numeral says, or one of the special numbers by name. -/
def real? (text : String) : Option Binary64 := do
  let cs ← ungroup false (Numeral.trim (text.toList.map Numeral.plain))
  let (negative, body) := Numeral.takeSign cs
  match Numeral.scientific? body with
  | some (coefficient, exponent) => some (.ofScientific negative coefficient exponent)
  | none =>
    match Numeral.lower body with
    | "inf" => some (.infinite negative)
    | "infinity" => some (.infinite negative)
    | "nan" => some .nan
    | _ => none

def real (text : String) : Except Fault Binary64 :=
  match real? text with
  | some x => .ok x
  | none => .error (.invalidReal text)

end Reckon.Literal

import Reckon.Precision
import Reckon.Text.Blank

/-! Lines that set the precision: `fp=`, a number, and perhaps an expression to go on with. The
first word after `fp=` has to be a positive integer; any other resets the precision and ends the
line. -/
namespace Reckon

structure Command where
  precision : Precision
  messages : List String
  rest : Option String
  deriving DecidableEq

namespace Command
open Text (isBlank)

def set (digits : Int) (rest : List Char) : Command where
  precision := some digits
  messages := ["Setting precision to " ++ String.ofList (Digits.ofInt digits)]
  rest := if rest.all isBlank then none else some (String.ofList rest)

def reset (current : Precision) : Command where
  precision := none
  messages := "Couldn't find valid fixed precision value" ::
    if current.isSome then ["Resetting precision"] else []
  rest := none

def ofArgument (current : Precision) (argument : List Char) : Command :=
  let start := argument.dropWhile isBlank
  let word := start.takeWhile (!isBlank ·)
  match Precision.read (String.ofList word) with
  | some digits => set digits (start.dropWhile (!isBlank ·))
  | none => reset current

def read? (current : Precision) (line : String) : Option Command :=
  match line.toList with
  | 'f' :: 'p' :: '=' :: argument => some (ofArgument current argument)
  | _ => none

end Command
end Reckon

import Reckon.Calculation
import Reckon.Command

/-! A session takes one line after another and keeps nothing but the precision. Reported errors
become output; a fault ends the turn without any. -/
namespace Reckon.Session

/-- What a line leaves behind: the precision from then on, and the texts to show. -/
structure Turn where
  precision : Precision
  output : Except Fault (List String)

def answer (precision : Precision) (code : String) : Except Fault (List String) :=
  match Calculation.calculate precision code with
  | .ok none => .ok []
  | .ok (some v) => .ok [v.text]
  | .error (.fault f) => .error f
  | .error failure => .ok [failure.message]

def handle (precision : Precision) (line : String) : Turn :=
  match Command.read? precision line with
  | none => ⟨precision, answer precision line⟩
  | some command =>
    ⟨command.precision, match command.rest with
      | none => .ok command.messages
      | some code => (answer command.precision code).map (command.messages ++ ·)⟩

/-- The turns of a whole run of lines. -/
def run (precision : Precision) : List String → List Turn
  | [] => []
  | line :: lines =>
    let turn := handle precision line
    turn :: run turn.precision lines

end Reckon.Session

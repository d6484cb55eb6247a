import Reckon.Expr.Evaluation
import Reckon.Expr.Reading

/-! From a line of text to its value. A line without an expression has none, and a line with more
than one is refused before any of them is reduced. -/
namespace Reckon.Calculation

/-- The values of all expressions of a line. -/
def evaluateAll (precision : Precision) (code : String) : Except Failure (List Value) := do
  let trees ← Reading.read precision (← Token.tokenize 1 code)
  trees.mapM (Evaluation.evaluate precision)

def only (precision : Precision) : List Expr → Except Failure (Option Value)
  | [] => .ok none
  | [tree] => (Evaluation.evaluate precision tree).map some
  | _ => .error (.evaluation .severalExpressions)

def calculate (precision : Precision) (code : String) : Except Failure (Option Value) := do
  only precision (← Reading.read precision (← Token.tokenize 1 code))

/-- The value as text, or the bare message of a reported error. -/
def summary (precision : Precision) (code : String) : Except Fault String :=
  match calculate precision code with
  | .ok none => .ok ""
  | .ok (some v) => .ok v.text
  | .error (.fault f) => .error f
  | .error failure => .ok ("error: " ++ failure.reason)

end Reckon.Calculation

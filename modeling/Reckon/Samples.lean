import Reckon.Calculation

/-! A tour of sample lines: for each one its tokens, its trees and its results. -/
namespace Reckon.Samples

def all : List (String × Precision) := [
  ("5", none),
  ("-1", none),
  ("1 + 1", none),
  ("2 * 3 + 4", none),
  ("10 / 2", none),
  ("|1 - 5|", none),
  ("sin pi", none),
  ("ctg 1", none),
  ("log 2 8", none),
  ("sqrt(16) ^ 2", none),
  ("1.005 + 1.005", some 2),
  ("10 / 3", some 4),
  ("10 / 0", none),
  ("(1 + 2", none),
  ("foo 1", none)]

/-- A value with its kind and all that it holds. -/
def detail : Value → String
  | .integer n => "Integer(v=" ++ (Value.integer n).text ++ ")"
  | .float x => "Float(v=" ++ x.text ++ ")"
  | .fixed number digits =>
    "FixedDecimal(v=Decimal('" ++ number.text ++ "'), precision=" ++
      String.ofList (Digits.ofInt digits) ++ ")"

def numbered (texts : List String) : String :=
  "\n".intercalate (texts.mapIdx fun i text => s!"  {i + 1}: {text}")

def precisionText : Precision → String
  | none => "None"
  | some digits => String.ofList (Digits.ofInt digits)

/-- The lines printed for one sample. An error ends them where it arises. -/
def report (code : String) (precision : Precision) : Except Fault (List String) :=
  let title := ["==========",
    "code: " ++ Text.quoted code ++ ", precision: " ++ precisionText precision]
  let failed (shown : List String) : Failure → Except Fault (List String)
    | .fault f => .error f
    | failure => .ok (shown ++ [failure.message])
  match Token.tokenize 1 code with
  | .error failure => failed title failure
  | .ok tokens =>
    let shown := title ++ ["tokens: " ++ " ".intercalate (tokens.map Token.text)]
    match Reading.read precision tokens with
    | .error failure => failed shown failure
    | .ok trees => do
      let shown := shown ++ ["ast:\n" ++ numbered (← trees.mapM Expr.text)]
      match trees.mapM (Evaluation.evaluate precision) with
      | .error failure => failed shown failure
      | .ok values =>
        let results := values.map fun v => detail v ++ " -> " ++ v.text
        return shown ++ ["expression results:\n" ++ numbered results]

def tour : Except Fault String := do
  let reports ← all.mapM fun sample => report sample.1 sample.2
  return String.join (reports.flatten.map (· ++ "\n"))

end Reckon.Samples

import Reckon.Builtin
import Reckon.Expr.Basic
import Reckon.Failure
import Reckon.Operation

/-! Reducing a tree to a value: operands first, from left to right, then the node itself. -/
namespace Reckon.Evaluation

/-- Applies the first rule that covers the operands; `operation` names it in errors. -/
def combine (rules : List Operation.Rule) (operation : String) (precision : Precision)
    (a b : Value) : Except Failure Value :=
  match Operation.result? rules precision a b with
  | some result => result.mapError fun f => .evaluation (.operationFailed operation f)
  | none => .error (.evaluation (.undefined operation a.kindName b.kindName))

def box (precision : Precision) (x : Binary64) : Except Failure Value :=
  (Value.ofBinary precision x).mapError .fault

def applyBuiltin (precision : Precision) (name : String) (result : Except Fault Binary64) :
    Except Failure Value := do
  box precision (← result.mapError fun f => .evaluation (.functionFailed name f))

def call (precision : Precision) (name : String) (arguments : List Value) :
    Except Failure Value :=
  match Builtin.function? name with
  | none => .error (.evaluation (.unknownSymbol name))
  | some builtin =>
    match builtin, arguments with
    | .unary apply, [a] => applyBuiltin precision name do apply (← a.toBinary)
    | .binary apply, [a, b] => applyBuiltin precision name do
      let x ← a.toBinary
      let y ← b.toBinary
      apply x y
    | _, _ => .error (.evaluation (.wrongArity name builtin.arity arguments.length))

/-- A divisor of zero is refused before any rule sees it. -/
def divide (precision : Precision) (a b : Value) : Except Failure Value :=
  match b.isZero with
  | .error f => .error (.fault f)
  | .ok true => .error (.evaluation .divisionByZero)
  | .ok false => combine Operation.division "Division" precision a b

def operate (precision : Precision) (a b : Value) : Operator → Except Failure Value
  | .add => combine Operation.addition "Addition" precision a b
  | .sub => combine Operation.subtraction "Subtraction" precision a b
  | .mul => combine Operation.multiplication "Multiplication" precision a b
  | .div => divide precision a b
  | .pow => combine Operation.exponentiation "Power" precision a b
  | .other text => .error (.evaluation (.unexpectedOperator text))

def evaluate (precision : Precision) : Expr → Except Failure Value
  | .value v => .ok v
  | .binary operator left right => do
    let a ← evaluate precision left
    let b ← evaluate precision right
    operate precision a b operator
  | .magnitude operand => do
    let v ← evaluate precision operand
    let x ← v.toBinary.mapError .fault
    box precision x.magnitude
  | .constant name =>
    match Builtin.constant? name with
    | some x => box precision x
    | none => .error (.evaluation (.unknownSymbol name))
  | .unary name argument => do
    let v ← evaluate precision argument
    call precision name [v]
  | .function name first second => do
    let a ← evaluate precision first
    let b ← evaluate precision second
    call precision name [a, b]
  | .unparsed text => .error (.evaluation (.notReduced text))

end Reckon.Evaluation

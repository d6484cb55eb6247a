import Reckon.Token.Basic
import Reckon.Value

/-! Expression trees. Constants and functions are kept by name, and `other` and `unparsed` stand
for an operator and an operand that no rule knows; what they cannot do is found on evaluation. -/
namespace Reckon

inductive Operator where
  | add | sub | mul | div | pow
  | other (text : String)
  deriving DecidableEq

inductive Expr where
  | value (v : Value)
  | binary (operator : Operator) (left right : Expr)
  | magnitude (operand : Expr)
  | constant (name : String)
  | unary (name : String) (argument : Expr)
  | function (name : String) (first second : Expr)
  | unparsed (text : String)
  deriving DecidableEq, Inhabited

def Operator.ofKind? : Token.Kind → Option Operator
  | .plus => some .add
  | .minus => some .sub
  | .star => some .mul
  | .slash => some .div
  | .hat => some .pow
  | _ => none

def Operator.symbol? : Operator → Option String
  | .add => some "+"
  | .sub => some "-"
  | .mul => some "*"
  | .div => some "/"
  | .pow => some "^"
  | .other _ => none

/-- Parentheses are not shown, and neither is the kind of a number. -/
def Expr.text : Expr → Except Fault String
  | .value v => .ok v.text
  | .binary operator left right => do
    let first ← left.text
    match operator.symbol? with
    | some symbol => return first ++ " " ++ symbol ++ " " ++ (← right.text)
    | none => .error .operatorWithoutSymbol
  | .magnitude operand => do return "|" ++ (← operand.text) ++ "|"
  | .constant name => .ok name
  | .unary name argument => do return name ++ " " ++ (← argument.text)
  | .function name first second => do
    let one ← first.text
    return name ++ " " ++ one ++ " " ++ (← second.text)
  | .unparsed text => .error (.notAnExpression text)

end Reckon

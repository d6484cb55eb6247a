import Reckon.Binary64.Arithmetic
import Reckon.Binary64.Machine
import Reckon.Fault

/-! The named constants and functions. -/
namespace Reckon

inductive Builtin where
  | unary (apply : Binary64 → Except Fault Binary64)
  | binary (apply : Binary64 → Binary64 → Except Fault Binary64)

namespace Builtin

def arity : Builtin → Nat
  | .unary _ => 1
  | .binary _ => 2

/-- Infinities have no angle. -/
def circular (f : Binary64 → Binary64) (x : Binary64) : Except Fault Binary64 :=
  match x with
  | .infinite _ => .error .outsideDomain
  | x => .ok (f x)

/-- One divided by the argument itself, not by its tangent. -/
def reciprocal (x : Binary64) : Except Fault Binary64 :=
  if x.isZero then .error .divisionByZero else .ok (Binary64.one.div x)

def squareRoot (x : Binary64) : Except Fault Binary64 :=
  if x.isNegative then .error .negativeRoot else .ok x.squareRoot

def naturalLogarithm (x : Binary64) : Except Fault Binary64 :=
  if x.isZero || x.isNegative then .error .outsideDomain else .ok x.logarithm

/-- The logarithm of `x` to the given base. -/
def logarithm (x base : Binary64) : Except Fault Binary64 := do
  let num ← naturalLogarithm x
  let den ← naturalLogarithm base
  if den.isZero then .error .divisionByZero else .ok (num.div den)

def constant? : String → Option Binary64
  | "pi" => some .pi
  | "e" => some .euler
  | _ => none

def function? : String → Option Builtin
  | "sin" => some (.unary (circular .sine))
  | "cos" => some (.unary (circular .cosine))
  | "tg" => some (.unary (circular .tangent))
  | "ctg" => some (.unary reciprocal)
  | "sqrt" => some (.unary squareRoot)
  | "ln" => some (.unary naturalLogarithm)
  | "log" => some (.binary logarithm)
  | _ => none

end Builtin
end Reckon

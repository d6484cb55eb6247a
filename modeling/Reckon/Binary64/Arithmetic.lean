import Reckon.Binary64.Basic

/-! Sums, differences, products and quotients of floating-point numbers: the exact result,
rounded once. -/
namespace Reckon.Binary64
open Digits (signed)
attribute [local instance (2000)] instPowNat

/-- A sum of zero is negative only when both terms are. -/
def add : Binary64 → Binary64 → Binary64
  | .nan, _ => .nan
  | _, .nan => .nan
  | .infinite a, .infinite b => if a = b then .infinite a else .nan
  | .infinite a, _ => .infinite a
  | _, .infinite b => .infinite b
  | .finite a m e _, .finite b n f _ =>
    let place := min e f
    let sum := signed a m * 2 ^ (e - place).toNat + signed b n * 2 ^ (f - place).toNat
    if sum = 0 then zero (a && b) else ofDyadic (sum < 0) sum.natAbs place

def sub (x y : Binary64) : Binary64 := add x (negate y)

def mul : Binary64 → Binary64 → Binary64
  | .nan, _ => .nan
  | _, .nan => .nan
  | .infinite a, .infinite b => .infinite (a != b)
  | .infinite a, .finite b n _ _ => if n = 0 then .nan else .infinite (a != b)
  | .finite a m _ _, .infinite b => if m = 0 then .nan else .infinite (a != b)
  | .finite a m e _, .finite b n f _ => ofDyadic (a != b) (m * n) (e + f)

def div : Binary64 → Binary64 → Binary64
  | .nan, _ => .nan
  | _, .nan => .nan
  | .infinite _, .infinite _ => .nan
  | .infinite a, .finite b _ _ _ => .infinite (a != b)
  | .finite a _ _ _, .infinite b => zero (a != b)
  | .finite a m e _, .finite b n f _ =>
    if n = 0 then if m = 0 then .nan else .infinite (a != b)
    else ofRatio (a != b) (m * 2 ^ (e - f).toNat) (n * 2 ^ (f - e).toNat)

end Reckon.Binary64

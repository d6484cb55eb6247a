import Reckon.Binary64.Basic

/-! The machine's own 64-bit numbers, asked only for the functions that no exact arithmetic
gives: sine, cosine, tangent, square root, logarithm and power. -/
namespace Reckon.Binary64

def signBit (negative : Bool) : Nat := if negative then 0x8000000000000000 else 0

/-- The interchange encoding: sign, biased exponent and the fraction below the leading bit. -/
def toBits : Binary64 → UInt64
  | .finite negative significand exponent _ =>
    let biased := if significand < leadingBit then 0 else (exponent + 1075).toNat
    UInt64.ofNat (signBit negative + biased * leadingBit + significand % leadingBit)
  | .infinite negative => UInt64.ofNat (signBit negative + 0x7ff * leadingBit)
  | .nan => 0x7ff8000000000000

def ofBits (bits : UInt64) : Binary64 :=
  let n := bits.toNat
  let negative : Bool := signBit true ≤ n
  let biased : Nat := n / leadingBit % 0x800
  let fraction := n % leadingBit
  if biased = 0x7ff then if fraction = 0 then .infinite negative else .nan
  else if biased = 0 then settle negative fraction (-1074)
  else settle negative (leadingBit + fraction) ((biased : Int) - 1075)

def toFloat (x : Binary64) : Float := Float.ofBits x.toBits

def ofFloat (x : Float) : Binary64 := ofBits x.toBits

def viaMachine (f : Float → Float) (x : Binary64) : Binary64 := ofFloat (f x.toFloat)

def sine : Binary64 → Binary64 := viaMachine Float.sin
def cosine : Binary64 → Binary64 := viaMachine Float.cos
def tangent : Binary64 → Binary64 := viaMachine Float.tan
def squareRoot : Binary64 → Binary64 := viaMachine Float.sqrt
def logarithm : Binary64 → Binary64 := viaMachine Float.log
def power (x y : Binary64) : Binary64 := ofFloat (Float.pow x.toFloat y.toFloat)

end Reckon.Binary64

import Reckon.Digits

/-! Floating-point numbers of 64 bits as exact values: a finite number is a signed
`significand * 2 ^ exponent` with at most 53 significant bits, in its one canonical form.
Every rounding is `ofRatio`: to the nearest number, a tie to the even significand. -/
namespace Reckon
attribute [local instance (2000)] instPowNat

/-- The first of 53 significant bits, `2 ^ 52`. -/
def Binary64.leadingBit : Nat := 0x10000000000000

/-- All 53 bits in use, unless the exponent is the least one. -/
def Binary64.Canonical (significand : Nat) (exponent : Int) : Prop :=
  significand < 2 * leadingBit ∧ -1074 ≤ exponent ∧ exponent ≤ 971 ∧
    (leadingBit ≤ significand ∨ exponent = -1074)

instance (significand : Nat) (exponent : Int) :
    Decidable (Binary64.Canonical significand exponent) := by
  unfold Binary64.Canonical
  infer_instance

inductive Binary64 where
  | finite (negative : Bool) (significand : Nat) (exponent : Int)
      (canonical : Binary64.Canonical significand exponent)
  | infinite (negative : Bool)
  | nan
  deriving DecidableEq

namespace Binary64
open Digits (signed)

def zero (negative : Bool) : Binary64 := .finite negative 0 (-1074) (by decide)

def one : Binary64 := .finite false leadingBit (-52) (by decide)

/-- The number nearest to π. -/
def pi : Binary64 := .finite false 0x1921fb54442d18 (-51) (by decide)

/-- The number nearest to Euler's e. -/
def euler : Binary64 := .finite false 0x15bf0a8b145769 (-51) (by decide)

instance : Inhabited Binary64 := ⟨zero false⟩

/-- A significand of 54 bits moves up one place; a number beyond the last exponent is infinite. -/
def settle (negative : Bool) (significand : Nat) (exponent : Int) : Binary64 :=
  if h : Canonical significand exponent then .finite negative significand exponent h
  else if h : Canonical (significand / 2) (exponent + 1) then
    .finite negative (significand / 2) (exponent + 1) h
  else .infinite negative

/-- The exponent of the greatest power of two up to `num / den`. -/
def binade (num den : Nat) : Int :=
  let guess : Int := num.log2 - den.log2
  if den * 2 ^ guess.toNat ≤ num * 2 ^ (-guess).toNat then guess else guess - 1

def lastPlace (num den : Nat) : Int := max (-1074) (binade num den - 52)

def nearestEven (num den : Nat) : Nat :=
  let quotient := num / den
  let remainder := num % den
  if 2 * remainder < den then quotient
  else if den < 2 * remainder then quotient + 1
  else quotient + quotient % 2

/-- The number nearest to `num / den`, with the given sign also when it is zero. -/
def ofRatio (negative : Bool) (num den : Nat) : Binary64 :=
  if num = 0 then zero negative
  else
    let place := lastPlace num den
    settle negative (nearestEven (num * 2 ^ (-place).toNat) (den * 2 ^ place.toNat)) place

/-- The number nearest to `coefficient * 2 ^ exponent`. -/
def ofDyadic (negative : Bool) (coefficient : Nat) (exponent : Int) : Binary64 :=
  ofRatio negative (coefficient * 2 ^ exponent.toNat) (2 ^ (-exponent).toNat)

/-- The number nearest to `coefficient * 10 ^ exponent`. What is far beyond either end of the
range is settled by its magnitude, without the power of ten. -/
def ofScientific (negative : Bool) (coefficient : Nat) (exponent : Int) : Binary64 :=
  if coefficient = 0 then zero negative
  else
    let magnitude := Digits.width coefficient + exponent
    if 310 < magnitude then .infinite negative
    else if magnitude < -330 then zero negative
    else ofRatio negative (coefficient * 10 ^ exponent.toNat) (10 ^ (-exponent).toNat)

def ofInt (n : Int) : Binary64 := ofRatio (n < 0) n.natAbs 1

def isFinite : Binary64 → Bool
  | .finite .. => true
  | _ => false

def isZero : Binary64 → Bool
  | .finite _ significand _ _ => significand = 0
  | _ => false

/-- Below zero, which the negative zero is not. -/
def isNegative : Binary64 → Bool
  | .finite negative significand _ _ => negative && significand != 0
  | .infinite negative => negative
  | .nan => false

def magnitude : Binary64 → Binary64
  | .finite _ significand exponent canonical => .finite false significand exponent canonical
  | .infinite _ => .infinite false
  | .nan => .nan

def negate : Binary64 → Binary64
  | .finite negative significand exponent canonical =>
    .finite (!negative) significand exponent canonical
  | .infinite negative => .infinite (!negative)
  | .nan => .nan

/-- The value of an integral number. -/
def toInt? : Binary64 → Option Int
  | .finite negative significand exponent _ =>
    let divisor := 2 ^ (-exponent).toNat
    if significand % divisor = 0 then
      some (signed negative (significand * 2 ^ exponent.toNat / divisor))
    else none
  | _ => none

end Binary64
end Reckon

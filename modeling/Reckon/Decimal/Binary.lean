import Reckon.Binary64.Text
import Reckon.Decimal.Basic

/-! Passing between decimal and binary floating-point numbers: a binary number rounded to so many
digits, the one that its written form spells, and the binary number nearest to a decimal one. -/
namespace Reckon.Decimal
attribute [local instance (2000)] instPowNat

/-- At most `precision` digits of `coefficient * 10 ^ exponent`, the last one rounded, a half
away from zero. -/
def halfUp (precision : Nat) (negative : Bool) (coefficient : Nat) (exponent : Int) : Decimal :=
  let extra := Digits.width coefficient - precision
  if extra = 0 then .finite negative coefficient exponent
  else
    let rounded := (coefficient + 5 * 10 ^ (extra - 1)) / 10 ^ extra
    if precision < Digits.width rounded then
      .finite negative (rounded / 10) (exponent + extra + 1)
    else .finite negative rounded (exponent + extra)

/-- The exact value of `x`, rounded once. -/
def rounded (precision : Nat) : Binary64 → Decimal
  | .finite negative significand exponent _ =>
    let exact := Binary64.expansion significand exponent
    halfUp precision negative exact.coefficient exact.exponent
  | .infinite negative => .infinite negative
  | .nan => .nan false false 0

/-- The decimal that the written form of `x` spells, digit for digit. -/
def written : Binary64 → Decimal
  | .finite negative significand exponent _ =>
    let form := Binary64.shortest significand exponent
    let shown := if Binary64.isPositional form then form.positional else form
    .finite negative shown.coefficient shown.exponent
  | .infinite negative => .infinite negative
  | .nan => .nan false false 0

def ofInt (n : Int) : Decimal := .finite (n < 0) n.natAbs 0

/-- The binary number nearest to a decimal; a signaling NaN has none. -/
def toBinary? : Decimal → Option Binary64
  | .finite negative coefficient exponent => some (.ofScientific negative coefficient exponent)
  | .infinite negative => some (.infinite negative)
  | .nan _ false _ => some .nan
  | .nan _ true _ => none

end Reckon.Decimal

import Reckon.Binary64.Basic

/-! The shortest decimal form of a finite number: the fewest significant digits that read back as
the same number, and of two such forms the nearer one. -/
namespace Reckon.Binary64
attribute [local instance (2000)] instPowNat

/-- A natural number times a power of ten. -/
structure Scientific where
  coefficient : Nat
  exponent : Int
  deriving DecidableEq, Repr

/-- Without the zeros that end the coefficient; zero is `0 * 10 ^ 0`. -/
def Scientific.trim (s : Scientific) : Scientific :=
  if s.coefficient = 0 then ⟨0, 0⟩
  else
    let zeros := Digits.trailingZeros s.coefficient
    ⟨s.coefficient / 10 ^ zeros, s.exponent + zeros⟩

/-- The exact decimal expansion of `significand * 2 ^ exponent`, without a power of ten when it
is whole. -/
def expansion (significand : Nat) (exponent : Int) : Scientific :=
  let denominator := 2 ^ (-exponent).toNat
  let common := Nat.gcd significand denominator
  let places := (denominator / common).log2
  ⟨significand * 2 ^ exponent.toNat / common * 5 ^ places, -(places : Int)⟩

/-- The exponent of the greatest power of ten up to `num / den`. -/
def decade (num den : Nat) : Int :=
  let guess : Int := Digits.width num - Digits.width den
  if den * 10 ^ guess.toNat ≤ num * 10 ^ (-guess).toNat then guess else guess - 1

/-- The form with its last digit at `10 ^ place` that reads back as `x`. Only the two neighbours
of the exact value `num / den` can do so; a tie between them goes to the even digit. -/
def atPlace (x : Binary64) (num den : Nat) (place : Int) : Option Scientific :=
  let numerator := num * 10 ^ (-place).toNat
  let denominator := den * 10 ^ place.toNat
  let below := numerator / denominator
  let remainder := numerator % denominator
  let reads (n : Nat) : Bool := ofScientific false n place = x
  let upper : Bool := denominator < 2 * remainder ||
    2 * remainder == denominator && below % 2 == 1
  match reads below, reads (below + 1) with
  | true, true => some ⟨if upper then below + 1 else below, place⟩
  | true, false => some ⟨below, place⟩
  | false, true => some ⟨below + 1, place⟩
  | false, false => none

/-- Tries one digit, then two, and so on; the exact expansion ends the search. -/
def shortest (significand : Nat) (exponent : Int) : Scientific :=
  let exact := expansion significand exponent
  if significand = 0 then exact
  else
    let x := ofDyadic false significand exponent
    let num := significand * 2 ^ exponent.toNat
    let den := 2 ^ (-exponent).toNat
    let top := decade num den
    let found := (List.range (Digits.width exact.coefficient)).findSome? fun digits : Nat =>
      atPlace x num den (top - digits)
    (found.getD exact).trim

end Reckon.Binary64

import Reckon.Proofs.Containment
import Reckon.Proofs.Magnitude

/-! The kinds of results. Which kind an operation gives depends on the kinds of its operands alone,
and under a precision so does everything else, so a tree shows the kind of its result before it is
reduced. Without one no fixed decimal arises. -/
namespace Reckon

inductive Value.Kind where
  | integer | float | fixed
  deriving DecidableEq

def Value.kind : Value → Value.Kind
  | .integer _ => .integer
  | .float _ => .float
  | .fixed .. => .fixed

namespace Value.Kind

/-- The kind of sums, differences and products. -/
def sum : Kind → Kind → Kind
  | .integer, .integer => .integer
  | .fixed, _ => .fixed
  | _, .fixed => .fixed
  | _, _ => .float

/-- Integers are no exception here. -/
def quotient : Kind → Kind → Kind
  | .fixed, _ => .fixed
  | _, .fixed => .fixed
  | _, _ => .float

end Value.Kind

/-- The kind of the result under a precision. A power is newly made a value, like all that is not
one of the four basic operations. -/
def Operator.kind : Operator → Value.Kind → Value.Kind → Value.Kind
  | .add | .sub | .mul => .sum
  | .div => .quotient
  | .pow | .other _ => fun _ _ => .fixed

/-- The kind that the tree comes to under a precision. A literal is an integer or a decimal one, and
decimal literals are fixed decimals, like everything that is newly made a value. -/
def Expr.kind : Expr → Value.Kind
  | .value (.integer _) => .integer
  | .binary operator left right => operator.kind left.kind right.kind
  | _ => .fixed

/-- The result of such a tree is newly made a value. -/
def Expr.makes : Expr → Bool
  | .magnitude _ | .constant _ | .unary .. | .function .. => true
  | _ => false

theorem Expr.kind_of_makes {tree : Expr} (makes : tree.makes = true) : tree.kind = .fixed := by
  cases tree <;> first | rfl | cases makes

/-- Finite decimals have at most so many significant digits or end at that fraction digit. -/
def Decimal.Tidy (digits : Int) : Decimal → Prop
  | .finite _ coefficient exponent => Digits.width coefficient ≤ digits ∨ exponent = -digits
  | _ => True

/-- Fixed decimals carry the precision and keep to its digits. -/
def Value.Tidy (digits : Int) : Value → Prop
  | .fixed number tag => tag = digits ∧ number.Tidy digits
  | _ => True

namespace Decimal
attribute [local instance (2000)] instPowNat
open Digits (width)

variable {digits place : Int} {working : Nat}

theorem ten_pow_pred {extra : Nat} (given : extra ≠ 0) : 10 * 10 ^ (extra - 1) = 10 ^ extra := by
  rw [Nat.mul_comm, ← Nat.pow_succ]
  congr 1
  omega

/-- A number that is rounded to so many digits may reach the next power of ten, and no more. -/
theorem halfUp_le (extra : width n - precision ≠ 0) :
    (n + 5 * 10 ^ (width n - precision - 1)) / 10 ^ (width n - precision) ≤ 10 ^ precision := by
  have below : n < 10 ^ width n := (Digits.width_le_iff (Digits.width_pos n)).1 (Nat.le_refl _)
  have scale : 10 ^ width n = 10 ^ precision * 10 ^ (width n - precision) := by
    rw [← Nat.pow_add]
    congr 1
    omega
  have half := ten_pow_pred extra
  have positive : 0 < 10 ^ (width n - precision) := Nat.pow_pos (by decide)
  rw [← Nat.lt_add_one_iff, Nat.div_lt_iff_lt_mul positive, Nat.add_mul, Nat.one_mul, ← scale]
  omega

theorem halfUp_tidy (positive : 1 ≤ digits) (negative : Bool) (coefficient : Nat)
    (exponent : Int) : (halfUp digits.toNat negative coefficient exponent).Tidy digits := by
  simp only [halfUp]
  split
  case isTrue none =>
    simp only [Tidy]
    omega
  case isFalse extra =>
    have most := halfUp_le extra
    split
    case isTrue =>
      -- Rounded up to the next power of ten, it has one digit too many and gives up its zero.
      have room : 0 < digits.toNat := by omega
      have fewer := (Nat.div_le_div_right (c := 10) most).trans_lt
        (Nat.div_lt_self (Nat.pow_pos (by decide)) (by decide))
      have few := (Digits.width_le_iff room).2 fewer
      simp only [Tidy]
      omega
    case isFalse few =>
      simp only [Tidy]
      omega

theorem rounded_tidy (positive : 1 ≤ digits) (x : Binary64) :
    (rounded digits.toNat x).Tidy digits := by
  cases x with
  | finite => exact halfUp_tidy positive ..
  | infinite | nan => trivial

theorem quantize_place (cut : quantize precision place x = .ok (.finite negative n e)) :
    e = place := by
  cases x with
  | finite sign m f =>
    simp only [quantize, nanResult?, Option.getD_none] at cut
    split at cut
    · cases cut
    · split at cut
      · cases cut
        rfl
      · split at cut
        · cases cut
        · split at cut <;> cases cut
          rfl
  | infinite sign => cases cut
  | nan sign signaling payload => cases signaling <;> cases cut

theorem truncate_tidy (positive : 1 ≤ digits) (enough : digits ≤ working)
    (cut : truncate working digits x = .ok z) : z.Tidy digits := by
  rw [truncate, fractionPlace_ok positive enough, ok_bind] at cut
  cases z with
  | finite => exact .inr (quantize_place cut)
  | infinite | nan => trivial

end Decimal

theorem Precision.check_eq (checked : check digits = .ok places) : (places : Int) = digits := by
  simp only [check] at checked
  split at checked
  · cases checked
  · split at checked
    case isTrue => cases checked
    case isFalse within =>
      cases checked
      simp only [Bool.or_eq_true, decide_eq_true_eq] at within
      omega

namespace Operation

variable {a b : Value}

theorem span_nonneg (x : Decimal) : 0 ≤ span x := by
  simp only [span]
  split <;> omega

theorem exactDigits_ge (digits : Int) (x y : Decimal) : digits ≤ exactDigits (some digits) x y := by
  have := span_nonneg x
  have := span_nonneg y
  have : guardDigits = 28 := rfl
  simp only [exactDigits, Option.getD_some]
  omega

theorem quotientDigits_ge (digits : Int) (x y : Decimal) :
    digits ≤ quotientDigits (some digits) x y := by
  have : guardDigits = 28 := rfl
  simp only [quotientDigits, Option.getD_some]
  omega

theorem decimals_kind (covered : decimals perform working precision a b = some (.ok v)) :
    v.kind = .fixed := by
  simp only [decimals, Option.map_eq_some_iff, bind_eq_ok, pure_eq_ok] at covered
  obtain ⟨digits, _, places, _, z, _, rfl⟩ := covered
  rfl

theorem floats_kind (precision : Precision)
    (covered : floats perform precision a b = some (.ok v)) : v.kind = .float := by
  simp only [floats, Option.some.injEq, bind_eq_ok, pure_eq_ok] at covered
  obtain ⟨x, _, y, _, z, _, rfl⟩ := covered
  rfl

/-- The digits to work with include those to keep, so a fixed result ends with them. -/
theorem decimals_tidy (positive : 1 ≤ digits)
    (enough : ∀ x y, digits ≤ working (some digits) x y) (first : a.Tidy digits)
    (second : b.Tidy digits) (covered : decimals perform working (some digits) a b = some (.ok v)) :
    v.Tidy digits := by
  simp only [decimals, Option.map_eq_some_iff, bind_eq_ok, pure_eq_ok, mapError_eq_ok] at covered
  obtain ⟨tag, tagged, places, checked, z, ⟨result, _, done⟩, rfl⟩ := covered
  have room := enough a.toDecimal b.toDecimal
  rw [← Precision.check_eq checked] at room
  refine ⟨?_, Decimal.truncate_tidy positive room done⟩
  cases a <;> cases b <;> cases tagged
  case fixed.integer | fixed.float => exact first.1
  case integer.fixed | float.fixed | fixed.fixed => exact second.1

end Operation

namespace Evaluation
open Operation

variable {a b : Value}

theorem combine_ok (given : combine rules name precision a b = .ok v) :
    result? rules precision a b = some (.ok v) := by
  simp only [combine] at given
  split at given
  case h_1 result covered => rw [covered, mapError_eq_ok.1 given]
  case h_2 => cases given

/-- The first rule that covers the operands is the one for their kinds. -/
theorem combine_cases (given : combine [words onWords, decimals perform working, floats onFloats]
      name precision a b = .ok v) :
    v.kind = .integer ∧ a.kind.sum b.kind = .integer ∨
      decimals perform working precision a b = some (.ok v) ∧ a.kind.sum b.kind = .fixed ∨
      v.kind = .float ∧ a.kind.sum b.kind = .float := by
  have covered := combine_ok given
  cases a <;> cases b
  case integer.integer =>
    cases covered
    exact .inl ⟨rfl, rfl⟩
  case integer.float | float.integer | float.float =>
    exact .inr (.inr ⟨floats_kind precision covered, rfl⟩)
  all_goals exact .inr (.inl ⟨covered, rfl⟩)

theorem combine_quotient_cases (given : combine [decimals perform working, floats onFloats]
      name precision a b = .ok v) :
    decimals perform working precision a b = some (.ok v) ∧ a.kind.quotient b.kind = .fixed ∨
      v.kind = .float ∧ a.kind.quotient b.kind = .float := by
  have covered := combine_ok given
  cases a <;> cases b
  case integer.integer | integer.float | float.integer | float.float =>
    exact .inr ⟨floats_kind precision covered, rfl⟩
  all_goals exact .inl ⟨covered, rfl⟩

theorem divide_ok (given : divide precision a b = .ok v) :
    combine division "Division" precision a b = .ok v := by
  simp only [divide] at given
  split at given
  case h_1 | h_2 => cases given
  case h_3 => exact given

theorem combine_kind (given : combine [words onWords, decimals perform working, floats onFloats]
    name precision a b = .ok v) : v.kind = a.kind.sum b.kind := by
  rcases combine_cases given with ⟨kind, same⟩ | ⟨covered, same⟩ | ⟨kind, same⟩
  · exact kind.trans same.symm
  · exact (decimals_kind covered).trans same.symm
  · exact kind.trans same.symm

theorem divide_kind (given : divide precision a b = .ok v) :
    v.kind = a.kind.quotient b.kind := by
  rcases combine_quotient_cases (divide_ok given) with ⟨covered, same⟩ | ⟨kind, same⟩
  · exact (decimals_kind covered).trans same.symm
  · exact kind.trans same.symm

theorem power_made (given : combine exponentiation name precision a b = .ok v) :
    ∃ x, Value.ofBinary precision x = .ok v := by
  have covered := combine_ok given
  simp only [result?, exponentiation, List.findSome?, Option.some.injEq, bind_eq_ok] at covered
  obtain ⟨x, _, y, _, z, _, made⟩ := covered
  exact ⟨z, made⟩

theorem applyBuiltin_made (given : applyBuiltin precision name result = .ok v) :
    ∃ x, Value.ofBinary precision x = .ok v := by
  simp only [applyBuiltin, bind_eq_ok, box, mapError_eq_ok] at given
  obtain ⟨x, _, made⟩ := given
  exact ⟨x, made⟩

theorem call_made (given : call precision name arguments = .ok v) :
    ∃ x, Value.ofBinary precision x = .ok v := by
  simp only [call] at given
  split at given
  · cases given
  · split at given
    · exact applyBuiltin_made given
    · exact applyBuiltin_made given
    · cases given

/-- What literals have, operators keep and newly made values have, every result has. -/
theorem evaluate_keeps {leaf : Value → Prop} {good : Expr → Value → Prop}
    (literals : ∀ v, leaf v → good (.value v) v)
    (operated : ∀ operator left right a b v, good left a → good right b →
      operate precision a b operator = .ok v → good (.binary operator left right) v)
    (made : ∀ tree x v, tree.makes = true → Value.ofBinary precision x = .ok v → good tree v)
    (leaves : ∀ v, .value v ∈ tree.parts → leaf v) (given : evaluate precision tree = .ok v) :
    good tree v := by
  induction tree generalizing v with
  | value w =>
    cases given
    exact literals w (leaves w (by simp [Expr.parts]))
  | binary operator left right first second =>
    simp only [evaluate, bind_eq_ok] at given
    obtain ⟨a, one, b, two, given⟩ := given
    have first := first (fun w member => leaves w (by simp [Expr.parts, member])) one
    have second := second (fun w member => leaves w (by simp [Expr.parts, member])) two
    exact operated operator left right a b v first second given
  | magnitude operand =>
    simp only [evaluate, bind_eq_ok, box, mapError_eq_ok] at given
    obtain ⟨_, _, x, _, given⟩ := given
    exact made _ _ v rfl given
  | constant name =>
    simp only [evaluate] at given
    split at given
    · exact made _ _ v rfl (mapError_eq_ok.1 given)
    · cases given
  | unary name argument =>
    simp only [evaluate, bind_eq_ok] at given
    obtain ⟨_, _, given⟩ := given
    obtain ⟨x, given⟩ := call_made given
    exact made _ x v rfl given
  | function name first second =>
    simp only [evaluate, bind_eq_ok] at given
    obtain ⟨_, _, _, _, given⟩ := given
    obtain ⟨x, given⟩ := call_made given
    exact made _ x v rfl given
  | unparsed text => cases given

/-- A value of the kind that the tree shows, in the form that the precision gives it. -/
structure Formed (digits : Int) (tree : Expr) (v : Value) : Prop where
  kind : v.kind = tree.kind
  tidy : v.Tidy digits

theorem tidy_of_kind {v : Value} (other : v.kind ≠ .fixed) : v.Tidy digits := by
  cases v with
  | integer | float => trivial
  | fixed => exact absurd rfl other

theorem ofBinary_formed (positive : 1 ≤ digits)
    (made : Value.ofBinary (some digits) x = .ok v) : v.kind = .fixed ∧ v.Tidy digits := by
  simp only [Value.ofBinary, Value.fixedOf, bind_eq_ok, pure_eq_ok] at made
  obtain ⟨places, checked, rfl⟩ := made
  have same : places = digits.toNat := by
    have := Precision.check_eq checked
    omega
  exact ⟨rfl, rfl, same ▸ Decimal.rounded_tidy positive x⟩

theorem sum_tidy (positive : 1 ≤ digits) (first : a.Tidy digits) (second : b.Tidy digits)
    (given : combine [words onWords, decimals perform exactDigits, floats onFloats]
      name (some digits) a b = .ok v) : v.Tidy digits := by
  rcases combine_cases given with ⟨kind, _⟩ | ⟨covered, _⟩ | ⟨kind, _⟩
  · exact tidy_of_kind (by simp [kind])
  · exact decimals_tidy positive (exactDigits_ge digits) first second covered
  · exact tidy_of_kind (by simp [kind])

theorem quotient_tidy (positive : 1 ≤ digits) (first : a.Tidy digits) (second : b.Tidy digits)
    (given : divide (some digits) a b = .ok v) : v.Tidy digits := by
  rcases combine_quotient_cases (divide_ok given) with ⟨covered, _⟩ | ⟨kind, _⟩
  · exact decimals_tidy positive (quotientDigits_ge digits) first second covered
  · exact tidy_of_kind (by simp [kind])

theorem operate_formed (positive : 1 ≤ digits) (first : a.Tidy digits) (second : b.Tidy digits)
    (given : operate (some digits) a b operator = .ok v) :
    v.kind = operator.kind a.kind b.kind ∧ v.Tidy digits := by
  cases operator with
  | add | sub | mul => exact ⟨combine_kind given, sum_tidy positive first second given⟩
  | div => exact ⟨divide_kind given, quotient_tidy positive first second given⟩
  | pow =>
    obtain ⟨x, made⟩ := power_made given
    exact ofBinary_formed positive made
  | other => cases given

theorem evaluate_formed (positive : 1 ≤ digits)
    (built : tree.Built fun v => Formed digits (.value v) v)
    (given : evaluate (some digits) tree = .ok v) : Formed digits tree v := by
  refine evaluate_keeps (fun _ formed => formed) ?_ ?_ (fun _ => built.leaf) given
  · intro operator left right a b v first second given
    obtain ⟨kind, tidy⟩ := operate_formed positive first.tidy second.tidy given
    exact ⟨by rw [kind, first.kind, second.kind, Expr.kind], tidy⟩
  · intro tree x v makes made
    obtain ⟨kind, tidy⟩ := ofBinary_formed positive made
    exact ⟨kind.trans (Expr.kind_of_makes makes).symm, tidy⟩

/-- Without a precision: a value that is no fixed decimal, and of a division a floating-point
number. -/
structure Unfixed (tree : Expr) (v : Value) : Prop where
  other : v.kind ≠ .fixed
  quotient : ∀ left right, tree = .binary .div left right → v.kind = .float

theorem ofBinary_unfixed (made : Value.ofBinary none x = .ok v) : v.kind ≠ .fixed := by
  cases whole : x.toInt? with
  | none =>
    simp only [Value.ofBinary, whole, Except.ok.injEq] at made
    simp [← made, Value.kind]
  | some n =>
    simp only [Value.ofBinary, whole, Except.ok.injEq] at made
    cases fits : Word.fits n <;> simp [← made, fits, Value.kind]

theorem operate_unfixed (first : a.kind ≠ .fixed) (second : b.kind ≠ .fixed)
    (given : operate none a b operator = .ok v) :
    v.kind ≠ .fixed ∧ (operator = .div → v.kind = .float) := by
  cases operator with
  | add | sub | mul =>
    have kind := combine_kind given
    refine ⟨?_, nofun⟩
    revert first second kind
    cases a.kind <;> cases b.kind <;> simp +contextual [Value.Kind.sum]
  | div =>
    have kind := divide_kind given
    revert first second kind
    cases a.kind <;> cases b.kind <;> simp +contextual [Value.Kind.quotient]
  | pow =>
    obtain ⟨x, made⟩ := power_made given
    exact ⟨ofBinary_unfixed made, nofun⟩
  | other => cases given

theorem evaluate_unfixed (built : tree.Built fun v => v.kind ≠ .fixed)
    (given : evaluate none tree = .ok v) : Unfixed tree v := by
  refine evaluate_keeps (fun _ other => ⟨other, nofun⟩) ?_ ?_ (fun _ => built.leaf) given
  · intro operator left right a b v first second given
    obtain ⟨other, quotient⟩ := operate_unfixed first.other second.other given
    exact ⟨other, fun _ _ same => quotient (Expr.binary.inj same).1⟩
  · intro tree x v makes made
    refine ⟨ofBinary_unfixed made, ?_⟩
    rintro _ _ rfl
    cases makes

end Evaluation

namespace Calculation
open Evaluation Grammar

theorem calculate_value (given : calculate precision code = .ok (some v)) :
    ∃ tokens tree, Token.tokenize 1 code = .ok tokens ∧
      Reading.read precision tokens = .ok [tree] ∧ evaluate precision tree = .ok v := by
  simp only [calculate, bind_eq_ok] at given
  obtain ⟨tokens, scanned, trees, read, given⟩ := given
  match trees with
  | [] => cases given
  | [tree] =>
    obtain ⟨_, evaluated, ⟨⟩⟩ := map_eq_ok.1 given
    exact ⟨tokens, tree, scanned, read, evaluated⟩
  | _ :: _ :: _ => cases given

/-- The trees of a line have the literals that their tokens denote. -/
theorem read_leaves (leaf : Value → Prop) (valid : precision.Valid) (zero : leaf (.integer 0))
    (literals : ∀ token v, Token.Settled token → Denotes precision token v → leaf v)
    (scanned : Token.tokenize line code = .ok tokens)
    (read : Reading.read precision tokens = .ok trees) : ∀ tree ∈ trees, tree.Built leaf := by
  have settled := Token.tokenize_settled scanned
  obtain ⟨pieces, split, rfl⟩ := (Reading.read_ok_iff valid settled).1 read
  have built := split.built zero fun token member v => literals token v (settled token member)
  simpa using fun tree stretch member => built (stretch, tree) member

theorem read_literals (leaf : Value → Prop) (valid : precision.Valid) (zero : leaf (.integer 0))
    (literals : ∀ token v, Denotes precision token v → leaf v)
    (scanned : Token.tokenize line code = .ok tokens)
    (read : Reading.read precision tokens = .ok trees) : ∀ tree ∈ trees, tree.Built leaf :=
  read_leaves leaf valid zero (fun token v _ => literals token v) scanned read

/-- Under a precision the tree of a line shows the kind of its value, and a fixed decimal has the
form that the precision gives it. Without one there is no fixed decimal in any tree and none is
computed, and every quotient is a floating-point number. -/
theorem calculate_kind :
    (∀ digits code v, 1 ≤ digits → digits ≤ Precision.greatest →
      calculate (some digits) code = .ok (some v) →
      ∃ tokens tree, Token.tokenize 1 code = .ok tokens ∧
        Reading.read (some digits) tokens = .ok [tree] ∧ v.kind = tree.kind ∧ v.Tidy digits) ∧
    ∀ code tokens trees, Token.tokenize 1 code = .ok tokens →
      Reading.read none tokens = .ok trees → ∀ tree ∈ trees, ∀ part ∈ tree.parts,
        (∀ v, part = .value v → v.kind ≠ .fixed) ∧
        ∀ v, evaluate none part = .ok v →
          v.kind ≠ .fixed ∧ ∀ left right, part = .binary .div left right → v.kind = .float := by
  constructor
  · intro digits code v low high given
    obtain ⟨tokens, tree, scanned, read, evaluated⟩ := calculate_value given
    have valid := Precision.valid_some_iff.2 ⟨low, high⟩
    have built := read_literals (fun v => Formed digits (.value v) v) valid
      ⟨rfl, trivial⟩ ?_ scanned read tree (by simp)
    · have formed := evaluate_formed low built evaluated
      exact ⟨tokens, tree, scanned, read, formed.kind, formed.tidy⟩
    · rintro token v (_ | _ | _)
      · exact ⟨rfl, trivial⟩
      · exact ⟨rfl, rfl, Decimal.rounded_tidy low _⟩
  · intro code tokens trees scanned read tree member part within
    -- The parts of a tree are trees of the same literals, so they all are like the tree.
    have built := read_literals (fun v => v.kind ≠ .fixed) Precision.valid_none nofun
      (by rintro token v (_ | _) <;> nofun) scanned read tree member
    have built := built.part part within
    constructor
    · rintro v rfl
      cases built with
      | value other => exact other
    · intro v evaluated
      have unfixed := evaluate_unfixed built evaluated
      exact ⟨unfixed.other, unfixed.quotient⟩

def threeHalves : Binary64 := .finite false 0x18000000000000 (-52) (by decide)

def sumTokens : List Token := [
  ⟨.decimal, "1.5", 1, 0, true⟩, ⟨.plus, "+", 1, 4, true⟩, ⟨.integer, "2", 1, 6, true⟩]

def sumTree : Expr :=
  .binary .add (.value (.fixed (.rounded 3 threeHalves) 3)) (.value (.integer 2))

def ratioTokens : List Token := [
  ⟨.integer, "4", 1, 0, true⟩, ⟨.slash, "/", 1, 2, true⟩, ⟨.integer, "2", 1, 4, true⟩]

def ratioTree : Expr := .binary .div (.value (.integer 4)) (.value (.integer 2))

theorem read_sum : Token.tokenize 1 "1.5 + 2" = .ok sumTokens ∧
    Reading.read (some 3) sumTokens = .ok [sumTree] := by
  have scanned : Token.tokenize 1 "1.5 + 2" = .ok sumTokens :=
    eq_ok_of_toOption (by decide +kernel)
  have first : Denotes (some 3) ⟨.decimal, "1.5", 1, 0, true⟩
      (.fixed (.rounded 3 threeHalves) 3) :=
    .fixed rfl (eq_ok_of_toOption (by decide +kernel))
  have second : Denotes (some 3) ⟨.integer, "2", 1, 6, true⟩ (.integer 2) :=
    .integer rfl (eq_ok_of_toOption (by decide +kernel))
  have valid : Precision.Valid (some 3) := Precision.valid_some_iff.2 (by decide)
  have settled := Token.tokenize_settled scanned
  exact ⟨scanned, Reading.read_operation valid settled first (by decide) second⟩

theorem read_ratio : Token.tokenize 1 "4 / 2" = .ok ratioTokens ∧
    Reading.read none ratioTokens = .ok [ratioTree] := by
  have scanned : Token.tokenize 1 "4 / 2" = .ok ratioTokens :=
    eq_ok_of_toOption (by decide +kernel)
  have first : Denotes none ⟨.integer, "4", 1, 0, true⟩ (.integer 4) :=
    .integer rfl (eq_ok_of_toOption (by decide +kernel))
  have second : Denotes none ⟨.integer, "2", 1, 4, true⟩ (.integer 2) :=
    .integer rfl (eq_ok_of_toOption (by decide +kernel))
  have settled := Token.tokenize_settled scanned
  exact ⟨scanned, Reading.read_operation Precision.valid_none settled first (by decide) second⟩

/-- A sum with a decimal literal is a fixed decimal of three fraction digits, and a quotient of
integers is no integer even where it is whole. -/
theorem calculate_kind_sum :
    calculate (some 3) "1.5 + 2" = .ok (some (.fixed (.finite false 3500 (-3)) 3)) ∧
    (Value.fixed (.finite false 3500 (-3)) 3).Tidy 3 ∧
    evaluate none ratioTree = .ok (.float (.ofInt 2)) ∧
    (Value.float (.ofInt 2)).kind = .float := by
  obtain ⟨scanned, read⟩ := read_sum
  obtain ⟨scanned', read'⟩ := read_ratio
  have sum : evaluate (some 3) sumTree = .ok (.fixed (.finite false 3500 (-3)) 3) :=
    eq_ok_of_toOption (by decide +kernel)
  have calculated : calculate (some 3) "1.5 + 2" =
      .ok (some (.fixed (.finite false 3500 (-3)) 3)) := by
    simp [calculate, scanned, read, only, sum]
  have ratio : evaluate none ratioTree = .ok (.float (.ofInt 2)) :=
    eq_ok_of_toOption (by decide +kernel)
  obtain ⟨_, _, _, _, _, tidy⟩ := calculate_kind.1 3 _ _ (by decide) (by decide) calculated
  have unfixed := calculate_kind.2 _ _ _ scanned' read' ratioTree (by simp) ratioTree
    (by simp [ratioTree, Expr.parts])
  exact ⟨calculated, tidy, ratio, (unfixed.2 _ ratio).2 _ _ rfl⟩

end Calculation
end Reckon

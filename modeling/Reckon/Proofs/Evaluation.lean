import Reckon.Expr.Evaluation
import Reckon.Proofs.Binary64
import Reckon.Proofs.Tree

/-! How evaluation ends. What fails inside a rule or a function is reported under its name; only a
number that has to be made a value outside of one can end evaluation with a fault, and only when
the precision in force cannot make it. -/
namespace Reckon

namespace Value

theorem Sound.toBinary (sound : Sound v) : ∃ x, v.toBinary = .ok x := by
  cases v with
  | integer n => exact ⟨.ofInt n, by simp [Value.toBinary, Binary64.ofInt_finite sound]⟩
  | float x => exact ⟨x, rfl⟩
  | fixed number digits =>
    obtain ⟨x, made⟩ := Decimal.Quiet.toBinary? sound
    exact ⟨x, by simp [Value.toBinary, made]⟩

theorem Sound.toDecimal (sound : Sound v) : v.toDecimal.Quiet := by
  cases v with
  | integer n => trivial
  | float x => exact Decimal.written_quiet x
  | fixed number digits => exact sound

theorem Sound.isZero (sound : Sound v) : ∃ zero, v.isZero = .ok zero := by
  cases v with
  | integer n => exact ⟨_, rfl⟩
  | float x => exact ⟨_, rfl⟩
  | fixed number digits =>
    cases number with
    | finite negative coefficient exponent => exact ⟨_, rfl⟩
    | infinite negative => exact ⟨_, rfl⟩
    | nan negative signaling payload =>
      obtain rfl : signaling = false := sound
      exact ⟨_, rfl⟩

theorem ofBinary_valid (valid : precision.Valid) (x : Binary64) :
    ∃ v, ofBinary precision x = .ok v ∧ v.Sound := by
  cases precision with
  | some digits =>
    obtain ⟨low, high⟩ := valid digits rfl
    exact ⟨_, fixedOf_ok low high x, Decimal.rounded_quiet digits.toNat x⟩
  | none =>
    cases whole : x.toInt? with
    | none => exact ⟨.float x, by simp [ofBinary, whole], trivial⟩
    | some n =>
      by_cases fits : Word.fits n = true
      · exact ⟨.integer n, by simp [ofBinary, whole, fits], fits⟩
      · exact ⟨.float x, by simp [ofBinary, whole, fits], trivial⟩

theorem ofBinary_refused (invalid : ¬ precision.Valid) (x : Binary64) :
    ofBinary precision x = .error precision.refusal := by
  cases precision with
  | none => exact absurd Precision.valid_none invalid
  | some digits => simp [ofBinary, fixedOf, Precision.check_refused invalid]

theorem ofBinary_sound (made : ofBinary precision x = .ok v) : v.Sound := by
  by_cases valid : precision.Valid
  · obtain ⟨w, same, sound⟩ := ofBinary_valid valid x
    rw [same] at made
    cases made
    exact sound
  · rw [ofBinary_refused valid] at made
    cases made

end Value

namespace Operation

/-- Sound operands have a sound result, if the rule covers them and gives one. -/
def Keeps (rule : Rule) : Prop :=
  ∀ {precision a b v}, a.Sound → b.Sound → rule precision a b = some (.ok v) → v.Sound

theorem words_keep (perform : Int → Int → Int) : Keeps (words perform) := by
  intro _ a b v _ _ covered
  cases a <;> cases b <;> simp only [words, reduceCtorEq, Option.some.injEq] at covered
  cases covered
  exact Word.wrap_fits _

theorem cut_quiet (quiet : Decimal.Quiet x) (done : cut working precision x = .ok z) :
    z.Quiet := by
  cases precision with
  | none =>
    cases done
    exact quiet
  | some digits => exact Decimal.truncate_quiet done

theorem decimals_keep
    (quiet : ∀ {places x y z}, x.Quiet → y.Quiet → perform places x y = .ok z → z.Quiet)
    (working : Precision → Decimal → Decimal → Int) : Keeps (decimals perform working) := by
  intro precision a b v first second covered
  simp only [decimals, Option.map_eq_some_iff, bind_eq_ok, mapError_eq_ok, pure_eq_ok] at covered
  obtain ⟨digits, _, places, _, z, ⟨result, performed, done⟩, rfl⟩ := covered
  exact cut_quiet (quiet first.toDecimal second.toDecimal performed) done

theorem floats_keep (perform : Binary64 → Binary64 → Except Fault Binary64) :
    Keeps (floats perform) := by
  intro precision a b v _ _ covered
  simp only [floats, Option.some.injEq, bind_eq_ok, pure_eq_ok] at covered
  obtain ⟨_, _, _, _, _, _, rfl⟩ := covered
  trivial

theorem addition_keeps : ∀ rule ∈ addition, Keeps rule := by
  simp only [addition, List.forall_mem_cons]
  exact ⟨words_keep _, decimals_keep (fun _ => Decimal.add_quiet) _, floats_keep _,
    List.forall_mem_nil _⟩

theorem subtraction_keeps : ∀ rule ∈ subtraction, Keeps rule := by
  simp only [subtraction, List.forall_mem_cons]
  exact ⟨words_keep _, decimals_keep (fun _ => Decimal.sub_quiet) _, floats_keep _,
    List.forall_mem_nil _⟩

theorem multiplication_keeps : ∀ rule ∈ multiplication, Keeps rule := by
  simp only [multiplication, List.forall_mem_cons]
  exact ⟨words_keep _, decimals_keep (fun x _ => Decimal.mul_quiet x) _, floats_keep _,
    List.forall_mem_nil _⟩

theorem division_keeps : ∀ rule ∈ division, Keeps rule := by
  simp only [division, List.forall_mem_cons]
  exact ⟨decimals_keep (fun x _ => Decimal.div_quiet x) _, floats_keep _,
    List.forall_mem_nil _⟩

theorem exponentiation_keeps : ∀ rule ∈ exponentiation, Keeps rule := by
  simp only [exponentiation, List.forall_mem_cons]
  refine ⟨?_, List.forall_mem_nil _⟩
  intro precision a b v _ _ covered
  simp only [Option.some.injEq, bind_eq_ok] at covered
  obtain ⟨_, _, _, _, _, _, made⟩ := covered
  exact Value.ofBinary_sound made

end Operation

namespace Evaluation
open Operation

/-- How a computation may end: with a sound value, with a reported error, or, where it comes to
making a number a value and the precision cannot, with the refusal of the precision. -/
inductive Accounted (precision : Precision) (boxes : Prop) : Except Failure Value → Prop where
  | value : (boxes → precision.Valid) → v.Sound → Accounted precision boxes (.ok v)
  | reported : (boxes → precision.Valid) → Accounted precision boxes (.error (.evaluation e))
  | refused : boxes → ¬ precision.Valid →
      Accounted precision boxes (.error (.fault precision.refusal))

variable {precision : Precision}

/-- Computations in sequence: the second starts from the value of the first. -/
theorem Accounted.bind {next : Value → Except Failure Value} {later : Value → Prop}
    (first : Accounted precision boxes x)
    (second : ∀ v, x = .ok v → v.Sound → Accounted precision (later v) (next v)) :
    Accounted precision (boxes ∨ ∃ v, x = .ok v ∧ later v) (x >>= next) := by
  cases first with
  | @value v clear sound =>
    have after : (later v → precision.Valid) →
        boxes ∨ (∃ w, Except.ok v = (.ok w : Except Failure Value) ∧ later w) →
          precision.Valid := by
      rintro clear' (here | ⟨_, ⟨⟩, there⟩)
      · exact clear here
      · exact clear' there
    have result := second v rfl sound
    rw [ok_bind]
    generalize next v = y at result ⊢
    cases result with
    | value clear' sound' => exact .value (after clear') sound'
    | reported clear' => exact .reported (after clear')
    | refused there invalid => exact .refused (.inr ⟨v, rfl, there⟩) invalid
  | reported clear =>
    refine .reported ?_
    rintro (here | ⟨_, ⟨⟩, _⟩)
    exact clear here
  | refused here invalid => exact .refused (.inl here) invalid

theorem box_accounted (precision : Precision) (x : Binary64) :
    Accounted precision True (box precision x) := by
  simp only [box]
  by_cases valid : precision.Valid
  · obtain ⟨v, made, sound⟩ := Value.ofBinary_valid valid x
    rw [made]
    exact .value (fun _ => valid) sound
  · rw [Value.ofBinary_refused valid]
    exact .refused trivial valid

theorem applyBuiltin_accounted (precision : Precision) (name : String)
    (result : Except Fault Binary64) :
    Accounted precision (∃ x, result = .ok x) (applyBuiltin precision name result) := by
  cases result with
  | error f => exact .reported (by simp)
  | ok x => simpa [applyBuiltin] using box_accounted precision x

/-- The arguments are ones for which the function gives a number. -/
inductive Computes : String → List Value → Prop where
  | unary : Builtin.function? name = some (.unary apply) → a.toBinary = .ok x →
      apply x = .ok y → Computes name [a]
  | binary : Builtin.function? name = some (.binary apply) → a.toBinary = .ok x →
      b.toBinary = .ok y → apply x y = .ok z → Computes name [a, b]

theorem computes_unary_iff (known : Builtin.function? name = some (.unary apply)) :
    Computes name [a] ↔ ∃ y, (do apply (← a.toBinary)) = .ok y := by
  simp only [bind_eq_ok]
  constructor
  · rintro ⟨known', made, applied⟩
    rw [known] at known'
    cases known'
    exact ⟨_, _, made, applied⟩
  · rintro ⟨y, x, made, applied⟩
    exact .unary known made applied

theorem computes_binary_iff (known : Builtin.function? name = some (.binary apply)) :
    Computes name [a, b] ↔
      ∃ z, (do let x ← a.toBinary; let y ← b.toBinary; apply x y) = .ok z := by
  simp only [bind_eq_ok]
  constructor
  · rintro (_ | ⟨known', first, second, applied⟩)
    rw [known] at known'
    cases known'
    exact ⟨_, _, first, _, second, applied⟩
  · rintro ⟨z, x, first, y, second, applied⟩
    exact .binary known first second applied

theorem call_accounted (precision : Precision) (name : String) (arguments : List Value) :
    Accounted precision (Computes name arguments) (call precision name arguments) := by
  simp only [call]
  cases known : Builtin.function? name with
  | none => exact .reported (by rintro (⟨found, _⟩ | ⟨found, _⟩) <;> simp [known] at found)
  | some builtin =>
    dsimp only
    split
    case h_1 apply a =>
      rw [computes_unary_iff known]
      exact applyBuiltin_accounted precision name _
    case h_2 apply a b =>
      rw [computes_binary_iff known]
      exact applyBuiltin_accounted precision name _
    case h_3 unlike unlike' =>
      refine .reported ?_
      rintro (⟨found, _⟩ | ⟨found, _⟩)
      · rw [known] at found
        cases found
        exact absurd rfl (unlike _ _ rfl)
      · rw [known] at found
        cases found
        exact absurd rfl (unlike' _ _ _ rfl)

theorem combine_accounted (keeps : ∀ rule ∈ rules, Keeps rule) (operation : String)
    (first : a.Sound) (second : b.Sound) :
    Accounted precision False (combine rules operation precision a b) := by
  simp only [combine]
  cases covered : result? rules precision a b with
  | none => exact .reported False.elim
  | some result =>
    cases result with
    | error f => exact .reported False.elim
    | ok v =>
      obtain ⟨rule, member, given⟩ := List.exists_of_findSome?_eq_some covered
      exact .value False.elim (keeps rule member first second given)

theorem divide_accounted (first : a.Sound) (second : b.Sound) :
    Accounted precision False (divide precision a b) := by
  obtain ⟨zero, compared⟩ := second.isZero
  simp only [divide, compared]
  cases zero with
  | true => exact .reported False.elim
  | false => exact combine_accounted division_keeps _ first second

theorem operate_accounted (operator : Operator) (first : a.Sound) (second : b.Sound) :
    Accounted precision False (operate precision a b operator) := by
  cases operator with
  | add => exact combine_accounted addition_keeps _ first second
  | sub => exact combine_accounted subtraction_keeps _ first second
  | mul => exact combine_accounted multiplication_keeps _ first second
  | div => exact divide_accounted first second
  | pow => exact combine_accounted exponentiation_keeps _ first second
  | other text => exact .reported False.elim

/-- Reducing the tree comes to a constant, an absolute value or the result of a function, and so to
a number that has to be made a value. -/
def Boxes (precision : Precision) : Expr → Prop
  | .value _ => False
  | .binary _ left right =>
    Boxes precision left ∨ ∃ a, evaluate precision left = .ok a ∧ Boxes precision right
  | .magnitude operand => Boxes precision operand ∨ ∃ v, evaluate precision operand = .ok v
  | .constant name => ∃ x, Builtin.constant? name = some x
  | .unary name argument =>
    Boxes precision argument ∨ ∃ v, evaluate precision argument = .ok v ∧ Computes name [v]
  | .function name first second =>
    Boxes precision first ∨ ∃ a, evaluate precision first = .ok a ∧
      (Boxes precision second ∨ ∃ b, evaluate precision second = .ok b ∧ Computes name [a, b])
  | .unparsed _ => False

theorem evaluate_accounted (precision : Precision) (built : tree.Built Value.Sound) :
    Accounted precision (Boxes precision tree) (evaluate precision tree) := by
  induction built with
  | value sound => exact .value False.elim sound
  | binary _ _ _ left right =>
    simp only [Boxes, evaluate]
    refine left.bind ?_
    intro a _ first
    simpa using right.bind fun b _ second => operate_accounted _ first second
  | @magnitude operand _ ih =>
    have boxed (v : Value) (_ : evaluate precision operand = .ok v) (sound : v.Sound) :
        Accounted precision True
          (do box precision (← v.toBinary.mapError .fault).magnitude) := by
      obtain ⟨x, made⟩ := sound.toBinary
      simpa [made] using box_accounted precision x.magnitude
    simpa [Boxes, evaluate] using ih.bind boxed
  | @constant _ name _ =>
    simp only [Boxes, evaluate]
    cases known : Builtin.constant? name with
    | none => exact .reported (by simp)
    | some x => simpa using box_accounted precision x
  | unary _ _ argument =>
    simp only [Boxes, evaluate]
    exact argument.bind fun v _ _ => call_accounted precision _ [v]
  | logarithm _ _ first second =>
    simp only [Boxes, evaluate]
    exact first.bind fun a _ _ => second.bind fun b _ _ => call_accounted precision _ [a, b]

end Evaluation
end Reckon

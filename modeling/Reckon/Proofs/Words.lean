import Reckon.Proofs.Kinds

/-! Integers stay words. Sums, differences and products of integers wrap, and a number that is newly
made a value becomes an integer only where it fits, so whatever a tree of words comes to, at any
part of it, is a word if it is an integer at all. -/
namespace Reckon

/-- An integer of this value is a word; other numbers have no bound. -/
def Value.InRange (v : Value) : Prop := ∀ n, v = .integer n → -2 ^ 31 ≤ n ∧ n < 2 ^ 31

namespace Value

theorem inRange_integer_iff : InRange (.integer n) ↔ Word.fits n = true := by
  simp only [InRange, Value.integer.injEq, forall_eq', Word.fits_iff, Word.bound]
  norm_num

theorem Sound.inRange (sound : Value.Sound v) : v.InRange := by
  rintro n rfl
  exact inRange_integer_iff.2 sound n rfl

theorem inRange_of_kind {v : Value} (other : v.kind ≠ .integer) : v.InRange := by
  rintro n rfl
  exact absurd rfl other

end Value

namespace Operation

/-- The rule has no integer beyond the words for a result. -/
def Wraps (rule : Rule) : Prop :=
  ∀ {precision a b v}, rule precision a b = some (.ok v) → v.InRange

theorem words_wrap (perform : Int → Int → Int) : Wraps (words perform) := by
  intro _ a b v covered
  cases a <;> cases b <;> simp only [words, reduceCtorEq, Option.some.injEq] at covered
  cases covered
  exact Value.inRange_integer_iff.2 (Word.wrap_fits _)

theorem decimals_wrap (perform : Nat → Decimal → Decimal → Except Decimal.Signal Decimal)
    (working : Precision → Decimal → Decimal → Int) : Wraps (decimals perform working) := by
  intro _ _ _ _ covered
  exact Value.inRange_of_kind (by simp [decimals_kind covered])

theorem floats_wrap (perform : Binary64 → Binary64 → Except Fault Binary64) :
    Wraps (floats perform) := by
  intro precision _ _ _ covered
  exact Value.inRange_of_kind (by simp [floats_kind precision covered])

end Operation

namespace Evaluation
open Operation

theorem combine_inRange (wraps : ∀ rule ∈ rules, Wraps rule)
    (given : combine rules name precision a b = .ok v) : v.InRange := by
  obtain ⟨rule, member, covered⟩ := List.exists_of_findSome?_eq_some (combine_ok given)
  exact wraps rule member covered

/-- What an operation gives is in range, whatever its operands are. -/
theorem operate_inRange (given : operate precision a b operator = .ok v) : v.InRange := by
  cases operator with
  | add | sub | mul =>
    refine combine_inRange ?_ given
    simp only [addition, subtraction, multiplication, List.forall_mem_cons]
    exact ⟨words_wrap _, decimals_wrap _ _, floats_wrap _, List.forall_mem_nil _⟩
  | div =>
    refine combine_inRange ?_ (divide_ok given)
    simp only [division, List.forall_mem_cons]
    exact ⟨decimals_wrap _ _, floats_wrap _, List.forall_mem_nil _⟩
  | pow =>
    obtain ⟨x, made⟩ := power_made given
    exact (Value.ofBinary_sound made).inRange
  | other => cases given

theorem evaluate_inRange (leaves : ∀ v, .value v ∈ tree.parts → v.InRange)
    (given : evaluate precision tree = .ok v) : v.InRange :=
  evaluate_keeps (fun _ inRange => inRange) (fun _ _ _ _ _ _ _ _ given => operate_inRange given)
    (fun _ _ _ _ made => (Value.ofBinary_sound made).inRange) leaves given

end Evaluation

namespace Expr

/-- What is inside a part is inside the whole. -/
theorem parts_trans {tree part inner : Expr} (within : part ∈ tree.parts)
    (deeper : inner ∈ part.parts) : inner ∈ tree.parts := by
  induction tree with
  | value | constant | unparsed =>
    obtain rfl := List.mem_singleton.1 within
    exact deeper
  | binary operator left right ih ih' | function name left right ih ih' =>
    simp only [parts, List.mem_cons, List.mem_append] at within ⊢
    rcases within with rfl | within | within
    · simpa [parts] using deeper
    · exact .inr (.inl (ih within))
    · exact .inr (.inr (ih' within))
  | magnitude operand ih | unary name operand ih =>
    simp only [parts, List.mem_cons] at within ⊢
    rcases within with rfl | within
    · simpa [parts] using deeper
    · exact .inr (ih within)

end Expr

namespace Evaluation

/-- If all integers in a tree are words, so is every integer that a part of it comes to, under any
precision; and the trees that are read have no other integers in them. -/
theorem evaluate_words :
    (∀ precision (tree : Expr), (∀ n, .value (.integer n) ∈ tree.parts → -2 ^ 31 ≤ n ∧ n < 2 ^ 31) →
      ∀ part ∈ tree.parts, ∀ n, evaluate precision part = .ok (.integer n) →
        -2 ^ 31 ≤ n ∧ n < 2 ^ 31) ∧
    ∀ precision line code tokens trees, Token.tokenize line code = .ok tokens →
      Reading.read precision tokens = .ok trees → ∀ tree ∈ trees, ∀ n,
        .value (.integer n) ∈ tree.parts → -2 ^ 31 ≤ n ∧ n < 2 ^ 31 := by
  constructor
  · intro precision tree words part within n given
    refine evaluate_inRange ?_ given n rfl
    rintro v member n rfl
    exact words n (Expr.parts_trans within member)
  · intro precision line code tokens trees scanned read tree member n within
    have built := Calculation.read_built scanned read tree member
    exact (built.leaf within).inRange n rfl

/-- The tree of `|-2147483648| - (-2147483648 - 1)`. -/
def lowest : Expr := .binary .sub (.magnitude (.value (.integer (-2147483648))))
  (.binary .sub (.value (.integer (-2147483648))) (.value (.integer 1)))

/-- The number above all words is no integer, and the one below them all wraps to the greatest. -/
theorem evaluate_words_lowest :
    (∀ n, .value (.integer n) ∈ lowest.parts → -2 ^ 31 ≤ n ∧ n < 2 ^ 31) ∧
    evaluate none lowest = .ok (.float .one) ∧
    evaluate none (.binary .sub (.value (.integer (-2147483648))) (.value (.integer 1))) =
      .ok (.integer 2147483647) ∧
    (-2 ^ 31 ≤ (2147483647 : Int) ∧ (2147483647 : Int) < 2 ^ 31) := by
  have words : ∀ n, .value (.integer n) ∈ lowest.parts → -2 ^ 31 ≤ n ∧ n < 2 ^ 31 := by
    intro n member
    simp only [lowest, Expr.parts, List.mem_cons, List.mem_append, reduceCtorEq, List.not_mem_nil,
      Expr.value.injEq, Value.integer.injEq, or_false, false_or] at member
    omega
  have whole : evaluate none lowest = .ok (.float .one) := eq_ok_of_toOption (by decide +kernel)
  have part : evaluate none (.binary .sub (.value (.integer (-2147483648)))
      (.value (.integer 1))) = .ok (.integer 2147483647) := eq_ok_of_toOption (by decide +kernel)
  exact ⟨words, whole, part,
    evaluate_words.1 none lowest words _ (by simp [lowest, Expr.parts]) _ part⟩

end Evaluation
end Reckon

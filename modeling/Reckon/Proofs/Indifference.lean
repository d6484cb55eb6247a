import Reckon.Proofs.Modular
import Reckon.Proofs.Tags

/-! What the precision has no say in. The basic operations look at it only for fixed decimals, and
reading only for decimal literals, so a line of integers and basic operations ends in the same way
under every precision, one that is out of range included. -/
namespace Reckon

namespace Operation

variable {a b : Value}

/-- For operands that are no fixed decimals the rule does the same under every precision. -/
def Indifferent (rule : Rule) : Prop :=
  ∀ precision precision' a b, a.kind ≠ .fixed → b.kind ≠ .fixed →
    rule precision a b = rule precision' a b

theorem words_indifferent (perform : Int → Int → Int) : Indifferent (words perform) := by
  intro _ _ a b _ _
  cases a <;> cases b <;> rfl

theorem decimals_indifferent
    (perform : Nat → Decimal → Decimal → Except Decimal.Signal Decimal)
    (working : Precision → Decimal → Decimal → Int) : Indifferent (decimals perform working) := by
  intro precision precision' a b first second
  rw [decimals, decimals, a.digits?_eq_none_iff.2 first, b.digits?_eq_none_iff.2 second]
  rfl

theorem floats_indifferent (perform : Binary64 → Binary64 → Except Fault Binary64) :
    Indifferent (floats perform) :=
  fun _ _ _ _ _ _ => rfl

theorem result?_indifferent (indifferent : ∀ rule ∈ rules, Indifferent rule)
    (precision precision' : Precision) (first : a.kind ≠ .fixed) (second : b.kind ≠ .fixed) :
    result? rules precision a b = result? rules precision' a b := by
  induction rules with
  | nil => rfl
  | cons rule rules ih =>
    obtain ⟨here, later⟩ := List.forall_mem_cons.1 indifferent
    have more := ih later
    simp only [result?] at more ⊢
    rw [List.findSome?_cons, List.findSome?_cons, here precision precision' a b first second, more]

end Operation

namespace Evaluation
open Operation

variable {a b : Value}

theorem combine_indifferent (indifferent : ∀ rule ∈ rules, Indifferent rule) (name : String)
    (precision precision' : Precision) (first : a.kind ≠ .fixed) (second : b.kind ≠ .fixed) :
    combine rules name precision a b = combine rules name precision' a b := by
  rw [combine, combine, result?_indifferent indifferent precision precision' first second]

theorem operate_indifferent (basic : operator.isBasic = true) (precision precision' : Precision)
    (first : a.kind ≠ .fixed) (second : b.kind ≠ .fixed) :
    operate precision a b operator = operate precision' a b operator := by
  cases operator with
  | add | sub | mul =>
    refine combine_indifferent ?_ _ precision precision' first second
    simp only [addition, subtraction, multiplication, List.forall_mem_cons]
    exact ⟨words_indifferent _, decimals_indifferent _ _, floats_indifferent _,
      List.forall_mem_nil _⟩
  | div =>
    have same : combine division "Division" precision a b =
        combine division "Division" precision' a b := by
      refine combine_indifferent ?_ _ precision precision' first second
      simp only [division, List.forall_mem_cons]
      exact ⟨decimals_indifferent _ _, floats_indifferent _, List.forall_mem_nil _⟩
    simp only [operate, divide, same]
  | pow | other => cases basic

theorem evaluate_kind (arithmetic : tree.Arithmetic)
    (leaves : ∀ leaf ∈ tree.leaves, leaf.kind ≠ .fixed)
    (given : evaluate precision tree = .ok v) : v.kind ≠ .fixed := by
  rw [← v.digits?_eq_none_iff, evaluate_digits arithmetic given]
  exact Value.lastDigits?_eq_none_iff.2 leaves

theorem evaluate_indifferent (arithmetic : tree.Arithmetic)
    (leaves : ∀ leaf ∈ tree.leaves, leaf.kind ≠ .fixed) (precision precision' : Precision) :
    evaluate precision tree = evaluate precision' tree := by
  induction arithmetic with
  | value => rfl
  | @binary left right operator basic arithmetic arithmetic' ih ih' =>
    rw [Expr.leaves_binary, List.forall_mem_append] at leaves
    obtain ⟨leaves, leaves'⟩ := leaves
    simp only [evaluate]
    rw [ih leaves, ih' leaves']
    cases first : evaluate precision' left with
    | error failure => rfl
    | ok a =>
      cases second : evaluate precision' right with
      | error failure => rfl
      | ok b =>
        simp only [ok_bind]
        apply operate_indifferent basic
        · exact evaluate_kind arithmetic leaves first
        · exact evaluate_kind arithmetic' leaves' second

end Evaluation

theorem Value.refit_of_kind {v : Value} (precision : Precision) (other : v.kind ≠ .float) :
    v.refit precision = v := by
  cases v with
  | integer | fixed => rfl
  | float => exact absurd rfl other

theorem Expr.Arithmetic.refit (arithmetic : Expr.Arithmetic tree) (precision : Precision)
    (leaves : ∀ leaf ∈ tree.leaves, leaf.kind ≠ .float) : tree.refit precision = tree := by
  induction arithmetic with
  | value v => rw [Expr.refit, v.refit_of_kind precision (leaves v (by simp [leaves_value]))]
  | binary _ _ _ left right =>
    rw [leaves_binary, List.forall_mem_append] at leaves
    rw [Expr.refit, left leaves.1, right leaves.2]

namespace Grammar

theorem basic_of_rational (plain : kind ∈ rational) (member : (kind, operator) ∈ operators) :
    operator.isBasic = true := by
  cases kind <;> simp [rational, integral, operators] at plain member <;> subst member <;> rfl

/-- What is written with these tokens alone is a tree of integers and basic operations. -/
theorem Spells.arithmetic (spelled : Spells precision form stretch rest tree)
    (plain : ∀ token ∈ stretch, token.kind ∈ rational) :
    tree.Arithmetic ∧ ∀ leaf ∈ tree.leaves, leaf.kind = .integer := by
  induction spelled with
  | literal denotes =>
    cases denotes with
    | integer =>
      refine ⟨.value _, ?_⟩
      rintro _ (_ | ⟨_, ⟨⟩⟩)
      rfl
    | float decimal | fixed decimal => simp [decimal, rational, integral] at plain
  | constant member => exact absurd (plain _ (by simp)) (constant_not_rational member)
  | magnitude bar => simp [bar, rational, integral] at plain
  | unary member => exact absurd (plain _ (by simp)) (function_not_rational member)
  | logarithm log => simp [log, rational, integral] at plain
  | group _ _ _ ih => exact ih fun token member => plain token (by simp [member])
  | negation _ _ ih =>
    obtain ⟨arithmetic, leaves⟩ := ih fun token member => plain token (by simp [member])
    refine ⟨.binary rfl (.value _) arithmetic, ?_⟩
    rw [Expr.leaves_binary, List.forall_mem_append]
    refine ⟨?_, leaves⟩
    rintro _ (_ | ⟨_, ⟨⟩⟩)
    rfl
  | single _ _ ih => exact ih plain
  | binary _ member _ _ left right =>
    have basic := basic_of_rational (plain _ (by simp)) member
    obtain ⟨first, leaves⟩ := left fun token member => plain token (by simp [member])
    obtain ⟨second, leaves'⟩ := right fun token member => plain token (by simp [member])
    rw [Expr.leaves_binary, List.forall_mem_append]
    exact ⟨.binary basic first second, leaves, leaves'⟩

theorem Splits.arithmetic (split : Splits precision tokens pieces)
    (plain : ∀ token ∈ tokens, token.kind ∈ rational) :
    ∀ piece ∈ pieces, piece.2.Arithmetic ∧ ∀ leaf ∈ piece.2.leaves, leaf.kind = .integer := by
  induction split with
  | nil => simp
  | cons phrase _ ih =>
    intro piece member
    rcases List.mem_cons.1 member with rfl | later
    · exact phrase.arithmetic fun token member => plain token (by simp [member])
    · exact ih (fun token member => plain token (by simp [member])) piece later

end Grammar

namespace Calculation
open Evaluation Grammar

variable {tokens : List Token}

theorem read_rational (settled : ∀ token ∈ tokens, Token.Settled token)
    (plain : ∀ token ∈ tokens, token.kind ∈ rational)
    (read : Reading.read none tokens = .ok trees) :
    ∀ tree ∈ trees, tree.Arithmetic ∧ ∀ leaf ∈ tree.leaves, leaf.kind = .integer := by
  obtain ⟨pieces, split, rfl⟩ := (Reading.read_ok_iff Precision.valid_none settled).1 read
  intro tree member
  obtain ⟨piece, within, rfl⟩ := List.mem_map.1 member
  exact split.arithmetic plain piece within

theorem read_indifferent (settled : ∀ token ∈ tokens, Token.Settled token)
    (plain : ∀ token ∈ tokens, token.kind ∈ rational) (precision : Precision) :
    Reading.read precision tokens = Reading.read none tokens := by
  rw [Reading.read_undecimal precision settled (rational_not_decimal plain)]
  cases read : Reading.read none tokens with
  | error refused => rfl
  | ok trees =>
    have kept (tree) (member : tree ∈ trees) : tree.refit precision = id tree := by
      obtain ⟨arithmetic, leaves⟩ := read_rational settled plain read tree member
      apply arithmetic.refit
      intro leaf within
      simp [leaves leaf within]
    rw [map_ok, List.map_congr_left kept, List.map_id]

theorem only_indifferent (precision precision' : Precision)
    (plain : ∀ tree ∈ trees, tree.Arithmetic ∧ ∀ leaf ∈ tree.leaves, leaf.kind = .integer) :
    only precision trees = only precision' trees := by
  match trees with
  | [] => rfl
  | [tree] =>
    obtain ⟨arithmetic, leaves⟩ := plain tree (by simp)
    have same := evaluate_indifferent arithmetic (fun leaf member => by simp [leaves leaf member])
      precision precision'
    simp only [only, same]
  | _ :: _ :: _ => rfl

/-- The tokens that the line falls into, if it does, are integers, basic operations and
parentheses. -/
def Rational (code : String) : Prop :=
  ∀ tokens, Token.tokenize 1 code = .ok tokens → ∀ token ∈ tokens, token.kind ∈ rational

variable {code : String}

theorem calculate_plain (plain : Rational code) (precision : Precision) :
    calculate precision code = calculate none code := by
  simp only [calculate]
  cases scanned : Token.tokenize 1 code with
  | error refused => rfl
  | ok tokens =>
    have settled := Token.tokenize_settled scanned
    have kinds := plain tokens scanned
    rw [ok_bind, ok_bind, read_indifferent settled kinds precision]
    cases read : Reading.read none tokens with
    | error refused => rfl
    | ok trees => exact only_indifferent precision none (read_rational settled kinds read)

theorem calculate_unfixed (plain : Rational code)
    (given : calculate none code = .ok (some v)) : v.kind ≠ .fixed := by
  obtain ⟨tokens, tree, scanned, read, evaluated⟩ := calculate_value given
  have settled := Token.tokenize_settled scanned
  obtain ⟨arithmetic, leaves⟩ :=
    read_rational settled (plain tokens scanned) read tree (List.mem_singleton_self tree)
  apply evaluate_kind arithmetic _ evaluated
  intro leaf member
  simp [leaves leaf member]

/-- A line of integers and basic operations ends in the same way under any two precisions: without
a value, with one that is no fixed decimal, or with the same reported error. -/
theorem calculate_indifferent (plain : Rational code) (precision precision' : Precision) :
    calculate precision code = calculate precision' code ∧
    (calculate precision code = .ok none ∨
      (∃ v, calculate precision code = .ok (some v) ∧ v.kind ≠ .fixed) ∨
      ∃ refused, calculate precision code = .error refused ∧ refused.Reported) := by
  rw [calculate_plain plain precision, calculate_plain plain precision']
  refine ⟨rfl, ?_⟩
  rcases calculate_cases none code with ⟨_, contained⟩ | ⟨_, invalid, _⟩
  · have unfixed (v) := calculate_unfixed (v := v) plain
    generalize calculate none code = result at contained unfixed ⊢
    cases contained with
    | nothing => exact .inl rfl
    | @value v => exact .inr (.inl ⟨v, rfl, unfixed v rfl⟩)
    | @reported refused reported => exact .inr (.inr ⟨refused, rfl, reported⟩)
  · exact absurd Precision.valid_none invalid

def sevenHalves : Binary64 := .finite false 0x1c000000000000 (-51) (by decide)

def halves : List Token := [
  ⟨.integer, "7", 1, 0, true⟩, ⟨.slash, "/", 1, 2, true⟩, ⟨.integer, "2", 1, 4, true⟩]

/-- A quotient of integers is the same floating-point number without a precision and under one that
no decimal can be made with. -/
theorem calculate_indifferent_halves : Rational "7 / 2" ∧
    calculate none "7 / 2" = .ok (some (.float sevenHalves)) ∧
    calculate (some (-4)) "7 / 2" = .ok (some (.float sevenHalves)) := by
  have scanned : Token.tokenize 1 "7 / 2" = .ok halves := by decide +kernel
  have plain : Rational "7 / 2" := by
    intro tokens scanned'
    cases scanned.symm.trans scanned'
    simp [halves, rational, integral]
  have seven : Denotes none ⟨.integer, "7", 1, 0, true⟩ (.integer 7) :=
    .integer rfl (by decide +kernel)
  have two : Denotes none ⟨.integer, "2", 1, 4, true⟩ (.integer 2) :=
    .integer rfl (by decide +kernel)
  have sign : (Token.Kind.slash, Operator.div) ∈ operators := by simp [operators]
  have read := Reading.read_operation Precision.valid_none (Token.tokenize_settled scanned)
    seven sign two
  have quotient : evaluate none (.binary .div (.value (.integer 7)) (.value (.integer 2))) =
      .ok (.float sevenHalves) := by decide +kernel
  have given : calculate none "7 / 2" = .ok (some (.float sevenHalves)) := by
    rw [calculate, scanned, ok_bind, halves, read, ok_bind, only, quotient, map_ok]
  have same := (calculate_indifferent plain (some (-4)) none).1
  exact ⟨plain, given, same.trans given⟩

end Calculation
end Reckon

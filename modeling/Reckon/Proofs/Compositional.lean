import Reckon.Expr.Evaluation
import Reckon.Proofs.Outcome

/-! Evaluation is compositional and strict. A part of a tree counts through its value alone, and no
failure of a part is skipped, reordered or swallowed: the parts are reduced in post-order, and the
first of them that fails gives the error of the whole. -/
namespace Reckon

/-- A tree in which one place is left open. -/
inductive Expr.Context where
  | hole
  | leftOf (operator : Operator) (inner : Context) (right : Expr)
  | rightOf (operator : Operator) (left : Expr) (inner : Context)
  | within (inner : Context)
  | argument (name : String) (inner : Context)
  | firstOf (name : String) (inner : Context) (second : Expr)
  | secondOf (name : String) (first : Expr) (inner : Context)

namespace Expr

def Context.fill (tree : Expr) : Context → Expr
  | .hole => tree
  | .leftOf operator inner right => .binary operator (inner.fill tree) right
  | .rightOf operator left inner => .binary operator left (inner.fill tree)
  | .within inner => .magnitude (inner.fill tree)
  | .argument name inner => .unary name (inner.fill tree)
  | .firstOf name inner second => .function name (inner.fill tree) second
  | .secondOf name first inner => .function name first (inner.fill tree)

/-- The trees right below the root. -/
def operands : Expr → List Expr
  | .binary _ left right => [left, right]
  | .magnitude operand => [operand]
  | .unary _ argument => [argument]
  | .function _ first second => [first, second]
  | .value _ | .constant _ | .unparsed _ => []

/-- The tree and everything inside it: what is on the left before what is on the right, and operands
before the node above them. -/
def postorder : Expr → List Expr
  | .value v => [.value v]
  | .binary operator left right =>
    left.postorder ++ right.postorder ++ [.binary operator left right]
  | .magnitude operand => operand.postorder ++ [.magnitude operand]
  | .constant name => [.constant name]
  | .unary name argument => argument.postorder ++ [.unary name argument]
  | .function name first second =>
    first.postorder ++ second.postorder ++ [.function name first second]
  | .unparsed text => [.unparsed text]

theorem mem_postorder_self (tree : Expr) : tree ∈ tree.postorder := by
  cases tree <;> simp [postorder]

theorem mem_postorder_fill (context : Context) (tree : Expr) :
    tree ∈ (context.fill tree).postorder := by
  induction context with
  | hole => exact mem_postorder_self tree
  | leftOf | rightOf | within | argument | firstOf | secondOf => simp [Context.fill, postorder, *]

end Expr

namespace Evaluation
open Reckon.Expr

/-- In post-order `part` is the first that fails: whatever comes before it has a value, and so have
all its operands. -/
inductive FirstFailure (precision : Precision) (tree part : Expr) (e : Failure) : Prop where
  | intro : tree.postorder = before ++ part :: after →
      (∀ earlier ∈ before, ∃ v, evaluate precision earlier = .ok v) → part.operands ⊆ before →
      evaluate precision part = .error e → FirstFailure precision tree part e

variable {precision : Precision} {tree : Expr} {e : Failure}

/-- What fails first in a tree fails first in a larger one, where all that goes ahead has values. -/
theorem FirstFailure.within (first : FirstFailure precision tree part e)
    (ahead behind : List Expr)
    (split : whole.postorder = ahead ++ tree.postorder ++ behind)
    (reduced : ∀ earlier ∈ ahead, ∃ v, evaluate precision earlier = .ok v) :
    FirstFailure precision whole part e := by
  obtain @⟨before, after, order, reduced', operands, failed⟩ := first
  have order' : whole.postorder = ahead ++ before ++ part :: (after ++ behind) := by
    simp [split, order]
  refine .intro order' ?_ (List.subset_append_of_subset_right ahead operands) failed
  intro earlier member
  rcases List.mem_append.1 member with member | member
  · exact reduced earlier member
  · exact reduced' earlier member

theorem evaluate_postorder (given : evaluate precision tree = .ok v) :
    ∀ part ∈ tree.postorder, ∃ w, evaluate precision part = .ok w := by
  induction tree generalizing v with
  | value | constant | unparsed => simpa [postorder] using ⟨v, given⟩
  | binary operator left right ih ih' | function name left right ih ih' =>
    have whole := given
    simp only [evaluate, bind_eq_ok] at given
    obtain ⟨a, first, b, second, _⟩ := given
    simp only [postorder, List.forall_mem_append, List.forall_mem_singleton]
    exact ⟨⟨ih first, ih' second⟩, v, whole⟩
  | magnitude operand ih | unary name operand ih =>
    have whole := given
    simp only [evaluate, bind_eq_ok] at given
    obtain ⟨a, first, _⟩ := given
    simp only [postorder, List.forall_mem_append, List.forall_mem_singleton]
    exact ⟨ih first, v, whole⟩

theorem exists_firstFailure (failed : evaluate precision tree = .error e) :
    ∃ part, FirstFailure precision tree part e := by
  induction tree generalizing e with
  | value | constant | unparsed => exact ⟨_, .intro (List.nil_append [_]).symm nofun nofun failed⟩
  | binary operator left right ih ih' | function name left right ih ih' =>
    have whole := failed
    simp only [evaluate, bind_eq_error] at failed
    rcases failed with here | ⟨a, first, here | ⟨b, second, _⟩⟩
    · obtain ⟨part, within⟩ := ih here
      exact ⟨part, within.within [] _ (List.append_assoc ..) nofun⟩
    · obtain ⟨part, within⟩ := ih' here
      exact ⟨part, within.within _ _ rfl (evaluate_postorder first)⟩
    · refine ⟨_, .intro rfl ?_ ?_ whole⟩
      · exact List.forall_mem_append.2 ⟨evaluate_postorder first, evaluate_postorder second⟩
      · simp [operands, mem_postorder_self]
  | magnitude operand ih | unary name operand ih =>
    have whole := failed
    simp only [evaluate, bind_eq_error] at failed
    rcases failed with here | ⟨a, first, _⟩
    · obtain ⟨part, within⟩ := ih here
      exact ⟨part, within.within [] _ rfl nofun⟩
    · refine ⟨_, .intro rfl (evaluate_postorder first) ?_ whole⟩
      simp [operands, mem_postorder_self]

/-- Trees with the same outcome are exchangeable wherever they stand. -/
theorem evaluate_congr (same : evaluate precision tree = evaluate precision other)
    (context : Context) :
    evaluate precision (context.fill tree) = evaluate precision (context.fill other) := by
  induction context with
  | hole => exact same
  | leftOf | rightOf | within | argument | firstOf | secondOf =>
    simp only [Context.fill, evaluate, *]

/-- A part that has a value may be replaced by it, and a part that fails makes the whole fail, with
the error of the part that fails first. -/
theorem evaluate_fill (precision : Precision) (context : Context) (tree : Expr) :
    (∀ v, evaluate precision tree = .ok v →
      evaluate precision (context.fill tree) = evaluate precision (context.fill (.value v))) ∧
    ∀ e, evaluate precision tree = .error e →
      ∃ e' part, evaluate precision (context.fill tree) = .error e' ∧
        FirstFailure precision (context.fill tree) part e' := by
  constructor
  · intro v given
    exact evaluate_congr given context
  · intro e failed
    cases outcome : evaluate precision (context.fill tree) with
    | error e' =>
      obtain ⟨part, first⟩ := exists_firstFailure outcome
      exact ⟨e', part, rfl, first⟩
    | ok v =>
      obtain ⟨w, given⟩ := evaluate_postorder outcome tree (mem_postorder_fill context tree)
      rw [failed] at given
      cases given

def pair : Expr := .binary .add (.value (.integer 1)) (.value (.integer 1))

/-- `|_ - 5| * 2` with an open place for `_`. -/
def distance : Context :=
  .leftOf .mul (.within (.leftOf .sub .hole (.value (.integer 5)))) (.value (.integer 2))

/-- `8 / 0 + sqrt _` with an open place for `_`. -/
def divided : Context :=
  .rightOf .add (.binary .div (.value (.integer 8)) (.value (.integer 0))) (.argument "sqrt" .hole)

/-- Both sides of the first equation come to `6`. The division on the left fails before the symbol
on the right, whose own error is not the one reported. -/
theorem evaluate_fill_divided :
    evaluate none pair = .ok (.integer 2) ∧
    evaluate none (distance.fill pair) = evaluate none (distance.fill (.value (.integer 2))) ∧
    evaluate none (.constant "tau") = .error (.evaluation (.unknownSymbol "tau")) ∧
    ∃ part, evaluate none (divided.fill (.constant "tau")) =
        .error (.evaluation .divisionByZero) ∧
      FirstFailure none (divided.fill (.constant "tau")) part (.evaluation .divisionByZero) := by
  have two : evaluate none pair = .ok (.integer 2) := rfl
  have unknown : evaluate none (.constant "tau") =
      .error (.evaluation (.unknownSymbol "tau")) := rfl
  have zero : evaluate none (divided.fill (.constant "tau")) =
      .error (.evaluation .divisionByZero) := rfl
  obtain ⟨_, part, failed, first⟩ := (evaluate_fill none divided _).2 _ unknown
  obtain rfl := Except.error.inj (failed.symm.trans zero)
  exact ⟨two, (evaluate_fill none distance pair).1 _ two, unknown, part, zero, first⟩

end Evaluation
end Reckon

import Reckon.Proofs.Kinds

/-! The digits that a fixed decimal carries, through sums, differences, products and quotients. Each
operation hands on those of its right operand, or else those of its left one, so a whole tree
carries the digits of its last fixed decimal, however it is grouped. -/
namespace Reckon

/-- A sum, difference, product or quotient. -/
def Operator.isBasic : Operator → Bool
  | .add | .sub | .mul | .div => true
  | .pow | .other _ => false

theorem Value.digits?_eq_none_iff (v : Value) : v.digits? = none ↔ v.kind ≠ .fixed := by
  cases v <;> simp [digits?, kind]

namespace Value.Kind

theorem sum_eq_fixed_iff (k l : Kind) : k.sum l = .fixed ↔ k = .fixed ∨ l = .fixed := by
  cases k <;> cases l <;> simp [sum]

theorem quotient_eq_fixed_iff (k l : Kind) : k.quotient l = .fixed ↔ k = .fixed ∨ l = .fixed := by
  cases k <;> cases l <;> simp [quotient]

end Value.Kind

namespace Expr

/-- A tree of values and basic operations, and nothing else. -/
inductive Arithmetic : Expr → Prop where
  | value (v : Value) : Arithmetic (.value v)
  | binary : operator.isBasic = true → Arithmetic left → Arithmetic right →
      Arithmetic (.binary operator left right)

def value? : Expr → Option Value
  | .value v => some v
  | _ => none

/-- The values in a tree, from left to right. -/
def leaves (tree : Expr) : List Value := tree.parts.filterMap value?

theorem leaves_value (v : Value) : (Expr.value v).leaves = [v] := rfl

theorem leaves_binary (operator : Operator) (left right : Expr) :
    (Expr.binary operator left right).leaves = left.leaves ++ right.leaves := by
  simp only [leaves, parts]
  rw [List.filterMap_cons_none rfl, List.filterMap_append]

end Expr

namespace Value

/-- The digits that the last fixed decimal in a row of values carries. -/
def lastDigits? (values : List Value) : Option Int := values.reverse.findSome? digits?

theorem lastDigits?_singleton (v : Value) : lastDigits? [v] = v.digits? := by
  cases v <;> rfl

theorem lastDigits?_append (values others : List Value) :
    lastDigits? (values ++ others) = (lastDigits? others).or (lastDigits? values) := by
  rw [lastDigits?, List.reverse_append, List.findSome?_append]
  rfl

/-- A row of values falls apart at its last fixed decimal. -/
theorem lastDigits?_eq_some (found : lastDigits? values = some tag) :
    ∃ before number after, values = before ++ .fixed number tag :: after ∧
      ∀ other ∈ after, other.kind ≠ .fixed := by
  obtain ⟨after, v, before, split, tagged, others⟩ := List.findSome?_eq_some_iff.1 found
  obtain ⟨number, rfl⟩ : ∃ number, v = .fixed number tag := by
    cases v <;> cases tagged
    exact ⟨_, rfl⟩
  refine ⟨before.reverse, number, after.reverse, ?_, ?_⟩
  · rw [← List.reverse_reverse values, split]
    simp
  · intro other member
    exact other.digits?_eq_none_iff.1 (others other (List.mem_reverse.1 member))

theorem lastDigits?_eq_none_iff :
    lastDigits? values = none ↔ ∀ v ∈ values, v.kind ≠ .fixed := by
  simp [lastDigits?, List.findSome?_eq_none_iff, digits?_eq_none_iff]

end Value

namespace Operation

variable {a b : Value}

theorem decimals_digits (covered : decimals perform working precision a b = some (.ok v)) :
    v.digits? = b.digits?.or a.digits? := by
  simp only [decimals, Option.map_eq_some_iff, bind_eq_ok, pure_eq_ok] at covered
  obtain ⟨digits, tagged, places, _, z, _, rfl⟩ := covered
  exact tagged.symm

end Operation

namespace Evaluation
open Operation

variable {a b : Value}

theorem digits_unfixed {v : Value} (first : a.kind ≠ .fixed) (second : b.kind ≠ .fixed)
    (result : v.kind ≠ .fixed) : v.digits? = b.digits?.or a.digits? := by
  rw [a.digits?_eq_none_iff.2 first, b.digits?_eq_none_iff.2 second,
    v.digits?_eq_none_iff.2 result]
  rfl

theorem combine_digits (given : combine [words onWords, decimals perform working, floats onFloats]
    name precision a b = .ok v) : v.digits? = b.digits?.or a.digits? := by
  by_cases fixed : a.kind.sum b.kind = .fixed
  · rcases combine_cases given with ⟨_, other⟩ | ⟨covered, _⟩ | ⟨_, other⟩
    · cases fixed.symm.trans other
    · exact decimals_digits covered
    · cases fixed.symm.trans other
  · have result : v.kind ≠ .fixed := combine_kind given ▸ fixed
    rw [Value.Kind.sum_eq_fixed_iff, not_or] at fixed
    exact digits_unfixed fixed.1 fixed.2 result

theorem divide_digits (given : divide precision a b = .ok v) :
    v.digits? = b.digits?.or a.digits? := by
  by_cases fixed : a.kind.quotient b.kind = .fixed
  · rcases combine_quotient_cases (divide_ok given) with ⟨covered, _⟩ | ⟨_, other⟩
    · exact decimals_digits covered
    · cases fixed.symm.trans other
  · have result : v.kind ≠ .fixed := divide_kind given ▸ fixed
    rw [Value.Kind.quotient_eq_fixed_iff, not_or] at fixed
    exact digits_unfixed fixed.1 fixed.2 result

/-- The right operand's digits, or the left one's if the right is no fixed decimal. -/
theorem operate_digits (basic : operator.isBasic = true)
    (given : operate precision a b operator = .ok v) : v.digits? = b.digits?.or a.digits? := by
  cases operator with
  | add | sub | mul => exact combine_digits given
  | div => exact divide_digits given
  | pow | other => cases basic

theorem evaluate_digits (arithmetic : tree.Arithmetic) (given : evaluate precision tree = .ok v) :
    v.digits? = Value.lastDigits? tree.leaves := by
  induction arithmetic generalizing v with
  | value w =>
    cases given
    rw [Expr.leaves_value, Value.lastDigits?_singleton]
  | binary basic _ _ left right =>
    simp only [evaluate, bind_eq_ok] at given
    obtain ⟨a, first, b, second, given⟩ := given
    rw [operate_digits basic given, left first, right second, Expr.leaves_binary,
      Value.lastDigits?_append]

/-- The result is a fixed decimal exactly if one of the leaves is, and then it carries the digits of
the last of them. Any other grouping of the same leaves, under any precision, carries the same. -/
theorem evaluate_tag (arithmetic : tree.Arithmetic) (given : evaluate precision tree = .ok v) :
    (v.kind = .fixed ↔ ∃ leaf ∈ tree.leaves, leaf.kind = .fixed) ∧
    (∀ number tag, v = .fixed number tag → ∃ before number' after,
      tree.leaves = before ++ .fixed number' tag :: after ∧
        ∀ other ∈ after, other.kind ≠ .fixed) ∧
    ∀ precision' other w, other.Arithmetic → other.leaves = tree.leaves →
      evaluate precision' other = .ok w → w.digits? = v.digits? := by
  have carried := evaluate_digits arithmetic given
  refine ⟨?_, ?_, ?_⟩
  · have none := v.digits?_eq_none_iff
    rw [carried, Value.lastDigits?_eq_none_iff] at none
    rw [← not_iff_not, ← ne_eq, ← none]
    simp
  · rintro number tag rfl
    exact Value.lastDigits?_eq_some carried.symm
  · intro precision' other w arithmetic' same given'
    rw [carried, evaluate_digits arithmetic' given', same]

def threeDigits : Expr := .value (.fixed (.finite false 15 (-1)) 3)

def sevenDigits : Expr := .value (.fixed (.finite false 25 (-2)) 7)

def ratio : Expr := .binary .div (.value (.integer 1)) (.value (.integer 4))

def lowering : Expr := .binary .sub sevenDigits (.value (.integer 1))

/-- `(1.5 * (1 / 4)) + (0.25 - 1)` is a sum and `1.5 * ((1 / 4) + (0.25 - 1))` a product, and both
carry the seven digits of their last fixed decimal. -/
theorem evaluate_tag_regrouped :
    evaluate (some 2) (.binary .add (.binary .mul threeDigits ratio) lowering) =
      .ok (.fixed (.finite true 38 (-2)) 7) ∧
    evaluate none (.binary .mul threeDigits (.binary .add ratio lowering)) =
      .ok (.fixed (.finite true 750 (-3)) 7) ∧
    (Value.fixed (.finite true 750 (-3)) 7).digits? =
      (Value.fixed (.finite true 38 (-2)) 7).digits? := by
  have quotient : ratio.Arithmetic := .binary rfl (.value _) (.value _)
  have difference : lowering.Arithmetic := .binary rfl (.value _) (.value _)
  have sum : evaluate (some 2) (.binary .add (.binary .mul threeDigits ratio) lowering) =
      .ok (.fixed (.finite true 38 (-2)) 7) := by decide +kernel
  have product : evaluate none (.binary .mul threeDigits (.binary .add ratio lowering)) =
      .ok (.fixed (.finite true 750 (-3)) 7) := by decide +kernel
  have arithmetic : (Expr.binary .add (.binary .mul threeDigits ratio) lowering).Arithmetic :=
    .binary rfl (.binary rfl (.value _) quotient) difference
  have arithmetic' : (Expr.binary .mul threeDigits (.binary .add ratio lowering)).Arithmetic :=
    .binary rfl (.value _) (.binary rfl quotient difference)
  exact ⟨sum, product, (evaluate_tag arithmetic sum).2.2 _ _ _ arithmetic' rfl product⟩

end Evaluation
end Reckon

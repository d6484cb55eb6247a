import Reckon.Proofs.Outcome
import Reckon.Value

/-! The precisions that decimal numbers can be made with. Every positive integer may come into
force, but only those up to `greatest` pass the check that stands before each use. -/
namespace Reckon

namespace Precision

/-- No precision, or one that passes the check. -/
def Valid (precision : Precision) : Prop :=
  ∀ digits, precision = some digits → 1 ≤ digits ∧ digits ≤ greatest

@[simp] theorem valid_none : Valid none := nofun

theorem valid_some_iff : Valid (some digits) ↔ 1 ≤ digits ∧ digits ≤ greatest := by
  simp [Valid]

theorem check_ok (low : 1 ≤ digits) (high : digits ≤ greatest) :
    check digits = .ok digits.toNat := by
  have word : ¬ (digits < -wordBound ∨ wordBound ≤ digits) := by
    simp only [greatest, wordBound] at *
    omega
  have range : ¬ (digits < 1 ∨ greatest < digits) := by omega
  simp [check, word, range]

/-- The number of digits that an operation works with, once it is checked. -/
theorem check_places (low : 1 ≤ digits) (high : digits ≤ greatest) :
    ∃ places : Nat, check digits = .ok places ∧ (places : Int) = digits :=
  ⟨digits.toNat, check_ok low high, Int.toNat_of_nonneg (Int.le_trans (by decide) low)⟩

/-- What the check answers to a precision that it refuses. -/
def refusal (precision : Precision) : Fault :=
  let digits := precision.getD 0
  if digits < -wordBound || wordBound ≤ digits then .precisionTooWide else .precisionOutOfRange

theorem check_refused (invalid : ¬ Valid (some digits)) :
    check digits = .error (refusal (some digits)) := by
  have range : digits < 1 ∨ greatest < digits := by
    rw [valid_some_iff] at invalid
    omega
  simp only [check, refusal, Option.getD_some]
  split
  · rfl
  · simp [range]

/-- No precision, or a number of digits that a command can ask for. -/
def Positive (precision : Precision) : Prop :=
  ∀ digits, precision = some digits → 1 ≤ digits

theorem read_eq_some_iff {text : String} :
    read text = some digits ↔ Literal.integer text = .ok digits ∧ 1 ≤ digits := by
  rw [read]
  cases Literal.integer text with
  | error f => simp
  | ok n =>
    by_cases positive : n ≤ 0
    · simp only [positive, reduceIte, reduceCtorEq, Except.ok.injEq, false_iff, not_and]
      omega
    · simp only [positive, reduceIte, Option.some.injEq, Except.ok.injEq]
      omega

theorem read_positive (text : String) : (read text).Positive :=
  fun _ asked => (read_eq_some_iff.1 asked).2

theorem Positive.getD_nonneg (positive : Positive precision) : 0 ≤ precision.getD 0 := by
  cases precision with
  | none => exact Int.le_refl 0
  | some digits => exact Int.le_trans (by decide) (positive digits rfl)

/-- Among positive precisions, those beyond the greatest are the ones that are not valid. -/
theorem Positive.not_valid_iff (positive : Positive precision) :
    ¬ precision.Valid ↔ ∃ digits, precision = some digits ∧ greatest < digits := by
  cases precision with
  | none => simp
  | some digits =>
    have := positive digits rfl
    simp only [valid_some_iff, Option.some.injEq, exists_eq_left']
    omega

end Precision

theorem Value.fixedOf_ok (low : 1 ≤ digits) (high : digits ≤ Precision.greatest) (x : Binary64) :
    Value.fixedOf digits x = .ok (.fixed (.rounded digits.toNat x) digits) := by
  simp [Value.fixedOf, Precision.check_ok low high]

end Reckon

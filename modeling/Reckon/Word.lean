/-! Signed words of 32 bits, the range of integer arithmetic. -/
namespace Reckon.Word

/-- The first number too large for a word, `2 ^ 31`. -/
def bound : Int := 0x80000000

/-- The word congruent to `n` modulo `2 ^ 32`. -/
def wrap (n : Int) : Int := n.bmod 0x100000000

def fits (n : Int) : Bool := -bound ≤ n && n < bound

theorem fits_iff {n : Int} : fits n = true ↔ -bound ≤ n ∧ n < bound := by
  simp [fits]

theorem wrap_fits (n : Int) : fits (wrap n) = true := by
  have lower := Int.le_bmod (x := n) (m := 0x100000000) (by decide)
  have upper := Int.bmod_lt (x := n) (m := 0x100000000) (by decide)
  rw [fits_iff, wrap, bound]
  omega

end Reckon.Word

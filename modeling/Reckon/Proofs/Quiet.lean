import Reckon.Decimal.Arithmetic
import Reckon.Decimal.Binary
import Reckon.Proofs.Outcome

/-! Signaling NaNs. A decimal operation refuses one among its operands and gives none. -/
namespace Reckon.Decimal

/-- Any decimal but a signaling NaN. -/
def Quiet : Decimal → Prop
  | .nan _ signaling _ => signaling = false
  | _ => True

theorem Quiet.negate (quiet : Quiet x) : Quiet x.negate := by
  cases x <;> exact quiet

theorem fit_quiet (fitted : fit precision negative coefficient exponent = .ok x) : Quiet x := by
  unfold fit at fitted
  split at fitted
  · cases fitted
    trivial
  · split at fitted
    · cases fitted
    · dsimp only at fitted
      split at fitted <;> cases fitted <;> trivial

theorem nanResult?_quiet (found : nanResult? precision x y = some (.ok z)) : Quiet z := by
  simp only [nanResult?] at found
  split at found <;> cases found <;> rfl

/-- An operation is quiet if what it does with operands that are not NaN is. -/
theorem getD_quiet {otherwise : Except Signal Decimal}
    (numbers : otherwise = .ok z → Quiet z)
    (done : (nanResult? precision x y).getD otherwise = .ok z) : Quiet z := by
  cases special : nanResult? precision x y with
  | none => exact numbers (by simpa [special] using done)
  | some result =>
    obtain rfl : result = .ok z := by simpa [special] using done
    exact nanResult?_quiet special

theorem add_quiet (quiet : Quiet y) (added : add precision x y = .ok z) : Quiet z := by
  apply getD_quiet ?_ added
  intro result
  split at result
  · exact fit_quiet result
  · split at result <;> cases result
    trivial
  · cases result
    trivial
  · cases result
    exact quiet

theorem sub_quiet (quiet : Quiet y) (taken : sub precision x y = .ok z) : Quiet z :=
  add_quiet quiet.negate taken

theorem mul_quiet (quiet : Quiet x) (multiplied : mul precision x y = .ok z) : Quiet z := by
  apply getD_quiet ?_ multiplied
  intro result
  split at result
  · exact fit_quiet result
  · split at result <;> cases result
    trivial
  · split at result <;> cases result
    trivial
  · cases result
    trivial
  · cases result
    exact quiet

theorem quotient_quiet (divided : quotient precision negative m n ideal = .ok z) : Quiet z := by
  simp only [quotient] at divided
  split at divided <;> exact fit_quiet divided

theorem div_quiet (quiet : Quiet x) (divided : div precision x y = .ok z) : Quiet z := by
  apply getD_quiet ?_ divided
  intro result
  split at result
  · split at result
    · cases result
    · split at result
      · exact fit_quiet result
      · exact quotient_quiet result
  · cases result
  · cases result
    trivial
  · cases result
    trivial
  · cases result
    exact quiet

theorem quantize_quiet (cut : quantize precision place x = .ok z) : Quiet z := by
  apply getD_quiet ?_ cut
  intro result
  split at result
  · split at result
    · cases result
    · split at result
      · cases result
        trivial
      · split at result
        · cases result
        · dsimp only at result
          split at result <;> cases result
          trivial
  · cases result

theorem truncate_quiet (cut : truncate precision digits x = .ok z) : Quiet z := by
  obtain ⟨place, _, quantized⟩ := bind_eq_ok.1 cut
  exact quantize_quiet quantized

theorem halfUp_quiet (precision : Nat) (negative : Bool) (coefficient : Nat) (exponent : Int) :
    Quiet (halfUp precision negative coefficient exponent) := by
  simp only [halfUp]
  split
  · trivial
  · split <;> trivial

theorem rounded_quiet (precision : Nat) (x : Binary64) : Quiet (rounded precision x) := by
  cases x with
  | finite negative significand exponent _ => exact halfUp_quiet ..
  | infinite negative => trivial
  | nan => rfl

theorem written_quiet (x : Binary64) : Quiet (written x) := by
  cases x with
  | finite negative significand exponent _ => trivial
  | infinite negative => trivial
  | nan => rfl

theorem Quiet.toBinary? (quiet : Quiet x) : ∃ y, x.toBinary? = some y := by
  cases x with
  | finite negative coefficient exponent => exact ⟨_, rfl⟩
  | infinite negative => exact ⟨_, rfl⟩
  | nan negative signaling payload =>
    obtain rfl : signaling = false := quiet
    exact ⟨_, rfl⟩

end Reckon.Decimal

import Reckon.Proofs.Resolution
import Reckon.Proofs.Rounding

/-! Decimal literals of few digits. Such a literal becomes the nearest binary number, and its token
shows that number in its shortest form; but under a precision that has room for its digits, what is
read from the token is the number that was written. -/
namespace Reckon

namespace Numeral

variable {cs whole fraction : List Char}

def isZero (c : Char) : Bool := Text.digitValue? c = some 0

/-- The digits from the first that is no zero to the last. -/
def significant (cs : List Char) : List Char :=
  ((cs.dropWhile isZero).reverse.dropWhile isZero).reverse

/-- The number that digits around a point write. -/
def amount (whole fraction : List Char) : ℚ :=
  decimal (whole ++ fraction) / 10 ^ fraction.length

theorem decimal_append (cs later : List Char) :
    decimal (cs ++ later) = decimal cs * 10 ^ later.length + decimal later := by
  have goes (n : Nat) : later.foldl (fun n c => 10 * n + (Text.digitValue? c).getD 0) n =
      n * 10 ^ later.length + decimal later := by
    induction later generalizing n with
    | nil => simp [decimal]
    | cons c later ih =>
      rw [decimal, List.foldl_cons, List.foldl_cons, ih, ih (10 * 0 + _), List.length_cons,
        Nat.pow_succ]
      ring
  rw [decimal, List.foldl_append]
  exact goes (decimal cs)

theorem decimal_lt (cs : List Char) : decimal cs < 10 ^ cs.length := by
  induction cs using List.reverseRecOn with
  | nil => simp [decimal]
  | append_singleton cs c ih =>
    have digit : (Text.digitValue? c).getD 0 < 10 := by
      cases known : Text.digitValue? c with
      | none => simp
      | some d => exact Text.digitValue?_lt known
    have last : decimal [c] = (Text.digitValue? c).getD 0 := by simp [decimal]
    rw [decimal_append, last, List.length_append, List.length_singleton, Nat.pow_one, Nat.pow_succ]
    omega

theorem decimal_zeros (zeros : ∀ c ∈ cs, isZero c = true) : decimal cs = 0 := by
  induction cs with
  | nil => rfl
  | cons c cs ih =>
    have first : Text.digitValue? c = some 0 := by simpa [isZero] using zeros c (by simp)
    have later := ih fun d member => zeros d (by simp [member])
    rw [← List.singleton_append, decimal_append, later]
    simp [decimal, first]

theorem significant_split (cs : List Char) :
    ∃ front back, cs = front ++ (significant cs ++ back) ∧ (∀ c ∈ front, isZero c = true) ∧
      ∀ c ∈ back, isZero c = true := by
  refine ⟨cs.takeWhile isZero, ((cs.dropWhile isZero).reverse.takeWhile isZero).reverse, ?_,
    Token.takeWhile_all isZero cs, ?_⟩
  · rw [significant, ← List.reverse_append, List.takeWhile_append_dropWhile, List.reverse_reverse,
      List.takeWhile_append_dropWhile]
  · simpa using Token.takeWhile_all isZero (cs.dropWhile isZero).reverse

/-- Zeros in front add nothing to a number, and zeros at its end are a power of ten. -/
theorem decimal_significant (cs : List Char) :
    ∃ zeros, decimal cs = decimal (significant cs) * 10 ^ zeros := by
  obtain ⟨front, back, split, zeros, zeros'⟩ := significant_split cs
  refine ⟨back.length, ?_⟩
  calc decimal cs = decimal (front ++ (significant cs ++ back)) := congrArg decimal split
    _ = decimal (significant cs) * 10 ^ back.length := by
      rw [decimal_append, decimal_append, decimal_zeros zeros, decimal_zeros zeros', Nat.zero_mul,
        Nat.zero_add, Nat.add_zero]

/-- The number is its significant digits in the unit of the last of them. -/
theorem amount_significant (whole fraction : List Char) :
    ∃ place : Int, amount whole fraction =
      decimal (significant (whole ++ fraction)) * 10 ^ place := by
  obtain ⟨zeros, same⟩ := decimal_significant (whole ++ fraction)
  refine ⟨zeros - fraction.length, ?_⟩
  rw [amount, same, zpow_sub₀ (by norm_num), zpow_natCast, zpow_natCast]
  push_cast
  ring

theorem numeric_sides (digits : ∀ c ∈ whole ++ fraction, Text.isDecimal c = true) :
    ∀ c ∈ whole ++ '.' :: fraction, Token.isNumeric c = true := by
  intro c member
  by_cases point : c = '.'
  · simp [Token.isNumeric, point]
  · have within : c ∈ whole ++ fraction := by simpa [point] using member
    simp [Token.isNumeric, digits c within]

/-- Digits around a point are read as the nearest binary number to what they write. -/
theorem real?_sides (digits : ∀ c ∈ whole ++ fraction, Text.isDecimal c = true)
    (given : whole ++ fraction ≠ []) :
    Literal.real? (String.ofList (whole ++ '.' :: fraction)) =
      some (.ofScientific false (decimal (whole ++ fraction)) (-(fraction.length : Int))) := by
  obtain ⟨before, behind⟩ := List.forall_mem_append.1 digits
  have finish : ∀ c, ([] : List Char).head? = some c → c.isDigit = false := by simp
  have read := scientific?_point (digits_plain before) (digits_plain behind) finish
  have some : ((whole.map plain).isEmpty && (fraction.map plain).isEmpty) = false := by
    cases whole <;> cases fraction <;> simp at given ⊢
  rw [some, ← List.map_append, value_plain digits, List.length_map, List.append_nil] at read
  have numeric := numeric_sides digits
  rw [real?_point (by simpa using numeric) (by simp), String.toList_ofList, List.map_append,
    List.map_cons, plain_point, read]
  simp [exponent?]

end Numeral

namespace Decimal
open Numeral

variable {places : Int} {whole fraction : List Char}

/-- Rounded to as many digits as are written, up to fifteen, the nearest binary number is the number
that was written. -/
theorem rounded_amount (low : 1 ≤ places) (high : places ≤ 15)
    (few : ((significant (whole ++ fraction)).length : Int) ≤ places)
    (moderate : Binary64.Moderate (amount whole fraction)) :
    ∃ n e, rounded places.toNat
        (.ofScientific false (decimal (whole ++ fraction)) (-(fraction.length : Int))) =
          .finite false n e ∧
      value (.finite false n e) = amount whole fraction := by
  let form : Binary64.Scientific := ⟨decimal (whole ++ fraction), -(fraction.length : Int)⟩
  have written : form.value = amount whole fraction := by
    rw [Binary64.Scientific.value, amount, zpow_neg, zpow_natCast, div_eq_mul_inv]
  obtain ⟨significand, exponent, canonical, nearest, near⟩ :=
    Binary64.ofScientific_near false form (written ▸ moderate)
  obtain ⟨place, same⟩ := amount_significant whole fraction
  have small : decimal (significant (whole ++ fraction)) < 10 ^ places.toNat :=
    (decimal_lt _).trans_le (Nat.pow_le_pow_right (by decide) (by omega))
  rw [written, same] at near
  have exactly := rounded_exact canonical (by omega) (by omega) small near
  have finite : ∃ n e, rounded places.toNat (.finite false significand exponent canonical) =
      .finite false n e := by
    simp only [rounded, halfUp]
    split
    · exact ⟨_, _, rfl⟩
    · split <;> exact ⟨_, _, rfl⟩
  obtain ⟨n, e, shown⟩ := finite
  refine ⟨n, e, ?_, ?_⟩
  · rw [← shown, ← nearest]
  · rw [← shown, exactly, same]

end Decimal

namespace Reading
open Numeral

variable {places : Int} {whole fraction : List Char}

/-- Under a precision of at most fifteen digits, a decimal literal with no more significant digits
becomes the fixed decimal of exactly the number that is written, wherever it stands and also on a
line of its own. -/
theorem read_short (digits : ∀ c ∈ whole ++ fraction, Text.isDecimal c = true)
    (given : whole ++ fraction ≠ []) (low : 1 ≤ places) (high : places ≤ 15)
    (few : ((significant (whole ++ fraction)).length : Int) ≤ places)
    (moderate : Binary64.Moderate (amount whole fraction)) :
    ∃ number : Decimal, number.isFinite = true ∧ number.value = amount whole fraction ∧
      (∀ raw code, raw.kind = .number → raw.resolved = false →
        raw.lexeme = String.ofList (whole ++ '.' :: fraction) →
        ∃ token, Token.resolve code raw = .ok token ∧ token.kind = .decimal ∧
          ∀ rest, readOperand (some places) (token :: rest) =
            .ok (.value (.fixed number places), rest)) ∧
      ∀ line, ∃ token,
        Token.tokenize line (String.ofList (whole ++ '.' :: fraction)) = .ok [token] ∧
        token.kind = .decimal ∧
        Reading.read (some places) [token] = .ok [.value (.fixed number places)] := by
  have valid : Precision.Valid (some places) := by
    refine Precision.valid_some_iff.2 ⟨low, ?_⟩
    simp only [Precision.greatest]
    omega
  have real := real?_sides digits given
  obtain ⟨n, e, rounded, exactly⟩ := Decimal.rounded_amount low high few moderate
  generalize Binary64.ofScientific false (decimal (whole ++ fraction)) (-(fraction.length : Int)) =
    x at real rounded
  have denotes (token : Token) (kind : token.kind = .decimal) (lexeme : token.lexeme = x.text) :
      Grammar.Denotes (some places) token (.fixed (.finite false n e) places) :=
    rounded ▸ .fixed kind (lexeme ▸ Literal.real_text x)
  refine ⟨.finite false n e, rfl, exactly, ?_, ?_⟩
  · intro raw code number fresh lexeme
    have point : '.' ∈ raw.lexeme.toList := by simp [lexeme]
    refine ⟨_, Token.resolve_real number fresh point (lexeme ▸ real) code, rfl, fun rest => ?_⟩
    rw [readOperand_cons]
    exact Grammar.readFrom_literal valid (denotes _ rfl rfl)
  · intro line
    obtain ⟨token, scanned, kind, lexeme⟩ :=
      Token.tokenize_real (numeric_sides digits) (by simp) real line
    have settled := Token.tokenize_settled scanned token (by simp)
    exact ⟨token, scanned, kind, read_literal valid settled (denotes token kind lexeme)⟩

/-- The nearest binary number to the 23rd power of ten is below it. -/
def belowPower : Binary64 := .finite false 0x152d02c7e14af6 24 (by decide)

/-- One digit is enough for the power itself. -/
theorem read_short_power :
    Literal.real? "100000000000000000000000." = some belowPower ∧ 0x152d02c7e14af6 * 2 ^ 24 < 10 ^ 23 ∧
      ∃ token number, Token.tokenize 1 "100000000000000000000000." = .ok [token] ∧
        Reading.read (some 1) [token] = .ok [.value (.fixed number 1)] ∧
        number.value = 10 ^ 23 := by
  have all : ("100000000000000000000000".toList ++ []).all Text.isDecimal = true := by
    decide +kernel
  have one : significant ("100000000000000000000000".toList ++ []) = ['1'] := by decide +kernel
  have few : ((significant ("100000000000000000000000".toList ++ [])).length : Int) ≤ 1 := by
    rw [one, List.length_singleton, Nat.cast_one]
  have written : decimal ("100000000000000000000000".toList ++ []) = 10 ^ 23 := by
    decide +kernel
  have exact : amount "100000000000000000000000".toList [] = 10 ^ 23 := by
    rw [amount, written]
    norm_num
  have moderate : Binary64.Moderate (amount "100000000000000000000000".toList []) := by
    rw [exact, ← zpow_natCast]
    exact .inr ⟨zpow_le_zpow_right₀ (by norm_num) (by norm_num),
      zpow_le_zpow_right₀ (by norm_num) (by norm_num)⟩
  obtain ⟨number, _, same, _, alone⟩ :=
    read_short (List.all_eq_true.1 all) (by simp) le_rfl (by norm_num) few moderate
  obtain ⟨token, scanned, _, read⟩ := alone 1
  exact ⟨by decide +kernel, by norm_num, token, number, scanned, read, same.trans exact⟩

end Reading
end Reckon

import Reckon.Proofs.Numeral
import Reckon.Token.Resolve

/-! What scanning and resolving give. A scanned token is made of characters of its own class, and
once it is resolved its literal can be read: it is the written form of a number. -/
namespace Reckon.Token

/-- A token as scanning leaves it. -/
inductive Scanned (line : Int) : Token → Prop where
  | operator : operator? c = some final →
      Scanned line ⟨.operator, String.ofList [c], line, place, false⟩
  | number : (∀ c ∈ cs, isNumeric c = true) →
      Scanned line ⟨.number, String.ofList cs, line, place, false⟩
  | word : (∀ c ∈ cs, Text.isLetter c = true) →
      Scanned line ⟨.word, String.ofList cs, line, place, false⟩

/-- A token as resolving leaves it: a literal is a natural number below the bound of words, or a
floating-point number, in its written form. -/
structure Settled (token : Token) : Prop where
  resolved : token.resolved = true
  integer : token.kind = .integer →
    ∃ n : Nat, n < Word.bound ∧ token.lexeme = String.ofList (Digits.ofInt n)
  decimal : token.kind = .decimal → ∃ x : Binary64, token.lexeme = x.text

/-- A word in its written form is short enough to be read. -/
theorem integer_small {n : Nat} (small : n < Word.bound) :
    Literal.integer (String.ofList (Digits.ofInt n)) = .ok (n : Int) := by
  refine Numeral.integer_ofInt (Nat.le_trans (m := 10) ?_ (by decide))
  rw [Digits.ofNat, Nat.length_toDigits_le_iff (by decide) (by decide)]
  have : (n : Int) < 0x80000000 := small
  omega

theorem takeWhile_all (accepts : Char → Bool) (cs : List Char) :
    ∀ c ∈ cs.takeWhile accepts, accepts c = true := by
  induction cs with
  | nil => simp
  | cons c cs ih =>
    by_cases h : accepts c = true
    · simpa [h] using ih
    · simp [h]

theorem scanFrom_scanned (line : Int) (position : Nat) (cs : List Char) :
    ∀ token ∈ scanFrom line position cs, Scanned line token := by
  fun_induction scanFrom line position cs with
  | case1 => simp
  | case2 position c cs operator ih =>
    rintro token (_ | ⟨_, member⟩)
    · obtain ⟨final, known⟩ := Option.isSome_iff_exists.1 operator
      exact .operator known
    · exact ih token member
  | case3 position c cs _ numeric run ih =>
    rintro token (_ | ⟨_, member⟩)
    · refine .number ?_
      intro d within
      rcases List.mem_cons.1 within with rfl | within
      · exact numeric
      · exact takeWhile_all isNumeric cs d within
    · exact ih token member
  | case4 position c cs _ _ letter run ih =>
    rintro token (_ | ⟨_, member⟩)
    · refine .word ?_
      intro d within
      rcases List.mem_cons.1 within with rfl | within
      · exact letter
      · exact takeWhile_all Text.isLetter cs d within
    · exact ih token member
  | case5 position c cs _ _ _ ih => exact ih

theorem scan_scanned (line : Int) (code : String) :
    ∀ token ∈ scan line code, Scanned line token := scanFrom_scanned line 0 code.toList

variable {line : Int} {word : String} {failure : Failure}

theorem operator_not_literal (known : operator? c = some final) :
    final ≠ .integer ∧ final ≠ .decimal := by
  simp only [operator?] at known
  split at known <;> cases known <;> decide

theorem keyword_not_literal (known : keyword? word = some final) :
    final ≠ .integer ∧ final ≠ .decimal := by
  simp only [keyword?] at known
  split at known <;> cases known <;> decide

theorem resolveNumber_settled (numeric : ∀ c ∈ cs, isNumeric c = true)
    (known : resolveNumber? (String.ofList cs) = some (final, shown)) :
    Settled ⟨final, shown, line, place, true⟩ := by
  simp only [resolveNumber?] at known
  rw [String.toList_ofList] at known
  by_cases point : cs.contains '.' = true
  · simp only [point, reduceIte, Option.map_eq_some_iff, Prod.mk.injEq] at known
    obtain ⟨x, _, rfl, rfl⟩ := known
    exact ⟨rfl, nofun, fun _ => ⟨x, rfl⟩⟩
  · simp only [point, reduceIte, Bool.false_eq_true] at known
    have digits : ∀ c ∈ (String.ofList cs).toList, Text.isDecimal c = true := by
      intro c member
      rw [String.toList_ofList] at member
      have pointless : c ≠ '.' := by
        rintro rfl
        exact point (by simpa using member)
      simpa [isNumeric, pointless] using numeric c member
    cases read : Literal.integer (String.ofList cs) with
    | error f => simp [read] at known
    | ok n =>
      have nonneg := Numeral.integer_nonneg digits read
      simp only [read, Option.ite_none_right_eq_some, Option.some.injEq, Prod.mk.injEq] at known
      obtain ⟨fits, rfl, rfl⟩ := known
      refine ⟨rfl, fun _ => ⟨n.toNat, ?_, by rw [Int.toNat_of_nonneg nonneg]⟩, nofun⟩
      rw [Int.toNat_of_nonneg nonneg]
      exact (Word.fits_iff.1 fits).2

theorem resolve_settled (scanned : Scanned line token)
    (resolves : resolve code token = .ok settled) : Settled settled := by
  cases scanned with
  | @operator c final place known =>
    simp only [resolve, lexemeOperator?, String.toList_ofList, known] at resolves
    cases resolves
    obtain ⟨integer, decimal⟩ := operator_not_literal known
    exact ⟨rfl, fun h => absurd h integer, fun h => absurd h decimal⟩
  | @number cs place numeric =>
    simp only [resolve] at resolves
    cases known : resolveNumber? (String.ofList cs) with
    | none => simp [known] at resolves
    | some found =>
      simp only [known] at resolves
      cases resolves
      exact resolveNumber_settled numeric known
  | @word cs place letters =>
    simp only [resolve] at resolves
    cases known : keyword? (String.ofList cs) with
    | none => simp [known] at resolves
    | some final =>
      simp only [known] at resolves
      cases resolves
      obtain ⟨integer, decimal⟩ := keyword_not_literal known
      exact ⟨rfl, fun h => absurd h integer, fun h => absurd h decimal⟩

/-- A scanned token that cannot be resolved is reported as a token error. -/
theorem resolve_error (scanned : Scanned line token)
    (refused : resolve code token = .error failure) : ∃ e, failure = .token e := by
  cases scanned with
  | operator known => simp [resolve, lexemeOperator?, known] at refused
  | @number cs place numeric =>
    simp only [resolve] at refused
    cases known : resolveNumber? (String.ofList cs) with
    | none =>
      simp only [known] at refused
      cases refused
      exact ⟨_, rfl⟩
    | some found => simp [known] at refused
  | @word cs place letters =>
    simp only [resolve] at refused
    cases known : keyword? (String.ofList cs) with
    | none =>
      simp only [known] at refused
      cases refused
      exact ⟨_, rfl⟩
    | some final => simp [known] at refused

theorem tokenize_settled (ok : tokenize line code = .ok tokens) :
    ∀ token ∈ tokens, Settled token := by
  intro token member
  obtain ⟨before, within, resolves⟩ := mapM_ok_mem ok member
  exact resolve_settled (scan_scanned line code before within) resolves

theorem tokenize_error (refused : tokenize line code = .error failure) :
    ∃ e, failure = .token e := by
  obtain ⟨token, within, refused⟩ := mapM_error_mem refused
  exact resolve_error (scan_scanned line code token within) refused

theorem resolve_of_resolved {token : Token} (resolved : token.resolved = true) (code : String) :
    token.resolve code = .ok token := by
  simp [resolve, resolved]

theorem Settled.resolve (settled : Settled token) (code : String) :
    token.resolve code = .ok token :=
  resolve_of_resolved settled.resolved code

end Reckon.Token

import Reckon.Literal
import Reckon.Binary64.Text
import Reckon.Proofs.Outcome

/-! Written numbers read back. Digits, points, signs and exponents are taken as they stand, so a
numeral put together from them is read as the number that it was put together for. -/
namespace Reckon.Numeral
open Digits (ofNat ofInt pointed signed)

/-- A character that a numeral keeps as it stands, also at either end. -/
def isPlain (c : Char) : Bool := c.toNat < 127 && !isGap c

theorem plain_digit (digit : c.isDigit = true) : isPlain c = true := by
  obtain ⟨low, high⟩ := Char.isDigit_iff_toNat.1 digit
  have low : 48 ≤ c.toNat := low
  have high : c.toNat ≤ 57 := high
  have space : c ≠ ' ' := by rintro rfl; simp at low
  simp [isPlain, isGap, space]
  omega

theorem trim_self (free : ∀ c ∈ cs, isGap c = false) : trim cs = cs := by
  have stays (l : List Char) (within : ∀ c ∈ l, c ∈ cs) : l.dropWhile isGap = l := by
    cases l with
    | nil => rfl
    | cons c l => simp [free c (within c (by simp))]
  rw [trim, stays cs (fun _ m => m), stays _ (by simp), List.reverse_reverse]

theorem trim_plain (h : ∀ c ∈ cs, isPlain c = true) : trim (cs.map plain) = cs := by
  simp only [isPlain, Bool.and_eq_true, decide_eq_true_eq, Bool.not_eq_true'] at h
  have kept : cs.map plain = cs := by
    refine (List.map_congr_left fun c member => ?_).trans (List.map_id cs)
    simp [plain, (h c member).1]
  rw [kept, trim_self fun c member => (h c member).2]

theorem takeSign_digit (digit : c.isDigit = true) (cs : List Char) :
    takeSign (c :: cs) = (false, c :: cs) := by
  simp only [takeSign]
  split
  · next h => simp [(List.cons.inj h).1] at digit
  · next h => simp [(List.cons.inj h).1] at digit
  · rfl

theorem isGrouped_digits (some : cs ≠ []) (digits : ∀ c ∈ cs, c.isDigit = true) :
    isGrouped cs = true := by
  induction cs with
  | nil => contradiction
  | cons c cs ih =>
    cases cs with
    | nil => simpa [isGrouped] using digits
    | cons d cs =>
      have first := digits c (by simp)
      have second := digits d (by simp)
      have more := ih (by simp) fun c member => digits c (by simp [member])
      rw [isGrouped]
      · simp [first, more]
      · simp
      · rintro rest ⟨⟩
        simp at second

theorem ofNat_digits (n : Nat) : ∀ c ∈ ofNat n, c.isDigit = true := fun _ member =>
  Nat.isDigit_of_mem_toDigits (by decide) (by decide) member

theorem ofNat_ne_nil (n : Nat) : ofNat n ≠ [] := Nat.toDigits_ne_nil

theorem value_ofNat (n : Nat) : value (ofNat n) = n := Nat.ofDigitChars_ten_toDigits

theorem ofInt_plain (n : Int) : ∀ c ∈ ofInt n, isPlain c = true := by
  intro c member
  simp only [ofInt] at member
  split at member
  · rcases List.mem_cons.1 member with rfl | member
    · decide
    · exact plain_digit (ofNat_digits _ c member)
  · exact plain_digit (ofNat_digits _ c member)

theorem takeSign_ofNat (n : Nat) : takeSign (ofNat n) = (false, ofNat n) := by
  cases digits : ofNat n with
  | nil => exact absurd digits (ofNat_ne_nil n)
  | cons c cs => exact takeSign_digit (ofNat_digits n c (by simp [digits])) cs

theorem takeSign_ofInt (n : Int) : takeSign (ofInt n) = (decide (n < 0), ofNat n.natAbs) := by
  simp only [ofInt]
  split
  case isTrue negative => simp [takeSign, negative]
  case isFalse positive => simp [takeSign_ofNat, positive]

/-- A sign and digits are read as their number, unless there are too many of them. -/
theorem integer_signed (sign : takeSign (trim (text.toList.map plain)) = (negative, run))
    (given : run ≠ []) (digits : ∀ c ∈ run, c.isDigit = true) : Literal.integer text =
      if maxIntegerDigits < run.length then .error (.tooManyDigits run.length)
      else .ok (signed negative (value run)) := by
  have taken : run.takeWhile (fun c => c.isDigit || c = '_') = run := by
    have accepted : ∀ c ∈ run, (c.isDigit || decide (c = '_')) = true := by
      intro c member
      simp [digits c member]
    rw [← List.append_nil run, List.takeWhile_append_of_pos]
    · simp
    · simpa using accepted
  have kept : run.filter Char.isDigit = run := List.filter_eq_self.2 digits
  simp only [Literal.integer]
  rw [sign]
  simp [taken, kept, isGrouped_digits given digits]

/-- An integer in its written form is read as itself, as long as the reader takes its digits. -/
theorem integer_ofInt (short : (ofNat n.natAbs).length ≤ maxIntegerDigits) :
    Literal.integer (String.ofList (ofInt n)) = .ok n := by
  have sign : takeSign (trim ((String.ofList (ofInt n)).toList.map plain)) =
      (decide (n < 0), ofNat n.natAbs) := by
    rw [String.toList_ofList, trim_plain (ofInt_plain n), takeSign_ofInt]
  rw [integer_signed sign (ofNat_ne_nil _) (ofNat_digits _), if_neg (Nat.not_lt.2 short),
    value_ofNat]
  simp only [signed, decide_eq_true_eq]
  congr 1
  omega

/-- The digits with zeros in front, which `pointed` puts a point into. -/
def padded (n places : Nat) : List Char :=
  List.replicate (places + 1 - (ofNat n).length) '0' ++ ofNat n

theorem padded_digits (n places : Nat) : ∀ c ∈ padded n places, c.isDigit = true := by
  intro c member
  rcases List.mem_append.1 member with zero | digit
  · rw [List.eq_of_mem_replicate zero]
    rfl
  · exact ofNat_digits n c digit

theorem lt_length_padded (n places : Nat) : places < (padded n places).length := by
  have := List.length_pos_iff.2 (ofNat_ne_nil n)
  simp only [padded, List.length_append, List.length_replicate]
  omega

theorem value_padded (n places : Nat) : value (padded n places) = n := by
  simp [value, padded, Nat.ofDigitChars_append, Nat.ofDigitChars_replicate_zero, ofNat,
    Nat.ofDigitChars_ten_toDigits]

theorem pointed_eq (n places : Nat) : pointed n places =
    if places = 0 then padded n places
    else (padded n places).take ((padded n places).length - places) ++
      '.' :: (padded n places).drop ((padded n places).length - places) := rfl

/-- Neither a digit nor a point comes next. -/
def Stops (tail : List Char) : Prop :=
  ∀ c, tail.head? = some c → c.isDigit = false ∧ c ≠ '.'

/-- A run of a class is taken whole where something else follows it. -/
theorem span_run {accepts : Char → Bool} {run tail : List Char}
    (inside : ∀ c ∈ run, accepts c = true)
    (stops : ∀ c, tail.head? = some c → accepts c = false) :
    (run ++ tail).takeWhile accepts = run ∧ (run ++ tail).dropWhile accepts = tail := by
  rw [List.takeWhile_append_of_pos inside, List.dropWhile_append_of_pos inside]
  cases tail with
  | nil => simp
  | cons c tail => simp [stops c rfl]

theorem scientific?_whole (digits : ∀ c ∈ whole, c.isDigit = true) (given : whole ≠ [])
    (stops : Stops tail) : scientific? (whole ++ tail) =
      (exponent? tail).map fun exponent => (value whole, exponent) := by
  obtain ⟨taken, dropped⟩ := span_run digits fun c head => (stops c head).1
  simp only [scientific?]
  rw [taken, dropped]
  cases tail with
  | nil => simp [given]
  | cons c tail =>
    have point : c ≠ '.' := (stops c rfl).2
    simp [given, point]

/-- Digits and a point, in front of what may be an exponent. -/
theorem scientific?_point (digits : ∀ c ∈ whole, c.isDigit = true)
    (digits' : ∀ c ∈ fraction, c.isDigit = true)
    (ends : ∀ c, tail.head? = some c → c.isDigit = false) :
    scientific? (whole ++ '.' :: fraction ++ tail) =
      if whole.isEmpty && fraction.isEmpty then none
      else (exponent? tail).map fun exponent =>
        (value (whole ++ fraction), exponent - (fraction.length : Int)) := by
  have point : ∀ c, ('.' :: fraction ++ tail).head? = some c → c.isDigit = false := by
    rintro _ ⟨⟩
    rfl
  obtain ⟨taken, dropped⟩ := span_run digits point
  obtain ⟨taken', dropped'⟩ := span_run digits' ends
  simp only [scientific?]
  rw [List.append_assoc, taken, dropped]
  simp only [List.cons_append, taken', dropped']

/-- The digits around a point count as one numeral, with a place less for each behind it. -/
theorem scientific?_pointed (n places : Nat) (stops : Stops tail) :
    scientific? (pointed n places ++ tail) =
      (exponent? tail).map fun exponent => (n, exponent - (places : Int)) := by
  have digits := padded_digits n places
  have long := lt_length_padded n places
  rw [pointed_eq]
  split
  case isTrue none =>
    have given : padded n places ≠ [] := List.length_pos_iff.1 (by omega)
    rw [scientific?_whole digits given stops, value_padded, none]
    simp
  case isFalse =>
    have given : (padded n places).take ((padded n places).length - places) ≠ [] :=
      List.length_pos_iff.1 (by rw [List.length_take]; omega)
    have behind : ((padded n places).length - ((padded n places).length - places)) = places := by
      omega
    rw [scientific?_point (fun c member => digits c (List.mem_of_mem_take member))
      (fun c member => digits c (List.mem_of_mem_drop member)) fun c head => (stops c head).1]
    rw [List.take_append_drop, value_padded, List.length_drop, behind]
    simp [given]

theorem exponent?_exponentText (n : Int) : exponent? (Binary64.exponentText n) = some n := by
  have read (sign : Char) (negative : Bool)
      (signs : ∀ cs, takeSign (sign :: cs) = (negative, cs)) :
      exponent? ('e' :: sign :: List.replicate (2 - (ofNat n.natAbs).length) '0' ++
          ofNat n.natAbs) =
        some (signed negative n.natAbs) := by
    have digits : (ofNat n.natAbs).all Char.isDigit = true :=
      List.all_eq_true.2 (ofNat_digits _)
    have amount : value (List.replicate (2 - (ofNat n.natAbs).length) '0' ++ ofNat n.natAbs) =
        n.natAbs := by
      simp [value, Nat.ofDigitChars_append, Nat.ofDigitChars_replicate_zero, ofNat,
        Nat.ofDigitChars_ten_toDigits]
    simp [exponent?, signs, digits, amount, ofNat_ne_nil]
  simp only [Binary64.exponentText]
  by_cases negative : n < 0
  · have := read '-' true fun _ => rfl
    simp only [negative, reduceIte] at this ⊢
    rw [this]
    refine congrArg some ?_
    simp only [signed, reduceIte]
    omega
  · have := read '+' false fun _ => rfl
    simp only [negative, reduceIte] at this ⊢
    rw [this]
    refine congrArg some ?_
    simp only [signed, reduceIte, Bool.false_eq_true]
    omega

/-- The coefficient and exponent that the written form of `s` shows. -/
def shown (s : Binary64.Scientific) : Binary64.Scientific :=
  if Binary64.isPositional s then s.positional else s

theorem positional_exponent (s : Binary64.Scientific) :
    -((-s.positional.exponent).toNat : Int) = s.positional.exponent := by
  simp only [Binary64.Scientific.positional]
  split
  · omega
  · rfl

theorem scientific?_layout (s : Binary64.Scientific) :
    scientific? (Binary64.layout s) = some ((shown s).coefficient, (shown s).exponent) := by
  simp only [Binary64.layout, shown]
  split
  · have ends : Stops [] := by simp [Stops]
    have read := scientific?_pointed s.positional.coefficient (-s.positional.exponent).toNat ends
    rw [List.append_nil] at read
    simp only [read, exponent?, Option.map_some, Int.zero_sub, positional_exponent]
  · have stops (n : Int) : Stops (Binary64.exponentText n) := by
      rintro _ ⟨⟩
      decide
    simp [scientific?_pointed _ _ (stops _), exponent?_exponentText]

/-- The characters that written numbers are made of. -/
def isMark (c : Char) : Bool := c.isDigit || c ∈ ['.', 'e', '+', '-']

theorem mark_plain (mark : isMark c = true) : isPlain c = true ∧ c ≠ '_' := by
  simp only [isMark, Bool.or_eq_true, decide_eq_true_eq, List.mem_cons, List.not_mem_nil,
    or_false] at mark
  rcases mark with digit | rfl | rfl | rfl | rfl
  · refine ⟨plain_digit digit, ?_⟩
    rintro rfl
    simp at digit
  all_goals decide

theorem digit_mark (digit : c.isDigit = true) : isMark c = true := by
  simp [isMark, digit]

theorem mem_pointed (member : c ∈ pointed n places) : c.isDigit = true ∨ c = '.' := by
  have digits := padded_digits n places
  rw [pointed_eq] at member
  split at member
  · exact .inl (digits c member)
  · rcases List.mem_append.1 member with whole | fraction
    · exact .inl (digits c (List.mem_of_mem_take whole))
    · rcases List.mem_cons.1 fraction with point | fraction
      · exact .inr point
      · exact .inl (digits c (List.mem_of_mem_drop fraction))

theorem pointed_marks (n places : Nat) : ∀ c ∈ pointed n places, isMark c = true := by
  intro c member
  rcases mem_pointed member with digit | rfl
  · exact digit_mark digit
  · rfl

theorem exponentText_marks (n : Int) : ∀ c ∈ Binary64.exponentText n, isMark c = true := by
  intro c member
  simp only [Binary64.exponentText] at member
  simp only [List.cons_append, List.mem_cons, List.mem_append] at member
  rcases member with rfl | rfl | zero | digit
  · rfl
  · split <;> rfl
  · rw [List.eq_of_mem_replicate zero]
    rfl
  · exact digit_mark (ofNat_digits _ c digit)

theorem layout_marks (s : Binary64.Scientific) : ∀ c ∈ Binary64.layout s, isMark c = true := by
  intro c member
  simp only [Binary64.layout] at member
  split at member
  · exact pointed_marks _ _ c member
  · rcases List.mem_append.1 member with digits | size
    · exact pointed_marks _ _ c digits
    · exact exponentText_marks _ c size

theorem pointed_first (n places : Nat) : ∃ c cs, pointed n places = c :: cs ∧ c.isDigit = true := by
  have digits := padded_digits n places
  have long := lt_length_padded n places
  have first : ∃ c cs, padded n places = c :: cs := List.exists_cons_of_length_pos (by omega)
  obtain ⟨c, cs, eq⟩ := first
  rw [pointed_eq]
  split
  · exact ⟨c, cs, eq, digits c (by simp [eq])⟩
  · obtain ⟨whole, amount⟩ : ∃ whole, (padded n places).length - places = whole + 1 :=
      ⟨(padded n places).length - places - 1, by omega⟩
    rw [amount, eq]
    exact ⟨c, _, rfl, digits c (by simp [eq])⟩

theorem takeSign_layout (s : Binary64.Scientific) :
    takeSign (Binary64.layout s) = (false, Binary64.layout s) := by
  have first : ∃ c cs, Binary64.layout s = c :: cs ∧ c.isDigit = true := by
    simp only [Binary64.layout]
    split
    · exact pointed_first _ _
    · obtain ⟨c, cs, eq, digit⟩ := pointed_first s.coefficient (Digits.width s.coefficient - 1)
      exact ⟨c, cs ++ _, congrArg (· ++ _) eq, digit⟩
  obtain ⟨c, cs, eq, digit⟩ := first
  rw [eq]
  exact takeSign_digit digit cs

theorem ungroup_self (cs : List Char) (afterDigit : Bool) (single : ∀ c ∈ cs, c ≠ '_') :
    Literal.ungroup afterDigit cs = some cs := by
  induction cs generalizing afterDigit with
  | nil => rfl
  | cons c cs ih =>
    have here := single c (by simp)
    have later := ih c.isDigit fun d member => single d (by simp [member])
    rw [Literal.ungroup]
    · simp [later]
    · rintro rfl rfl
      exact here rfl
    · rintro _ _ rfl _
      exact here rfl

theorem real?_layout (negative : Bool) (s : Binary64.Scientific) :
    Literal.real?
        (String.ofList (if negative then '-' :: Binary64.layout s else Binary64.layout s)) =
      some (.ofScientific negative (shown s).coefficient (shown s).exponent) := by
  have marks : ∀ c ∈ (if negative then '-' :: Binary64.layout s else Binary64.layout s),
      isMark c = true := by
    intro c member
    split at member
    · rcases List.mem_cons.1 member with rfl | member
      · rfl
      · exact layout_marks s c member
    · exact layout_marks s c member
  have sign : takeSign (if negative then '-' :: Binary64.layout s else Binary64.layout s) =
      (negative, Binary64.layout s) := by
    cases negative
    · exact takeSign_layout s
    · rfl
  simp only [Literal.real?]
  rw [String.toList_ofList, trim_plain fun c member => (mark_plain (marks c member)).1]
  rw [ungroup_self _ _ fun c member => (mark_plain (marks c member)).2]
  simp [sign, scientific?_layout]

/-- What a finite number is written as is read as the number nearest to what it shows. -/
theorem real?_text (negative : Bool) (significand : Nat) (exponent : Int)
    (canonical : Binary64.Canonical significand exponent) :
    Literal.real? (Binary64.finite negative significand exponent canonical).text =
      some (.ofScientific negative (shown (Binary64.shortest significand exponent)).coefficient
        (shown (Binary64.shortest significand exponent)).exponent) :=
  real?_layout negative (Binary64.shortest significand exponent)

/-- The written form of any floating-point number is read as one again. -/
theorem real_text (x : Binary64) : ∃ y, Literal.real x.text = .ok y := by
  have read : ∃ y, Literal.real? x.text = some y := by
    cases x with
    | finite negative significand exponent canonical => exact ⟨_, real?_text ..⟩
    | infinite negative => cases negative <;> exact ⟨_, rfl⟩
    | nan => exact ⟨.nan, rfl⟩
  obtain ⟨y, read⟩ := read
  exact ⟨y, by rw [Literal.real, read]⟩

theorem mem_of_mem_trim (member : c ∈ trim cs) : c ∈ cs := by
  have kept := (List.dropWhile_sublist isGap).subset (List.mem_reverse.1 member)
  exact (List.dropWhile_sublist isGap).subset (List.mem_reverse.1 kept)

theorem takeSign_negative (negative : (takeSign cs).1 = true) : '-' ∈ cs := by
  simp only [takeSign] at negative
  split at negative
  · simp
  · simp at negative
  · simp at negative

theorem plain_ne_minus (decimal : Text.isDecimal c = true) : plain c ≠ '-' := by
  obtain ⟨d, known⟩ := Option.isSome_iff_exists.1 decimal
  have small := Text.digitValue?_lt known
  simp only [plain]
  split
  · rintro rfl
    revert decimal
    decide
  · split
    · decide
    · rw [known]
      have all : ∀ d < 10, Nat.digitChar d ≠ '-' := by decide
      exact all d small

/-- A numeral of decimal digits has no sign. -/
theorem integer_nonneg (digits : ∀ c ∈ text.toList, Text.isDecimal c = true)
    (read : Literal.integer text = .ok n) : 0 ≤ n := by
  have unsigned : (takeSign (trim (text.toList.map plain))).1 = false := by
    apply Bool.eq_false_iff.2
    intro negative
    have member := mem_of_mem_trim (takeSign_negative negative)
    obtain ⟨c, within, minus⟩ := List.mem_map.1 member
    exact plain_ne_minus (digits c within) minus
  simp only [Literal.integer] at read
  simp only [unsigned] at read
  split at read
  · cases read
  · split at read
    · cases read
    · split at read
      · cases read
      · cases read
        simp [signed]

end Reckon.Numeral

import Reckon.Proofs.Faces
import Reckon.Proofs.ReadBack

/-! What the lexeme of a token is read as when it stands alone: as the token again, unless it is a
decimal in exponent form or a special number, which falls apart or is no text of tokens. -/
namespace Reckon

/-- Without a minus in front; an undefined number has none. -/
def Binary64.Unsigned : Binary64 → Prop
  | .finite negative .. => negative = false
  | .infinite negative => negative = false
  | .nan => True

namespace Binary64

theorem settle_unsigned (significand : Nat) (exponent : Int) :
    (settle false significand exponent).Unsigned := by
  simp only [settle]
  split
  · rfl
  · split <;> rfl

theorem ofRatio_unsigned (num den : Nat) : (ofRatio false num den).Unsigned := by
  simp only [ofRatio]
  split
  · rfl
  · exact settle_unsigned _ _

theorem ofScientific_unsigned (coefficient : Nat) (exponent : Int) :
    (ofScientific false coefficient exponent).Unsigned := by
  simp only [ofScientific]
  split
  · rfl
  · split
    · rfl
    · split
      · rfl
      · exact ofRatio_unsigned _ _

end Binary64

namespace Literal

theorem mem_of_mem_ungroup (ungrouped : ungroup afterDigit cs = some out) (member : c ∈ out) :
    c ∈ cs := by
  fun_induction ungroup afterDigit cs generalizing out with
  | case1 => simp_all
  | case2 => cases ungrouped
  | case3 afterDigit d cs _ ih =>
    obtain ⟨rest, later, rfl⟩ := Option.map_eq_some_iff.1 ungrouped
    rcases List.mem_cons.1 member with rfl | member
    · simp
    · simp [ih later member]
  | case4 => cases ungrouped
  | case5 afterDigit d cs _ _ ih =>
    obtain ⟨rest, later, rfl⟩ := Option.map_eq_some_iff.1 ungrouped
    rcases List.mem_cons.1 member with rfl | member
    · simp
    · simp [ih later member]

/-- A number written without a minus has none. -/
theorem real?_unsigned (bare : ∀ c ∈ text.toList, Numeral.plain c ≠ '-')
    (read : real? text = some x) : x.Unsigned := by
  simp only [real?, Option.bind_eq_bind, Option.bind_eq_some_iff] at read
  obtain ⟨cs, ungrouped, read⟩ := read
  have sign : (Numeral.takeSign cs).1 = false := by
    apply Bool.eq_false_iff.2
    intro negative
    have member := mem_of_mem_ungroup ungrouped (Numeral.takeSign_negative negative)
    obtain ⟨c, within, minus⟩ := List.mem_map.1 (Numeral.mem_of_mem_trim member)
    exact bare c within minus
  simp only [sign] at read
  split at read
  · cases read
    exact Binary64.ofScientific_unsigned _ _
  · split at read <;> cases read <;> trivial

end Literal

namespace Text

theorem isDecimal_of_isDigit (digit : c.isDigit = true) : isDecimal c = true := by
  obtain ⟨low, high⟩ := Char.isDigit_iff_toNat.1 digit
  have low : 48 ≤ c.toNat := low
  have high : c.toNat ≤ 57 := high
  exact isDecimal_iff.2 ⟨48, by decide, low, by omega⟩

/-- The table of blanks has no code point in common with those of letters and of digits. -/
theorem blanks_apart : ∀ blank ∈ blanks,
    ∀ range ∈ letters ++ zeros.map fun first => (first, first + 9),
      blank.2 < range.1 ∨ range.2 < blank.1 := by
  decide +kernel

theorem isBlank_eq_false
    (within : ∃ range ∈ letters ++ zeros.map fun first => (first, first + 9),
      range.1 ≤ c.toNat ∧ c.toNat ≤ range.2) : isBlank c = false := by
  obtain ⟨range, member, low, high⟩ := within
  apply Bool.eq_false_iff.2
  intro blank
  obtain ⟨range', member', low', high'⟩ := Ranges.has_iff.1 blank
  have := blanks_apart range' member' range member
  omega

end Text

namespace Token
open Text (isBlank)

theorem isNumeric_of_isDigit (digit : c.isDigit = true) : isNumeric c = true := by
  simp [isNumeric, Text.isDecimal_of_isDigit digit]

/-- No character of a token is blank. -/
theorem isBlank_of_isAccepted (accepted : isAccepted c = true) : isBlank c = false := by
  obtain ⟨kind, accepts⟩ := isAccepted_iff.1 accepted
  rcases accepts_iff.1 accepts with ⟨_, operator⟩ | ⟨_, numeric⟩ | ⟨_, letter⟩
  · simp only [isOperator, operator?] at operator
    split at operator <;> first | decide +kernel | cases operator
  · simp only [isNumeric, Bool.or_eq_true, decide_eq_true_eq] at numeric
    rcases numeric with decimal | rfl
    · obtain ⟨first, member, low, high⟩ := Text.isDecimal_iff.1 decimal
      refine Text.isBlank_eq_false ⟨(first, first + 9), ?_, low, Nat.le_of_lt_succ high⟩
      exact List.mem_append_right _ (List.mem_map.2 ⟨first, member, rfl⟩)
    · decide +kernel
  · obtain ⟨range, member, low, high⟩ := Text.Ranges.has_iff.1 letter
    exact Text.isBlank_eq_false ⟨range, List.mem_append_left _ member, low, high⟩

variable {line : Int} {word : String} {shown : Face} {x : Binary64}

theorem readings_operator (known : operator? c = some final) :
    readings [c] = some [(final, String.ofList [c])] := by
  have operator : isOperator c = true := by simp [isOperator, known]
  simp [readings, faces_operator operator, Face.settle?, lexemeOperator?, known]

theorem readings_word (given : word ≠ "") (letters : ∀ c ∈ word.toList, Text.isLetter c = true)
    (known : keyword? word = some final) : readings word.toList = some [(final, word)] := by
  have one : faces word.toList = [(.word, word)] := by
    simpa using faces_whole .word (by decide) (by simpa using given) letters
  simp [readings, one, Face.settle?, known]

theorem digits_ofInt (n : Nat) : ∀ c ∈ Digits.ofInt n, c.isDigit = true :=
  Numeral.ofNat_digits n

theorem readings_integer {n : Nat} (small : n < Word.bound) :
    readings (Digits.ofInt n) = some [(.integer, String.ofList (Digits.ofInt n))] := by
  have given : Digits.ofInt n ≠ [] := Numeral.ofNat_ne_nil n
  have one := faces_whole .number (by decide) given
    fun c member => isNumeric_of_isDigit (digits_ofInt n c member)
  have pointless : '.' ∉ Digits.ofInt n := fun point => absurd (digits_ofInt n _ point) (by decide)
  have fits : Word.fits n = true := Word.fits_iff.2 ⟨by simp [Word.bound], small⟩
  simp [readings, one, Face.settle?, resolveNumber?, pointless, integer_small small, fits]

theorem readings_real (numeric : ∀ c ∈ cs, isNumeric c = true) (point : '.' ∈ cs)
    (read : Literal.real? (String.ofList cs) = some x) :
    readings cs = some [(.decimal, x.text)] := by
  have one := faces_whole .number (by decide) (List.ne_nil_of_mem point) numeric
  simp [readings, one, Face.settle?, resolveNumber?, point, read]

/-- A line that is one number with a point in it has one token. -/
theorem tokenize_real (numeric : ∀ c ∈ cs, isNumeric c = true) (point : '.' ∈ cs)
    (read : Literal.real? (String.ofList cs) = some x) (line : Int) :
    ∃ token, tokenize line (String.ofList cs) = .ok [token] ∧ token.kind = .decimal ∧
      token.lexeme = x.text := by
  have reads := readings_real numeric point read
  rw [← String.toList_ofList (l := cs)] at reads
  obtain ⟨tokens, scanned, faces⟩ := tokenize_of_readings reads line
  obtain ⟨token, rfl, face⟩ := List.map_eq_singleton_iff.1 faces
  obtain ⟨kind, lexeme⟩ := Prod.mk.inj face
  exact ⟨token, scanned, kind, lexeme⟩

theorem readings_decimal (numeric : ∀ c ∈ x.text.toList, isNumeric c = true)
    (point : '.' ∈ x.text.toList) : readings x.text.toList = some [(.decimal, x.text)] :=
  readings_real numeric point (by rw [String.ofList_toList, Literal.real?_text])

theorem pointed_numeric (n places : Nat) :
    ∀ c ∈ Digits.pointed n places, isNumeric c = true := by
  intro c member
  rcases Numeral.mem_pointed member with digit | rfl
  · exact isNumeric_of_isDigit digit
  · decide +kernel

/-- Written positionally, a number is one run of digits with a point in it. -/
theorem layout_positional (positional : Binary64.isPositional s = true) :
    (∀ c ∈ Binary64.layout s, isNumeric c = true) ∧ '.' ∈ Binary64.layout s := by
  have places : (-s.positional.exponent).toNat ≠ 0 := by
    simp only [Binary64.Scientific.positional]
    split
    · omega
    · simp
  simp only [Binary64.layout, positional, reduceIte]
  refine ⟨pointed_numeric _ _, ?_⟩
  simp [Numeral.pointed_eq, places]

/-- Written with an exponent, a number goes on with a letter after its first digits. -/
theorem layout_exponent (large : Binary64.isPositional s = false) :
    ∃ front back, Binary64.layout s = front ++ 'e' :: back ∧ front ≠ [] ∧
      ∀ c ∈ front, isNumeric c = true := by
  obtain ⟨c, cs, first, _⟩ :=
    Numeral.pointed_first s.coefficient (Digits.width s.coefficient - 1)
  simp only [Binary64.layout, large, Bool.false_eq_true, reduceIte]
  exact ⟨_, _, rfl, by simp [first], pointed_numeric _ _⟩

/-- The face of a token as resolving leaves it. -/
inductive Legible : Face → Prop where
  | operator : operator? c = some final → Legible (final, String.ofList [c])
  | word {word : String} : word ≠ "" → (∀ c ∈ word.toList, Text.isLetter c = true) →
      keyword? word = some final → Legible (final, word)
  | integer {n : Nat} : n < Word.bound → Legible (.integer, String.ofList (Digits.ofInt n))
  | decimal {x : Binary64} : x.Unsigned → Legible (.decimal, x.text)

/-- A decimal with a letter in it, that of its exponent or of its name. -/
def Face.Lettered (face : Face) : Prop :=
  face.1 = .decimal ∧ ∃ c ∈ face.2.toList, Text.isLetter c = true

theorem plain_ne_minus (numeric : isNumeric c = true) : Numeral.plain c ≠ '-' := by
  simp only [isNumeric, Bool.or_eq_true, decide_eq_true_eq] at numeric
  rcases numeric with decimal | rfl
  · exact Numeral.plain_ne_minus decimal
  · decide

theorem resolveNumber_legible (numeric : ∀ c ∈ cs, isNumeric c = true)
    (known : resolveNumber? (String.ofList cs) = some shown) : Legible shown := by
  have settled : Settled ⟨shown.1, shown.2, 1, 0, true⟩ := resolveNumber_settled numeric known
  simp only [resolveNumber?] at known
  split at known
  · obtain ⟨x, read, rfl⟩ := Option.map_eq_some_iff.1 known
    have bare : ∀ c ∈ (String.ofList cs).toList, Numeral.plain c ≠ '-' := by
      simpa using fun c member => plain_ne_minus (numeric c member)
    exact .decimal (Literal.real?_unsigned bare read)
  · split at known
    · simp only [Option.ite_none_right_eq_some, Option.some.injEq] at known
      obtain ⟨_, rfl⟩ := known
      obtain ⟨n, small, lexeme⟩ := settled.integer rfl
      simp only at lexeme
      exact lexeme ▸ .integer small
    · cases known

theorem Scanned.legible (scanned : Scanned line token) (given : token.lexeme ≠ "")
    (settles : (face token).settle? = some shown) : Legible shown := by
  cases scanned with
  | @operator c final place known =>
    obtain rfl : (final, String.ofList [c]) = shown := by
      simpa [face, Face.settle?, lexemeOperator?, known] using settles
    exact .operator known
  | @number cs place numeric => exact resolveNumber_legible numeric settles
  | @word cs place letters =>
    obtain ⟨final, known, rfl⟩ := Option.map_eq_some_iff.1 settles
    exact .word given (by simpa using letters) known

theorem tokenize_legible (ok : tokenize line code = .ok tokens) :
    ∀ token ∈ tokens, Legible (face token) := by
  intro token member
  obtain ⟨before, within, resolves⟩ := mapM_ok_mem ok member
  have stands := (scanFrom_exhausts line code.toList).stands before within
  have settles := resolve_face stands.scanned.fresh code
  rw [resolves] at settles
  exact stands.scanned.legible stands.nonempty settles.symm

theorem not_lettered (numeric : ∀ c ∈ x.text.toList, isNumeric c = true) :
    ¬ Face.Lettered (.decimal, x.text) := by
  rintro ⟨_, c, member, letter⟩
  simp [isLetter_of_isNumeric (numeric c member)] at letter

/-- A number without a minus that is not finite is written as a word that is no keyword. -/
theorem readings_special (unsigned : x.Unsigned) (special : x.isFinite = false) :
    readings x.text.toList = none ∧ ∃ c ∈ x.text.toList, Text.isLetter c = true := by
  have unread (word : String) (given : word.toList ≠ [])
      (letters : word.toList.all Text.isLetter = true) (unknown : keyword? word = none) :
      readings word.toList = none ∧ ∃ c ∈ word.toList, Text.isLetter c = true := by
    have inside := List.all_eq_true.1 letters
    have one : faces word.toList = [(.word, word)] := by
      simpa using faces_whole .word (by decide) given inside
    obtain ⟨c, member⟩ := List.exists_mem_of_ne_nil _ given
    exact ⟨by simp [readings, one, Face.settle?, unknown], c, member, inside c member⟩
  cases x with
  | finite negative significand exponent canonical => cases special
  | infinite negative =>
    obtain rfl : negative = false := unsigned
    exact unread "inf" (by simp) (by decide +kernel) (by decide)
  | nan => exact unread "nan" (by simp) (by decide +kernel) (by decide)

/-- A number without a minus is written in one of three ways. -/
theorem text_cases (unsigned : x.Unsigned) :
    ((∀ c ∈ x.text.toList, isNumeric c = true) ∧ '.' ∈ x.text.toList) ∨
      (∃ front back, x.text.toList = front ++ 'e' :: back ∧ front ≠ [] ∧
        ∀ c ∈ front, isNumeric c = true) ∨
      x.isFinite = false := by
  cases x with
  | finite negative significand exponent canonical =>
    obtain rfl : negative = false := unsigned
    simp only [Binary64.text, Bool.false_eq_true, reduceIte, String.toList_ofList]
    cases positional : Binary64.isPositional (Binary64.shortest significand exponent) with
    | true => exact .inl (layout_positional positional)
    | false => exact .inr (.inl (layout_exponent positional))
  | infinite negative => exact .inr (.inr rfl)
  | nan => exact .inr (.inr rfl)

/-- A lexeme without a letter of its own is read as its token. -/
theorem Legible.reads (legible : Legible shown) (plain : ¬ shown.Lettered) :
    readings shown.2.toList = some [shown] := by
  cases legible with
  | operator known => simpa using readings_operator known
  | word given letters known => exact readings_word given letters known
  | integer small => simpa using readings_integer small
  | @decimal x unsigned =>
    rcases text_cases unsigned with ⟨numeric, point⟩ | ⟨front, back, split, _⟩ | special
    · exact readings_decimal numeric point
    · exact absurd ⟨rfl, 'e', by simp [split], by decide +kernel⟩ plain
    · exact absurd ⟨rfl, (readings_special unsigned special).2⟩ plain

/-- A lexeme with a letter of its own is no token's, unless two or more tokens have it together. -/
theorem Legible.parts (legible : Legible shown) (lettered : shown.Lettered)
    (reads : readings shown.2.toList = some found) : 2 ≤ found.length := by
  cases legible with
  | @decimal x unsigned =>
    rcases text_cases unsigned with ⟨numeric, _⟩ | ⟨front, back, split, given, numeric⟩ | special
    · exact absurd lettered (not_lettered numeric)
    · obtain ⟨c, front, rfl⟩ := List.exists_cons_of_ne_nil given
      -- A number ends at the letter of its exponent, so there is a token on either side.
      have apart : Apart (c :: front) ('e' :: back) := by
        rintro kind d _ _ last ⟨⟩ accepts
        have number : Kind.number.accepts d = true := numeric d (List.mem_of_getLast? last)
        obtain rfl := accepts_unique number accepts
        decide +kernel
      rw [split, readings_append_iff apart] at reads
      obtain ⟨first, second, reads, reads', rfl⟩ := reads
      have accepted : isAccepted c = true := isAccepted_iff.2 ⟨.number, numeric c (by simp)⟩
      have one := List.length_pos_iff.2 (readings_ne_nil accepted reads)
      have two := List.length_pos_iff.2 (readings_ne_nil (by decide +kernel) reads')
      simp only [List.length_append]
      omega
    · simp [(readings_special unsigned special).1] at reads
  | operator known => exact absurd lettered.1 (operator_not_literal known).2
  | word _ _ known => exact absurd lettered.1 (keyword_not_literal known).2
  | integer => cases lettered.1

end Token

end Reckon

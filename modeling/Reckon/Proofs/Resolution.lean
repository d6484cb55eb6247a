import Reckon.Proofs.Lexemes

/-! Which lines can be tokenized. A number has one point and a digit on one of its sides, or it is
made of digits that write a word of the machine; a name is one of nine in any mixture of cases. The
first token of another form is the one that the error is about. -/
namespace Reckon

theorem forall₂_of_mapM {f : α → Except ε β} {R : α → β → Prop} {l : List α} {out : List β}
    (h : l.mapM f = .ok out) (made : ∀ a ∈ l, ∀ b, f a = .ok b → R a b) : List.Forall₂ R l out := by
  induction l generalizing out with
  | nil =>
    cases h
    exact .nil
  | cons a l ih =>
    simp only [List.mapM_cons, bind_eq_ok, pure_eq_ok] at h
    obtain ⟨b, here, rest, later, rfl⟩ := h
    exact .cons (made a (by simp) b here) (ih later fun a' member => made a' (by simp [member]))

namespace Numeral

variable {cs : List Char}

/-- The number that decimal digits of any script write. -/
def decimal (cs : List Char) : Nat :=
  cs.foldl (fun n c => 10 * n + (Text.digitValue? c).getD 0) 0

theorem plain_decimal (known : Text.digitValue? c = some d) : plain c = Nat.digitChar d := by
  have decimal : Text.isDecimal c = true := by simp [Text.isDecimal, known]
  have compact : Text.isBlank c = false :=
    Token.isBlank_of_isAccepted (by simp [Token.isAccepted, Token.isNumeric, decimal])
  by_cases ascii : c.toNat < 127
  · have all : ∀ n < 127, ∀ d ∈ Text.digitValue? (Char.ofNat n),
        plain (Char.ofNat n) = Nat.digitChar d := by decide +kernel
    exact Char.ofNat_toNat c ▸ all c.toNat ascii d (by simpa using known)
  · simp [plain, ascii, compact, known]

theorem plain_isDigit (decimal : Text.isDecimal c = true) : (plain c).isDigit = true := by
  obtain ⟨d, known⟩ := Option.isSome_iff_exists.1 decimal
  have all : ∀ d < 10, (Nat.digitChar d).isDigit = true := by decide
  exact plain_decimal known ▸ all d (Text.digitValue?_lt known)

theorem digits_plain (digits : ∀ c ∈ cs, Text.isDecimal c = true) :
    ∀ c ∈ cs.map plain, c.isDigit = true := by
  simpa using fun c member => plain_isDigit (digits c member)

theorem value_plain (digits : ∀ c ∈ cs, Text.isDecimal c = true) :
    value (cs.map plain) = decimal cs := by
  have all : ∀ d < 10, (Nat.digitChar d).toNat - '0'.toNat = d := by decide
  have place (n : Nat) (c) (member : c ∈ cs) : 10 * n + ((plain c).toNat - '0'.toNat) =
      10 * n + (Text.digitValue? c).getD 0 := by
    obtain ⟨d, known⟩ := Option.isSome_iff_exists.1 (digits c member)
    rw [plain_decimal known, known, Option.getD_some, all d (Text.digitValue?_lt known)]
  rw [value, Nat.ofDigitChars, List.foldl_map]
  exact List.foldl_ext _ _ _ place

theorem decimal_of_pointless (pointless : '.' ∉ cs) (numeric : ∀ c ∈ cs, Token.isNumeric c = true) :
    ∀ c ∈ cs, Text.isDecimal c = true := by
  intro c member
  have other : c ≠ '.' := ne_of_mem_of_not_mem member pointless
  simpa [Token.isNumeric, other] using numeric c member

/-- A number of digits and points begins with no sign, and nothing of it is left out. -/
theorem body_kept (numeric : ∀ c ∈ cs, Token.isNumeric c = true) :
    trim (cs.map plain) = cs.map plain ∧ takeSign (cs.map plain) = (false, cs.map plain) ∧
      Literal.ungroup false (cs.map plain) = some (cs.map plain) := by
  have marks : ∀ c ∈ cs.map plain, c.isDigit = true ∨ c = '.' := by
    intro _ member
    obtain ⟨c, within, rfl⟩ := List.mem_map.1 member
    rcases (by simpa [Token.isNumeric] using numeric c within) with decimal | rfl
    · exact .inl (plain_isDigit decimal)
    · exact .inr rfl
  have mark (c) (member : c ∈ cs.map plain) : isMark c = true := by
    rcases marks c member with digit | rfl
    · exact digit_mark digit
    · rfl
  have free (c) (member : c ∈ cs.map plain) : isGap c = false := by
    have := (mark_plain (mark c member)).1
    simp only [isPlain, Bool.and_eq_true, Bool.not_eq_true'] at this
    exact this.2
  refine ⟨trim_self free, ?_, ungroup_self _ _ fun c member => (mark_plain (mark c member)).2⟩
  generalize cs.map plain = body at marks
  cases body with
  | nil => rfl
  | cons c body =>
    rcases marks c (by simp) with digit | rfl
    · exact takeSign_digit digit body
    · rfl

theorem integer_decimal {text : String} (digits : ∀ c ∈ text.toList, Text.isDecimal c = true)
    (given : text ≠ "") : Literal.integer text =
      if maxIntegerDigits < text.toList.length then .error (.tooManyDigits text.toList.length)
      else .ok (decimal text.toList : Int) := by
  have numeric (c) (member : c ∈ text.toList) : Token.isNumeric c = true := by
    simp [Token.isNumeric, digits c member]
  obtain ⟨whole, unsigned, _⟩ := body_kept numeric
  have sign : takeSign (trim (text.toList.map plain)) = (false, text.toList.map plain) := by
    rw [whole, unsigned]
  rw [integer_signed sign (by simpa using given) (digits_plain digits), value_plain digits,
    List.length_map]
  rfl

/-- No special number has a point in its name. -/
theorem real?_point {text : String} (numeric : ∀ c ∈ text.toList, Token.isNumeric c = true)
    (point : '.' ∈ text.toList) : Literal.real? text =
      (scientific? (text.toList.map plain)).map fun found =>
        .ofScientific false found.1 found.2 := by
  obtain ⟨whole, sign, kept⟩ := body_kept numeric
  have within : '.' ∈ (lower (text.toList.map plain)).toList := by
    rw [lower, String.toList_ofList]
    exact List.mem_map_of_mem (f := Char.toLower) (List.mem_map_of_mem (f := plain) point)
  simp only [Literal.real?]
  rw [whole, kept]
  simp only [Option.bind_eq_bind, Option.bind_some, sign]
  cases scientific? (text.toList.map plain) with
  | some found => rfl
  | none =>
    simp only [Option.map_none]
    split
    case h_4 => rfl
    all_goals
      next named => simp [named] at within

/-- A point counts as no digit. -/
theorem exists_decimal_iff (digits : ∀ c ∈ whole, Text.isDecimal c = true)
    (digits' : ∀ c ∈ fraction, Text.isDecimal c = true) :
    (∃ c ∈ whole ++ '.' :: fraction, Text.isDecimal c = true) ↔ whole ++ fraction ≠ [] := by
  constructor
  · rintro ⟨c, member, decimal⟩ empty
    obtain ⟨rfl, rfl⟩ := List.append_eq_nil_iff.1 empty
    obtain rfl : c = '.' := by simpa using member
    revert decimal
    decide
  · intro given
    obtain ⟨c, member⟩ := List.exists_mem_of_ne_nil _ given
    rcases List.mem_append.1 member with before | after
    · exact ⟨c, by simp [before], digits c before⟩
    · exact ⟨c, by simp [after], digits' c after⟩

theorem plain_point : plain '.' = '.' := rfl

theorem scientific?_once (digits : ∀ c ∈ whole, Text.isDecimal c = true)
    (digits' : ∀ c ∈ fraction, Text.isDecimal c = true) :
    (scientific? ((whole ++ '.' :: fraction).map plain)).isSome = true ↔
      whole ++ fraction ≠ [] := by
  have finish : ∀ c, ([] : List Char).head? = some c → c.isDigit = false := by simp
  have read := scientific?_point (digits_plain digits) (digits_plain digits') finish
  rw [List.append_nil] at read
  rw [List.map_append, List.map_cons, plain_point, read]
  cases whole <;> cases fraction <;> simp [exponent?]

/-- What follows a second point is no exponent. -/
theorem scientific?_twice (digits : ∀ c ∈ whole, Text.isDecimal c = true)
    (digits' : ∀ c ∈ fraction, Text.isDecimal c = true) (rest : List Char) :
    scientific? ((whole ++ '.' :: (fraction ++ '.' :: rest)).map plain) = none := by
  have point : ∀ c, ('.' :: rest.map plain).head? = some c → c.isDigit = false := by
    rintro _ ⟨⟩
    rfl
  have read := scientific?_point (digits_plain digits) (digits_plain digits') point
  simpa [plain_point, exponent?] using read

/-- The number is read exactly if it has one point and a digit. -/
theorem scientific?_isSome_iff (numeric : ∀ c ∈ cs, Token.isNumeric c = true) (point : '.' ∈ cs) :
    (scientific? (cs.map plain)).isSome = true ↔
      cs.count '.' = 1 ∧ ∃ c ∈ cs, Text.isDecimal c = true := by
  obtain ⟨whole, more, rfl, first⟩ := List.eq_append_cons_of_mem point
  have digits := decimal_of_pointless first fun c member => numeric c (by simp [member])
  by_cases second : '.' ∈ more
  · obtain ⟨fraction, rest, rfl, apart⟩ := List.eq_append_cons_of_mem second
    have digits' := decimal_of_pointless apart fun c member => numeric c (by simp [member])
    have many : (whole ++ '.' :: (fraction ++ '.' :: rest)).count '.' ≠ 1 := by
      simp only [List.count_append, List.count_cons_self]
      omega
    rw [scientific?_twice digits digits']
    exact iff_of_false Bool.false_ne_true fun once => many once.1
  · have digits' := decimal_of_pointless second fun c member => numeric c (by simp [member])
    have once : (whole ++ '.' :: more).count '.' = 1 := by
      simp [List.count_append, List.count_eq_zero_of_not_mem first,
        List.count_eq_zero_of_not_mem second]
    rw [scientific?_once digits digits', exists_decimal_iff digits digits']
    exact (and_iff_right once).symm

end Numeral

namespace Token

/-- The nine named symbols. -/
def keywords : List (String × Kind) := [
  ("sin", .sin), ("cos", .cos), ("tg", .tg), ("ctg", .ctg), ("sqrt", .sqrt), ("log", .log),
  ("ln", .ln), ("pi", .pi), ("e", .e)]

theorem keyword?_iff {word : String} :
    keyword? word = some final ↔ (Numeral.lower word.toList, final) ∈ keywords := by
  rw [keyword?, ← Numeral.lower]
  generalize Numeral.lower word.toList = name
  split <;> simp_all [keywords, eq_comm]

/-- One point, and a digit before or behind it. -/
def Pointed (cs : List Char) : Prop :=
  cs.count '.' = 1 ∧ ∃ c ∈ cs, Text.isDecimal c = true

/-- No point, and digits that the reader of integers takes and that write a word. -/
def Short (cs : List Char) : Prop :=
  '.' ∉ cs ∧ cs.countP Text.isDecimal ≤ maxIntegerDigits ∧ Numeral.decimal cs < Word.bound

/-- A number of either form, or one of the nine words; operators are regular as they are. -/
def Regular (token : Token) : Prop :=
  match token.kind with
  | .number => Pointed token.lexeme.toList ∨ Short token.lexeme.toList
  | .word => ∃ final, (Numeral.lower token.lexeme.toList, final) ∈ keywords
  | _ => True

/-- The token with its final kind: it stays in its place, and only the lexeme of a number changes,
to the written form of what it says. -/
inductive Settles (raw : Token) : Token → Prop where
  | operator : raw.kind = .operator → raw.lexeme = String.ofList [c] → operator? c = some final →
      Settles raw { raw with kind := final, resolved := true }
  | word : raw.kind = .word → (Numeral.lower raw.lexeme.toList, final) ∈ keywords →
      Settles raw { raw with kind := final, resolved := true }
  | integer : raw.kind = .number → '.' ∉ raw.lexeme.toList →
      Settles raw { raw with
        kind := .integer
        lexeme := String.ofList (Digits.ofNat (Numeral.decimal raw.lexeme.toList))
        resolved := true }
  | decimal : raw.kind = .number → '.' ∈ raw.lexeme.toList → Literal.real raw.lexeme = .ok x →
      Settles raw { raw with kind := .decimal, lexeme := x.text, resolved := true }

/-- The error quotes the line, and names the place of the token and its lexeme. -/
structure Offends (code : String) (raw : Token) (e : Error) : Prop where
  code : e.code = code
  position : e.position = raw.position
  reason : e.reason =
    (if raw.kind = .number then "Malformed numeric literal: " else "Unrecognized identifier: ") ++
      Text.quoted raw.lexeme

/-- What becomes of one token. -/
inductive Resolves (code : String) (raw : Token) : Except Failure Token → Prop where
  | settled : raw.Regular → Settles raw token → Resolves code raw (.ok token)
  | offends : ¬ raw.Regular → Offends code raw e → Resolves code raw (.error (.token e))

/-- What becomes of a line: all of its tokens in order, or the error of the leftmost that is not
regular. -/
inductive Verdict (line : Int) (code : String) : Except Failure (List Token) → Prop where
  | settled : (∀ raw ∈ scan line code, raw.Regular) → List.Forall₂ Settles (scan line code) tokens →
      Verdict line code (.ok tokens)
  | offended : raw ∈ scan line code → ¬ raw.Regular →
      (∀ other ∈ scan line code, ¬ other.Regular → raw.position ≤ other.position) →
      Offends code raw e → Verdict line code (.error (.token e))

variable {line : Int} {code : String} {raw token : Token} {failure : Failure}

theorem resolve_real (number : raw.kind = .number) (fresh : raw.resolved = false)
    (point : '.' ∈ raw.lexeme.toList) (read : Literal.real? raw.lexeme = some x) (code : String) :
    raw.resolve code = .ok { raw with kind := .decimal, lexeme := x.text, resolved := true } := by
  simp [resolve, fresh, number, resolveNumber?, point, read]

theorem resolves_point (number : raw.kind = .number) (fresh : raw.resolved = false)
    (numeric : ∀ c ∈ raw.lexeme.toList, isNumeric c = true) (point : '.' ∈ raw.lexeme.toList)
    (code : String) : Resolves code raw (raw.resolve code) := by
  have regular : raw.Regular ↔ (Literal.real? raw.lexeme).isSome = true := by
    rw [Numeral.real?_point numeric point, Option.isSome_map,
      Numeral.scientific?_isSome_iff numeric point]
    simp [Regular, number, Pointed, Short, point]
  cases read : Literal.real? raw.lexeme with
  | some x =>
    have real : Literal.real raw.lexeme = .ok x := by simp [Literal.real, read]
    rw [resolve_real number fresh point read]
    exact .settled (regular.2 (by simp [read])) (.decimal number point real)
  | none =>
    have irregular : ¬ raw.Regular := by simp [regular, read]
    simp only [resolve, fresh, number, resolveNumber?, List.contains_iff_mem, point, read]
    exact .offends irregular ⟨rfl, rfl, by simp [Error.reason, number]⟩

theorem resolves_pointless (number : raw.kind = .number) (fresh : raw.resolved = false)
    (numeric : ∀ c ∈ raw.lexeme.toList, isNumeric c = true) (given : raw.lexeme ≠ "")
    (pointless : '.' ∉ raw.lexeme.toList) (code : String) :
    Resolves code raw (raw.resolve code) := by
  have digits := Numeral.decimal_of_pointless pointless numeric
  have regular : raw.Regular ↔ raw.lexeme.toList.length ≤ maxIntegerDigits ∧
      (Numeral.decimal raw.lexeme.toList : Int) < Word.bound := by
    have unpointed : raw.lexeme.toList.count '.' = 0 := List.count_eq_zero_of_not_mem pointless
    have all := List.countP_eq_length.2 digits
    simp [Regular, number, Pointed, Short, unpointed, pointless, all]
  have known : resolveNumber? raw.lexeme =
      if raw.lexeme.toList.length ≤ maxIntegerDigits ∧
          (Numeral.decimal raw.lexeme.toList : Int) < Word.bound then
        some (.integer, String.ofList (Digits.ofNat (Numeral.decimal raw.lexeme.toList)))
      else none := by
    have nonneg : -Word.bound ≤ (Numeral.decimal raw.lexeme.toList : Int) := by
      simp only [Word.bound]
      omega
    rw [resolveNumber?, if_neg (by simpa using pointless), Numeral.integer_decimal digits given]
    by_cases short : raw.lexeme.toList.length ≤ maxIntegerDigits
    · simp only [Nat.not_lt.2 short, reduceIte, Word.fits_iff, nonneg, short, true_and]
      rfl
    · simp [Nat.not_le.1 short, short]
  simp only [resolve, fresh, number, known]
  by_cases short : raw.lexeme.toList.length ≤ maxIntegerDigits ∧
      (Numeral.decimal raw.lexeme.toList : Int) < Word.bound
  · simp only [short, and_self, reduceIte]
    exact .settled (regular.2 short) (.integer number pointless)
  · simp only [short, reduceIte]
    exact .offends (mt regular.1 short) ⟨rfl, rfl, by simp [Error.reason, number]⟩

theorem resolves_number (number : raw.kind = .number) (fresh : raw.resolved = false)
    (numeric : ∀ c ∈ raw.lexeme.toList, isNumeric c = true) (given : raw.lexeme ≠ "")
    (code : String) : Resolves code raw (raw.resolve code) := by
  by_cases point : '.' ∈ raw.lexeme.toList
  · exact resolves_point number fresh numeric point code
  · exact resolves_pointless number fresh numeric given point code

theorem Scanned.resolves (scanned : Scanned line raw) (given : raw.lexeme ≠ "") (code : String) :
    Resolves code raw (raw.resolve code) := by
  cases scanned with
  | @operator c final place known =>
    have regular : Regular ⟨.operator, String.ofList [c], line, place, false⟩ := trivial
    simpa [resolve, lexemeOperator?, known] using
      Resolves.settled regular (.operator rfl rfl known)
  | @number cs place numeric =>
    refine resolves_number ?_ ?_ ?_ ?_ code
    · rfl
    · rfl
    · simpa using numeric
    · exact given
  | @word cs place letters =>
    cases known : keyword? (String.ofList cs) with
    | some final =>
      have member := keyword?_iff.1 known
      have regular : Regular ⟨.word, String.ofList cs, line, place, false⟩ := ⟨final, member⟩
      simpa [resolve, known] using Resolves.settled regular (.word rfl member)
    | none =>
      have irregular : ¬ Regular ⟨.word, String.ofList cs, line, place, false⟩ := by
        rintro ⟨final, member⟩
        simp [keyword?_iff.2 member] at known
      simp only [resolve, known]
      exact .offends irregular ⟨rfl, rfl, rfl⟩

theorem Resolves.of_ok (resolves : Resolves code raw result) (ok : result = .ok token) :
    raw.Regular ∧ Settles raw token := by
  cases resolves with
  | settled regular settles => exact Except.ok.inj ok ▸ ⟨regular, settles⟩
  | offends => cases ok

theorem Resolves.of_error (resolves : Resolves code raw result)
    (refused : result = .error failure) :
    ¬ raw.Regular ∧ ∃ e, failure = .token e ∧ Offends code raw e := by
  cases resolves with
  | settled => cases refused
  | @offends e irregular offends =>
    exact ⟨irregular, e, (Except.error.inj refused).symm, offends⟩

theorem verdict (line : Int) (code : String) : Verdict line code (tokenize line code) := by
  have exhausts := scanFrom_exhausts line code.toList
  have resolves (raw) (member : raw ∈ scan line code) : Resolves code raw (raw.resolve code) :=
    (exhausts.stands raw member).scanned.resolves (exhausts.stands raw member).nonempty code
  cases result : tokenize line code with
  | ok tokens =>
    have made : List.Forall₂ (fun raw token => raw.Regular ∧ Settles raw token)
        (scan line code) tokens :=
      forall₂_of_mapM result fun raw member _ made => (resolves raw member).of_ok made
    obtain ⟨regular, settles⟩ := (List.forall₂_and_left _ _).1 made
    exact .settled regular settles
  | error failure =>
    obtain ⟨before, raw, after, split, passed, failed⟩ := mapM_error_first result
    have member : raw ∈ scan line code := by simp [split]
    obtain ⟨irregular, e, rfl, offends⟩ := (resolves raw member).of_error failed
    refine .offended member irregular (fun other member' irregular' => ?_) offends
    have ordered := exhausts.ordered
    rw [← scan, split] at ordered
    obtain ⟨_, ordered, _⟩ := List.pairwise_append.1 ordered
    rcases List.mem_append.1 (split ▸ member') with passing | rest
    · -- What stands before the first token that fails has passed, so it is regular.
      obtain ⟨token, made⟩ := passed other passing
      exact absurd ((resolves other member').of_ok made).1 irregular'
    · rcases List.mem_cons.1 rest with rfl | later
      · exact Nat.le_refl _
      · exact Nat.le_of_lt ((List.pairwise_cons.1 ordered).1 other later)

/-- A line is tokenized exactly if its scanned tokens are regular. Each of them then settles in its
place; else the error is about the leftmost that is not. -/
theorem tokenize_verdict (line : Int) (code : String) :
    ((∃ tokens, tokenize line code = .ok tokens) ↔ ∀ raw ∈ scan line code, raw.Regular) ∧
      Verdict line code (tokenize line code) := by
  have decided := verdict line code
  refine ⟨?_, decided⟩
  generalize tokenize line code = result at decided ⊢
  cases decided with
  | settled regular => simpa using regular
  | offended member irregular =>
    exact iff_of_false nofun fun regular => irregular (regular _ member)

end Token
end Reckon

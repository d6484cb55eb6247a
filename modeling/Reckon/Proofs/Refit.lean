import Reckon.Proofs.Grammar
import Reckon.Proofs.Token

/-! Reading under a precision is reading without one, except for the decimal literals. Each of them
that is taken becomes a fixed decimal; if the precision cannot make one, the first that is taken
ends the reading. Everything else, the tokens taken and the refusals included, is the same. -/
namespace Reckon

/-- The decimal literal with this value, as it is read under the precision. -/
def Value.refit (precision : Precision) : Value → Value
  | .float x =>
    match precision with
    | some digits => .fixed (.rounded digits.toNat x) digits
    | none => .float x
  | v => v

def Expr.refit (precision : Precision) : Expr → Expr
  | .value v => .value (v.refit precision)
  | .binary operator left right => .binary operator (left.refit precision) (right.refit precision)
  | .magnitude operand => .magnitude (operand.refit precision)
  | .constant name => .constant name
  | .unary name argument => .unary name (argument.refit precision)
  | .function name first second => .function name (first.refit precision) (second.refit precision)
  | .unparsed text => .unparsed text

namespace Reading

/-- A decimal literal is among the tokens, and the precision cannot make one. -/
def Barred (precision : Precision) (taken : List Token) : Prop :=
  ¬ precision.Valid ∧ ∃ token ∈ taken, token.kind = .decimal

/-- Reading ended before `left`. -/
def Leaves (left : List Token) : Except Stop (α × List Token) → Prop
  | .ok (_, rest) => rest = left
  | .error (.refused _ remaining) => remaining = left.length
  | .error (.fault _) => False

/-- The second result is what the precision makes of the first, which is without one. -/
def Refits (precision : Precision) (fit : α → β) (tokens : List Token)
    (plain : Except Stop (α × List Token)) (fitted : Except Stop (β × List Token)) : Prop :=
  ∃ taken left, tokens = taken ++ left ∧ Leaves left plain ∧
    (¬ Barred precision taken ∧ fitted = plain.map (fun found => (fit found.1, found.2)) ∨
      Barred precision taken ∧ fitted = .error (.fault precision.refusal))

variable {precision : Precision}

theorem barred_append : Barred precision (taken ++ later) ↔
    Barred precision taken ∨ Barred precision later := by
  simp only [Barred, List.mem_append]
  constructor
  · rintro ⟨invalid, token, member | member, decimal⟩
    · exact .inl ⟨invalid, token, member, decimal⟩
    · exact .inr ⟨invalid, token, member, decimal⟩
  · rintro (⟨invalid, token, member, decimal⟩ | ⟨invalid, token, member, decimal⟩)
    · exact ⟨invalid, token, .inl member, decimal⟩
    · exact ⟨invalid, token, .inr member, decimal⟩

theorem not_barred_nil : ¬ Barred precision [] := by
  rintro ⟨_, _, member, _⟩
  simp at member

theorem Refits.done {fit : α → β} (found : α) (rest : List Token) :
    Refits precision fit rest (.ok (found, rest)) (.ok (fit found, rest)) :=
  ⟨[], rest, rfl, rfl, .inl ⟨not_barred_nil, rfl⟩⟩

theorem Refits.refused {fit : α → β} (cause : Cause) (rest : List Token) :
    Refits precision fit rest (.error (.refused cause rest.length))
      (.error (.refused cause rest.length)) :=
  ⟨[], rest, rfl, rfl, .inl ⟨not_barred_nil, rfl⟩⟩

theorem Refits.cons (token : Token) (other : token.kind ≠ .decimal)
    (later : Refits precision fit rest plain fitted) :
    Refits precision fit (token :: rest) plain fitted := by
  obtain ⟨taken, left, rfl, leaves, result⟩ := later
  have same : Barred precision (token :: taken) ↔ Barred precision taken := by
    simp [Barred, other]
  exact ⟨token :: taken, left, rfl, leaves, by rwa [same]⟩

/-- Results in sequence: the second reading starts where the first one ended. -/
theorem Refits.bind {next : α × List Token → Except Stop (γ × List Token)}
    {next' : β × List Token → Except Stop (δ × List Token)}
    (first : Refits precision fit tokens plain fitted)
    (second : ∀ found rest, plain = .ok (found, rest) →
      Refits precision fit' rest (next (found, rest)) (next' (fit found, rest))) :
    Refits precision fit' tokens (plain >>= next) (fitted >>= next') := by
  obtain ⟨taken, left, rfl, leaves, result⟩ := first
  cases plain with
  | error stop =>
    refine ⟨taken, left, rfl, ?_, ?_⟩
    · cases stop <;> exact leaves
    · rcases result with ⟨clear, rfl⟩ | ⟨barred, rfl⟩
      · exact .inl ⟨clear, rfl⟩
      · exact .inr ⟨barred, rfl⟩
  | ok found =>
    obtain ⟨found, rest⟩ := found
    obtain rfl : rest = left := leaves
    obtain ⟨later, remaining, rfl, leaves', result'⟩ := second found rest rfl
    refine ⟨taken ++ later, remaining, (List.append_assoc ..).symm, leaves', ?_⟩
    rw [barred_append]
    rcases result with ⟨clear, rfl⟩ | ⟨barred, rfl⟩
    · rcases result' with ⟨clear', same⟩ | ⟨barred, same⟩
      · exact .inl ⟨by simp [clear, clear'], same⟩
      · exact .inr ⟨.inr barred, same⟩
    · exact .inr ⟨.inl barred, rfl⟩

/-- What reading leaves of a list is a part of it. -/
theorem Refits.suffix (refits : Refits precision fit tokens (.ok (found, rest)) fitted) :
    ∃ taken, tokens = taken ++ rest := by
  obtain ⟨taken, left, split, leaves, _⟩ := refits
  obtain rfl : rest = left := leaves
  exact ⟨taken, split⟩

open Token (Settled)

theorem settled_integer (settled : Settled token) (integer : token.kind = .integer) :
    ∃ n, Word.fits n = true ∧ 0 ≤ n ∧ integerLiteral token.lexeme = .ok (.integer n) := by
  obtain ⟨n, small, lexeme⟩ := settled.integer integer
  refine ⟨n, Word.fits_iff.2 ⟨?_, small⟩, Int.natCast_nonneg n, ?_⟩
  · have : (0 : Int) ≤ Word.bound := by decide
    omega
  · rw [integerLiteral, lexeme, Token.integer_small small]
    rfl

theorem settled_decimal (precision : Precision) (settled : Settled token)
    (decimal : token.kind = .decimal) :
    ∃ x, decimalLiteral none token.lexeme = .ok (.float x) ∧
      (precision.Valid →
        decimalLiteral precision token.lexeme = .ok ((Value.float x).refit precision)) ∧
      (¬ precision.Valid →
        decimalLiteral precision token.lexeme = .error precision.refusal) := by
  obtain ⟨y, lexeme⟩ := settled.decimal decimal
  obtain ⟨x, read⟩ := Numeral.real_text y
  rw [← lexeme] at read
  refine ⟨x, by simp [decimalLiteral, read], ?_, ?_⟩
  · intro valid
    cases precision with
    | none => simp [decimalLiteral, read, Value.refit]
    | some digits =>
      obtain ⟨low, high⟩ := valid digits rfl
      simp [decimalLiteral, read, Value.fixedOf_ok low high, Value.refit]
  · intro invalid
    cases precision with
    | none => exact absurd Precision.valid_none invalid
    | some digits =>
      simp [decimalLiteral, read, Value.fixedOf, Precision.check_refused invalid]

theorem close_refits (other : kind ≠ .decimal) (cause : Cause) (tree : Expr) (rest : List Token) :
    Refits precision (Expr.refit precision) rest (close kind cause tree rest)
      (close kind cause (tree.refit precision) rest) := by
  cases rest with
  | nil => exact .refused cause []
  | cons token rest =>
    by_cases closes : token.kind = kind
    · simp only [close, closes, reduceIte]
      exact .cons token (closes ▸ other) (.done tree rest)
    · simp only [close, closes, reduceIte]
      exact .refused cause (token :: rest)

theorem decimal_refits (settled : Settled token) (decimal : token.kind = .decimal) :
    Refits precision (Expr.refit precision) (token :: rest)
      (readLiteral rest (decimalLiteral none token.lexeme))
      (readLiteral rest (decimalLiteral precision token.lexeme)) := by
  obtain ⟨x, plain, made, refused⟩ := settled_decimal precision settled decimal
  have barred : Barred precision [token] ↔ ¬ precision.Valid := by simp [Barred, decimal]
  refine ⟨[token], rest, rfl, by simp [plain, readLiteral, Leaves], ?_⟩
  rw [barred, plain]
  by_cases valid : precision.Valid
  · exact .inl ⟨by simpa using valid, by rw [made valid]; rfl⟩
  · exact .inr ⟨valid, by rw [refused valid]; rfl⟩

theorem not_decimal (start : opening kind = form) (other : form ≠ .decimal) :
    kind ≠ .decimal := by
  rintro rfl
  exact other start.symm

theorem readFrom_refits (settled : ∀ other ∈ token :: rest, Settled other)
    (chains : ∀ later, later.length ≤ rest.length → (∀ other ∈ later, Settled other) →
      Refits precision (Expr.refit precision) later (readChain none later)
        (readChain precision later))
    (operands : Refits precision (Expr.refit precision) rest (readOperand none rest)
      (readOperand precision rest)) :
    Refits precision (Expr.refit precision) (token :: rest) (readFrom none token rest)
      (readFrom precision token rest) := by
  have first := settled token (by simp)
  have others (other) (member : other ∈ rest) : Settled other := settled other (by simp [member])
  have here := chains rest (Nat.le_refl _) others
  simp only [readFrom]
  cases start : opening token.kind with
  | decimal => exact decimal_refits first (Grammar.opening_decimal_iff.1 start)
  | integer =>
    obtain ⟨n, _, _, read⟩ := settled_integer first (Grammar.opening_integer_iff.1 start)
    simp only [read, readLiteral]
    exact .cons token (not_decimal start (by simp)) (.done (Expr.value (.integer n)) rest)
  | group =>
    refine .cons token (not_decimal start (by simp)) (.bind here ?_)
    exact fun tree left _ => close_refits (by decide) .unclosedParen tree left
  | bars =>
    refine .cons token (not_decimal start (by simp)) (.bind here ?_)
    exact fun tree left _ => close_refits (by decide) .unclosedBar (.magnitude tree) left
  | negation =>
    refine .cons token (not_decimal start (by simp)) (.bind operands ?_)
    exact fun tree left _ => .done (Expr.binary .sub (.value (.integer 0)) tree) left
  | unary name =>
    refine .cons token (not_decimal start (by simp)) (.bind here ?_)
    exact fun tree left _ => .done (Expr.unary name tree) left
  | function name =>
    refine .cons token (not_decimal start (by simp)) (.bind here ?_)
    intro one between read
    obtain ⟨taken, rfl⟩ := (read ▸ here).suffix
    have more := chains between (by simp) fun other member => others other (by simp [member])
    exact .bind more fun two left _ => .done (Expr.function name one two) left
  | constant name =>
    exact .cons token (not_decimal start (by simp)) (.done (Expr.constant name) rest)
  | finish => exact .refused .unexpectedEnd (token :: rest)
  | stray => exact .refused (.unexpectedToken token.lexeme) (token :: rest)

theorem extend_refits (first : Expr) (settled : ∀ token ∈ rest, Settled token)
    (chains : ∀ later, later.length < rest.length → (∀ token ∈ later, Settled token) →
      Refits precision (Expr.refit precision) later (readChain none later)
        (readChain precision later)) :
    Refits precision (Expr.refit precision) rest (extend none first rest)
      (extend precision (first.refit precision) rest) := by
  cases rest with
  | nil => exact .done first []
  | cons sign later =>
    cases known : Operator.ofKind? sign.kind with
    | none =>
      simp only [extend, known]
      exact .done first (sign :: later)
    | some operator =>
      have other : sign.kind ≠ .decimal := by
        intro eq
        simp [eq, Operator.ofKind?] at known
      have more := chains later (by simp) fun token member => settled token (by simp [member])
      simp only [extend, known]
      exact .cons sign other (.bind more fun second left _ =>
        .done (Expr.binary operator first second) left)

/-- Reading settled tokens under a precision and without one. -/
theorem refits (precision : Precision) : ∀ tokens,
    ((∀ token ∈ tokens, Settled token) →
      Refits precision (Expr.refit precision) tokens (readChain none tokens)
        (readChain precision tokens)) ∧
    ((∀ token ∈ tokens, Settled token) →
      Refits precision (Expr.refit precision) tokens (readOperand none tokens)
        (readOperand precision tokens)) := by
  apply reading_induction
  case chain =>
    intro tokens operand shorter settled
    rw [readChain_eq, readChain_eq]
    refine .bind (operand settled) ?_
    intro first rest read
    obtain ⟨taken, rfl⟩ := (read ▸ operand settled).suffix
    refine extend_refits first (fun token member => settled token (by simp [member])) ?_
    intro later fewer
    apply shorter later
    simp only [List.length_append]
    omega
  case operand =>
    intro tokens shorter settled
    cases tokens with
    | nil =>
      rw [readOperand_nil, readOperand_nil]
      exact .refused .unexpectedEnd []
    | cons token rest =>
      rw [readOperand_cons, readOperand_cons]
      refine readFrom_refits settled ?_ ?_
      · exact fun later fewer => (shorter later (Nat.lt_succ_of_le fewer)).1
      · exact (shorter rest (Nat.lt_succ_self _)).2 fun other member =>
          settled other (by simp [member])

/-- The trees of a whole list, of which nothing is left. -/
def readAll (precision : Precision) (tokens : List Token) : Except Stop (List Expr × List Token) :=
  (program precision tokens).map (·, [])

theorem readAll_cons (precision : Precision) (token : Token) (rest : List Token) :
    readAll precision (token :: rest) =
      readChain precision (token :: rest) >>= fun first =>
        readAll precision first.2 >>= fun others => .ok (first.1 :: others.1, others.2) := by
  simp only [readAll]
  rw [program_cons]
  cases readChain precision (token :: rest) with
  | error stop => rfl
  | ok first =>
    simp only [ok_bind]
    cases program precision first.2 <;> rfl

theorem readAll_refits (precision : Precision) (settled : ∀ token ∈ tokens, Settled token) :
    Refits precision (List.map (Expr.refit precision)) tokens (readAll none tokens)
      (readAll precision tokens) := by
  induction size : tokens.length using Nat.strongRecOn generalizing tokens with
  | ind n ih =>
    cases tokens with
    | nil =>
      simp only [readAll, program_nil, map_ok]
      exact .done [] []
    | cons token rest =>
      have chain := (refits precision (token :: rest)).1 settled
      rw [readAll_cons, readAll_cons]
      refine .bind chain ?_
      intro first left read
      obtain ⟨taken, split⟩ := (read ▸ chain).suffix
      have fewer : left.length < n := size ▸ readChain_shorter read
      have others : ∀ token ∈ left, Settled token := fun token member =>
        settled token (by simp [split, member])
      have more := ih left.length fewer others rfl
      exact .bind more fun others left _ => .done (first :: others) left

theorem read_resolved (precision : Precision) (resolved : ∀ token ∈ tokens, token.resolved = true) :
    Reading.read precision tokens = (program precision tokens).mapError (failure tokens) := by
  simp only [Reading.read]
  rw [mapM_ok_self fun token member => Token.resolve_of_resolved (resolved token member) ""]
  rfl

theorem read_settled (precision : Precision) (settled : ∀ token ∈ tokens, Settled token) :
    Reading.read precision tokens = (program precision tokens).mapError (failure tokens) :=
  read_resolved precision fun token member => (settled token member).resolved

theorem read_ok_iff (valid : precision.Valid) (settled : ∀ token ∈ tokens, Settled token) :
    Reading.read precision tokens = .ok trees ↔
      ∃ pieces, Grammar.Splits precision tokens pieces ∧ pieces.map Prod.snd = trees := by
  rw [read_settled precision settled, mapError_eq_ok]
  exact Grammar.program_ok_iff valid

/-- A literal that stands alone is read as its value. -/
theorem read_literal (valid : precision.Valid) (settled : Settled token)
    (denotes : Grammar.Denotes precision token v) :
    Reading.read precision [token] = .ok [.value v] := by
  have phrase : Grammar.Spells precision .chain [token] [] (.value v) :=
    .single (.literal denotes) Grammar.ends_nil
  exact (read_ok_iff valid (List.forall_mem_singleton.2 settled)).2 ⟨_, .cons phrase .nil, rfl⟩

/-- Two literals with an operator between them are read as one operation. -/
theorem read_operation (valid : precision.Valid)
    (settled : ∀ token ∈ [first, sign, second], Settled token)
    (left : Grammar.Denotes precision first a)
    (member : (sign.kind, operator) ∈ Grammar.operators)
    (right : Grammar.Denotes precision second b) :
    Reading.read precision [first, sign, second] =
      .ok [.binary operator (.value a) (.value b)] := by
  have phrase : Grammar.Spells precision .chain [first, sign, second] []
      (.binary operator (.value a) (.value b)) :=
    .binary (.literal left) member (.single (.literal right) Grammar.ends_nil) Grammar.ends_nil
  exact (read_ok_iff valid settled).2 ⟨_, .cons phrase .nil, rfl⟩

/-- The tokens that reading takes: all of them, or those before the one that it refuses. -/
def taken (tokens : List Token) : List Token :=
  match Reading.read none tokens with
  | .error (.reading e) => tokens.take e.index
  | _ => tokens

theorem taken_of_ok (read : Reading.read none tokens = .ok trees) : taken tokens = tokens := by
  simp [taken, read]

theorem readAll_taken (settled : ∀ token ∈ tokens, Settled token)
    (leaves : Leaves left (readAll none tokens)) (split : tokens = before ++ left) :
    taken tokens = before := by
  simp only [taken]
  rw [read_settled none settled]
  simp only [readAll] at leaves
  cases plain : program none tokens with
  | ok trees =>
    rw [plain] at leaves
    obtain rfl : [] = left := leaves
    rw [split, List.append_nil]
    rfl
  | error stop =>
    rw [plain] at leaves
    cases stop with
    | fault f => exact leaves.elim
    | refused cause remaining =>
      obtain rfl : remaining = left.length := leaves
      simp [failure, split]

/-- The trees and the errors of settled tokens under a precision are those without one, fitted to
it, unless it bars one of the tokens taken. -/
theorem read_refits (precision : Precision) (settled : ∀ token ∈ tokens, Settled token) :
    ¬ Barred precision (taken tokens) ∧
        Reading.read precision tokens =
          (Reading.read none tokens).map (List.map (Expr.refit precision)) ∨
      Barred precision (taken tokens) ∧
        Reading.read precision tokens = .error (.fault precision.refusal) := by
  obtain ⟨before, left, split, leaves, result⟩ := readAll_refits precision settled
  rw [readAll_taken settled leaves split, read_settled precision settled,
    read_settled none settled]
  simp only [readAll] at result
  rcases result with ⟨clear, same⟩ | ⟨barred, same⟩
  · refine .inl ⟨clear, ?_⟩
    cases plain : program none tokens <;> cases fitted : program precision tokens <;>
      simp_all
  · refine .inr ⟨barred, ?_⟩
    rw [map_eq_error] at same
    rw [same]
    rfl

theorem taken_subset (tokens : List Token) : taken tokens ⊆ tokens := by
  unfold taken
  split
  · exact List.take_subset _ tokens
  · exact List.Subset.refl tokens

/-- Without decimal literals every precision reads alike. -/
theorem read_undecimal (precision : Precision) (settled : ∀ token ∈ tokens, Settled token)
    (plain : ∀ token ∈ tokens, token.kind ≠ .decimal) :
    Reading.read precision tokens =
      (Reading.read none tokens).map (List.map (Expr.refit precision)) := by
  rcases read_refits precision settled with ⟨_, same⟩ | ⟨⟨_, token, member, decimal⟩, _⟩
  · exact same
  · exact absurd decimal (plain token (taken_subset tokens member))

/-- A valid precision can make every decimal literal. -/
theorem read_valid (valid : precision.Valid) (settled : ∀ token ∈ tokens, Settled token) :
    Reading.read precision tokens =
      (Reading.read none tokens).map (List.map (Expr.refit precision)) := by
  rcases read_refits precision settled with ⟨_, same⟩ | ⟨⟨invalid, _⟩, _⟩
  · exact same
  · exact absurd valid invalid

theorem read_none_error (settled : ∀ token ∈ tokens, Settled token)
    (refused : Reading.read none tokens = .error reported) : ∃ e, reported = .reading e := by
  rw [read_settled none settled, mapError_eq_error] at refused
  obtain ⟨stop, plain, rfl⟩ := refused
  obtain ⟨_, left, _, leaves, _⟩ := readAll_refits none settled
  rw [readAll, plain, map_error] at leaves
  cases stop with
  | refused cause remaining => exact ⟨_, rfl⟩
  | fault f => exact leaves.elim

/-- Under a valid precision reading reports reading errors only. -/
theorem read_error (valid : precision.Valid) (settled : ∀ token ∈ tokens, Settled token)
    (refused : Reading.read precision tokens = .error reported) : ∃ e, reported = .reading e := by
  rw [read_valid valid settled, map_eq_error] at refused
  exact read_none_error settled refused

end Reading
end Reckon

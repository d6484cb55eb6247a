import Reckon.Proofs.Precision
import Reckon.Proofs.Reading

/-! The grammar of expressions, as derivations of trees from stretches of a token list. An operand
followed by an operator does not end a chain, so a derivation also mentions the tokens after its
own. `sound` and `complete` relate it to the readers in both directions. -/
namespace Reckon.Grammar
open Reading

/-- The two forms of a phrase: one operand, and a chain of operands with operators between them. -/
inductive Form where
  | operand | chain

def constants : List (Token.Kind × String) := [(.pi, "pi"), (.e, "e")]

def functions : List (Token.Kind × String) := [
  (.sin, "sin"), (.cos, "cos"), (.tg, "tg"), (.ctg, "ctg"), (.sqrt, "sqrt"), (.ln, "ln")]

def operators : List (Token.Kind × Operator) := [
  (.plus, .add), (.minus, .sub), (.star, .mul), (.slash, .div), (.hat, .pow)]

/-- The value that a literal token stands for. -/
inductive Denotes : Precision → Token → Value → Prop where
  | integer : token.kind = .integer → Literal.integer token.lexeme = .ok n →
      Denotes precision token (.integer n)
  | float : token.kind = .decimal → Literal.real token.lexeme = .ok x →
      Denotes none token (.float x)
  | fixed : token.kind = .decimal → Literal.real token.lexeme = .ok x →
      Denotes (some digits) token (.fixed (.rounded digits.toNat x) digits)

/-- No operator comes next. -/
def Ends (rest : List Token) : Prop :=
  ∀ token operator, rest.head? = some token → (token.kind, operator) ∉ operators

@[simp] theorem ends_nil : Ends [] := nofun

@[simp] theorem ends_cons_iff :
    Ends (token :: rest) ↔ ∀ operator, (token.kind, operator) ∉ operators := by
  constructor
  · intro ends operator
    exact ends token operator rfl
  · rintro free _ operator ⟨⟩
    exact free operator

/-- `Spells precision form stretch rest tree`: where `rest` follows it, `stretch` is a phrase of the
form and stands for `tree`. -/
inductive Spells (precision : Precision) : Form → List Token → List Token → Expr → Prop where
  | literal : Denotes precision token v → Spells precision .operand [token] rest (.value v)
  | constant : (token.kind, name) ∈ constants →
      Spells precision .operand [token] rest (.constant name)
  | group : opener.kind = .leftParen → Spells precision .chain body (closer :: rest) tree →
      closer.kind = .rightParen →
      Spells precision .operand (opener :: body ++ [closer]) rest tree
  | negation : minus.kind = .minus → Spells precision .operand body rest tree →
      Spells precision .operand (minus :: body) rest (.binary .sub (.value (.integer 0)) tree)
  | magnitude : opener.kind = .bar → Spells precision .chain body (closer :: rest) tree →
      closer.kind = .bar →
      Spells precision .operand (opener :: body ++ [closer]) rest (.magnitude tree)
  | unary : (word.kind, name) ∈ functions → Spells precision .chain argument rest tree →
      Spells precision .operand (word :: argument) rest (.unary name tree)
  | logarithm : word.kind = .log → Spells precision .chain first (second ++ rest) a →
      Spells precision .chain second rest b →
      Spells precision .operand (word :: first ++ second) rest (.function "log" a b)
  | single : Spells precision .operand stretch rest tree → Ends rest →
      Spells precision .chain stretch rest tree
  | binary : Spells precision .operand left (sign :: right ++ rest) a →
      (sign.kind, operator) ∈ operators → Spells precision .chain right rest b → Ends rest →
      Spells precision .chain (left ++ sign :: right) rest (.binary operator a b)

/-- The list falls apart into chains, one after another. -/
inductive Splits (precision : Precision) : List Token → List (List Token × Expr) → Prop where
  | nil : Splits precision [] []
  | cons : Spells precision .chain stretch rest tree → Splits precision rest pieces →
      Splits precision (stretch ++ rest) ((stretch, tree) :: pieces)

theorem Spells.ends (spelled : Spells precision .chain stretch rest tree) : Ends rest := by
  cases spelled with
  | single _ ends => exact ends
  | binary _ _ _ ends => exact ends

theorem ofKind_iff : Operator.ofKind? kind = some operator ↔ (kind, operator) ∈ operators := by
  cases kind <;> simp [Operator.ofKind?, operators, eq_comm]

theorem opening_constant_iff : opening kind = .constant name ↔ (kind, name) ∈ constants := by
  cases kind <;> simp [opening, constants, eq_comm]

theorem opening_unary_iff : opening kind = .unary name ↔ (kind, name) ∈ functions := by
  cases kind <;> simp [opening, functions, eq_comm]

theorem opening_function_iff : opening kind = .function name ↔ kind = .log ∧ name = "log" := by
  cases kind <;> simp [opening, eq_comm]

theorem opening_group_iff : opening kind = .group ↔ kind = .leftParen := by
  cases kind <;> simp [opening]

theorem opening_negation_iff : opening kind = .negation ↔ kind = .minus := by
  cases kind <;> simp [opening]

theorem opening_bars_iff : opening kind = .bars ↔ kind = .bar := by
  cases kind <;> simp [opening]

theorem opening_integer_iff : opening kind = .integer ↔ kind = .integer := by
  cases kind <;> simp [opening]

theorem opening_decimal_iff : opening kind = .decimal ↔ kind = .decimal := by
  cases kind <;> simp [opening]

theorem close_ok_iff : close kind cause body left = .ok (tree, rest) ↔
    body = tree ∧ ∃ token, left = token :: rest ∧ token.kind = kind := by
  cases left with
  | nil => simp [close]
  | cons token left =>
    by_cases h : token.kind = kind
    · subst h
      simp only [close, reduceIte, Except.ok.injEq, Prod.mk.injEq]
      constructor
      · rintro ⟨rfl, rfl⟩
        exact ⟨rfl, token, rfl, rfl⟩
      · rintro ⟨rfl, _, ⟨⟩, _⟩
        exact ⟨rfl, rfl⟩
    · simp only [close, h, reduceIte, reduceCtorEq, false_iff]
      rintro ⟨_, other, same, closes⟩
      exact h ((List.cons.inj same).1 ▸ closes)

theorem readLiteral_ok_iff : readLiteral left result = .ok (tree, rest) ↔
    left = rest ∧ ∃ v, result = .ok v ∧ tree = .value v := by
  cases result <;> simp [readLiteral, and_comm, eq_comm]

theorem integerLiteral_ok_iff (integer : token.kind = .integer) :
    integerLiteral token.lexeme = .ok v ↔ Denotes precision token v := by
  constructor
  · intro h
    obtain ⟨n, read, rfl⟩ := map_eq_ok.1 h
    exact .integer integer read
  · rintro (⟨_, read⟩ | ⟨decimal, _⟩ | ⟨decimal, _⟩)
    · simp [integerLiteral, read, Except.map]
    · simp [integer] at decimal
    · simp [integer] at decimal

theorem decimalLiteral_ok_iff (valid : precision.Valid) (decimal : token.kind = .decimal) :
    decimalLiteral precision token.lexeme = .ok v ↔ Denotes precision token v := by
  simp only [decimalLiteral]
  constructor
  · intro h
    obtain ⟨x, real, made⟩ := bind_eq_ok.1 h
    cases precision with
    | none =>
      obtain rfl := Except.ok.inj made
      exact .float decimal real
    | some digits =>
      obtain ⟨low, high⟩ := valid digits rfl
      simp only [Value.fixedOf_ok low high, Except.ok.injEq] at made
      exact made ▸ .fixed decimal real
  · rintro (⟨integer, _⟩ | ⟨_, real⟩ | ⟨_, real⟩)
    · simp [decimal] at integer
    · simp [real]
    · obtain ⟨low, high⟩ := valid _ rfl
      simp [real, Value.fixedOf_ok low high]

/-- The reader of phrases of one form. -/
def reader (precision : Precision) : Form → List Token → Except Stop (Expr × List Token)
  | .operand => readOperand precision
  | .chain => readChain precision

theorem extend_of_ends (ends : Ends rest) : extend precision tree rest = .ok (tree, rest) := by
  cases rest with
  | nil => rfl
  | cons token rest =>
    cases known : Operator.ofKind? token.kind with
    | none => simp [extend, known]
    | some operator => exact absurd (ofKind_iff.1 known) (ends token operator rfl)

theorem readFrom_literal (valid : precision.Valid) (denotes : Denotes precision token v) :
    readFrom precision token rest = .ok (.value v, rest) := by
  by_cases integer : token.kind = .integer
  · have read := (integerLiteral_ok_iff integer).2 denotes
    simp [readFrom, opening_integer_iff.2 integer, readLiteral_ok_iff, read]
  · have decimal : token.kind = .decimal := by
      cases denotes with
      | integer kind => exact absurd kind integer
      | float kind | fixed kind => exact kind
    have read := (decimalLiteral_ok_iff valid decimal).2 denotes
    simp [readFrom, opening_decimal_iff.2 decimal, readLiteral_ok_iff, read]

/-- A phrase is read as what it spells, whatever phrases come after it. -/
theorem complete (valid : precision.Valid) (spelled : Spells precision form stretch rest tree) :
    reader precision form (stretch ++ rest) = .ok (tree, rest) := by
  induction spelled with
  | literal denotes => exact (readOperand_cons ..).trans (readFrom_literal valid denotes)
  | constant member =>
    simp [reader, readOperand_cons, readFrom, opening_constant_iff.2 member]
  | group opens _ closes ih =>
    simp only [reader] at ih
    simp [reader, readOperand_cons, readFrom, opening_group_iff.2 opens, ih, close, closes]
  | negation minus _ ih =>
    simp only [reader] at ih
    simp [reader, readOperand_cons, readFrom, opening_negation_iff.2 minus, ih]
  | magnitude opens _ closes ih =>
    simp only [reader] at ih
    simp [reader, readOperand_cons, readFrom, opening_bars_iff.2 opens, ih, close, closes]
  | unary member _ ih =>
    simp only [reader] at ih
    simp [reader, readOperand_cons, readFrom, opening_unary_iff.2 member, ih]
  | logarithm log _ _ first second =>
    simp only [reader] at first second
    simp [reader, readOperand_cons, readFrom, opening_function_iff.2 ⟨log, rfl⟩, first, second]
  | single _ ends ih =>
    simp only [reader] at ih ⊢
    rw [readChain_eq, ih]
    exact extend_of_ends ends
  | binary _ member _ _ left right =>
    simp only [reader, List.append_assoc, List.cons_append] at left right ⊢
    rw [readChain_eq, left]
    simp [extend, ofKind_iff.2 member, right]

/-- Whatever is read off the list is spelled by the tokens that were taken. -/
def Explained (precision : Precision) (form : Form) (tokens : List Token) : Prop :=
  ∀ tree rest, reader precision form tokens = .ok (tree, rest) →
    ∃ stretch, tokens = stretch ++ rest ∧ Spells precision form stretch rest tree

theorem extend_sound (spelled : Spells precision .operand left between first)
    (later : ∀ after, after.length < between.length → Explained precision .chain after)
    (extended : extend precision first between = .ok (tree, rest)) :
    ∃ stretch, left ++ between = stretch ++ rest ∧ Spells precision .chain stretch rest tree := by
  cases between with
  | nil =>
    obtain ⟨rfl, rfl⟩ : first = tree ∧ [] = rest := by simpa [extend] using extended
    exact ⟨left, rfl, .single spelled ends_nil⟩
  | cons sign after =>
    cases known : Operator.ofKind? sign.kind with
    | none =>
      obtain ⟨rfl, rfl⟩ : first = tree ∧ sign :: after = rest := by
        simpa [extend, known] using extended
      refine ⟨left, rfl, .single spelled (ends_cons_iff.2 fun operator member => ?_)⟩
      simp [ofKind_iff.2 member] at known
    | some operator =>
      obtain ⟨second, chained, rfl⟩ : ∃ second, readChain precision after = .ok (second, rest) ∧
          .binary operator first second = tree := by
        simpa [extend, known] using extended
      obtain ⟨right, rfl, phrase⟩ := later after (by simp) second rest chained
      exact ⟨left ++ sign :: right, by simp,
        .binary spelled (ofKind_iff.1 known) phrase phrase.ends⟩

theorem readFrom_sound (valid : precision.Valid)
    (chains : ∀ after, after.length ≤ rest.length → Explained precision .chain after)
    (operands : Explained precision .operand rest)
    (read : readFrom precision token rest = .ok (tree, left)) :
    ∃ stretch, token :: rest = stretch ++ left ∧
      Spells precision .operand stretch left tree := by
  have here := chains rest (Nat.le_refl _)
  simp only [readFrom] at read
  cases start : opening token.kind with
  | group =>
    simp only [start, bind_eq_ok, close_ok_iff, Prod.exists] at read
    obtain ⟨_, _, taken, rfl, closer, rfl, closes⟩ := read
    obtain ⟨body, rfl, phrase⟩ := here _ _ taken
    exact ⟨token :: body ++ [closer], by simp, .group (opening_group_iff.1 start) phrase closes⟩
  | negation =>
    simp only [start, bind_eq_ok, pure_eq_ok, Prod.mk.injEq, Prod.exists] at read
    obtain ⟨_, _, taken, rfl, rfl⟩ := read
    obtain ⟨body, rfl, phrase⟩ := operands _ _ taken
    exact ⟨token :: body, rfl, .negation (opening_negation_iff.1 start) phrase⟩
  | bars =>
    simp only [start, bind_eq_ok, close_ok_iff, Prod.exists] at read
    obtain ⟨_, _, taken, rfl, closer, rfl, closes⟩ := read
    obtain ⟨body, rfl, phrase⟩ := here _ _ taken
    exact ⟨token :: body ++ [closer], by simp,
      .magnitude (opening_bars_iff.1 start) phrase closes⟩
  | integer =>
    simp only [start, readLiteral_ok_iff] at read
    obtain ⟨rfl, v, made, rfl⟩ := read
    exact ⟨[token], rfl, .literal ((integerLiteral_ok_iff (opening_integer_iff.1 start)).1 made)⟩
  | decimal =>
    simp only [start, readLiteral_ok_iff] at read
    obtain ⟨rfl, v, made, rfl⟩ := read
    exact ⟨[token], rfl,
      .literal ((decimalLiteral_ok_iff valid (opening_decimal_iff.1 start)).1 made)⟩
  | constant name =>
    simp only [start, Except.ok.injEq, Prod.mk.injEq] at read
    obtain ⟨rfl, rfl⟩ := read
    exact ⟨[token], rfl, .constant (opening_constant_iff.1 start)⟩
  | unary name =>
    simp only [start, bind_eq_ok, pure_eq_ok, Prod.mk.injEq, Prod.exists] at read
    obtain ⟨_, _, taken, rfl, rfl⟩ := read
    obtain ⟨argument, rfl, phrase⟩ := here _ _ taken
    exact ⟨token :: argument, rfl, .unary (opening_unary_iff.1 start) phrase⟩
  | function name =>
    simp only [start, bind_eq_ok, pure_eq_ok, Prod.mk.injEq, Prod.exists] at read
    obtain ⟨_, between, one, _, _, two, rfl, rfl⟩ := read
    obtain ⟨log, rfl⟩ := opening_function_iff.1 start
    have fewer := Nat.le_of_lt (readChain_shorter one)
    obtain ⟨first, rfl, phrase⟩ := here _ _ one
    obtain ⟨second, rfl, phrase'⟩ := chains between fewer _ _ two
    exact ⟨token :: first ++ second, by simp, .logarithm log phrase phrase'⟩
  | finish | stray => simp [start] at read

theorem explained (valid : precision.Valid) : ∀ tokens,
    Explained precision .chain tokens ∧ Explained precision .operand tokens := by
  apply reading_induction
  case chain =>
    intro tokens operand shorter tree rest read
    simp only [reader, readChain_eq, bind_eq_ok] at read
    obtain ⟨⟨first, between⟩, taken, extended⟩ := read
    obtain ⟨left, rfl, spelled⟩ := operand first between taken
    refine extend_sound spelled (fun after fewer => shorter after ?_) extended
    simp only [List.length_append]
    omega
  case operand =>
    intro tokens shorter tree left read
    cases tokens with
    | nil => simp [reader, readOperand_nil] at read
    | cons token rest =>
      simp only [reader, readOperand_cons] at read
      exact readFrom_sound valid
        (fun after fewer => (shorter after (Nat.lt_succ_of_le fewer)).1)
        (shorter rest (Nat.lt_succ_self _)).2 read

theorem sound (valid : precision.Valid) (read : reader precision form tokens = .ok (tree, rest)) :
    ∃ stretch, tokens = stretch ++ rest ∧ Spells precision form stretch rest tree := by
  cases form with
  | operand => exact (explained valid tokens).2 tree rest read
  | chain => exact (explained valid tokens).1 tree rest read

/-- Where a phrase begins, only one stretch is a phrase of its form, and it spells one tree. -/
theorem Spells.unique (valid : precision.Valid) (spelled : Spells precision form stretch rest tree)
    (other : Spells precision form stretch' rest' tree')
    (same : stretch ++ rest = stretch' ++ rest') :
    stretch = stretch' ∧ rest = rest' ∧ tree = tree' := by
  have one := complete valid spelled
  rw [same, complete valid other] at one
  obtain ⟨rfl, rfl⟩ : tree' = tree ∧ rest' = rest := by simpa using one
  exact ⟨List.append_cancel_right same, rfl, rfl⟩

theorem Spells.nonempty (spelled : Spells precision form stretch rest tree) : stretch ≠ [] := by
  induction spelled <;> simp_all

theorem splits_unique (valid : precision.Valid) (split : Splits precision tokens pieces)
    (other : Splits precision tokens pieces') : pieces = pieces' := by
  induction split generalizing pieces' with
  | nil =>
    generalize empty : ([] : List Token) = tokens at other
    cases other with
    | nil => rfl
    | cons phrase _ =>
      exact absurd (List.append_eq_nil_iff.1 empty.symm).1 phrase.nonempty
  | @cons stretch rest _ _ phrase _ ih =>
    generalize same : stretch ++ rest = tokens at other
    cases other with
    | nil => exact absurd (List.append_eq_nil_iff.1 same).1 phrase.nonempty
    | cons phrase' rest =>
      obtain ⟨rfl, rfl, rfl⟩ := phrase.unique valid phrase' same
      rw [ih rest]

theorem program_ok_iff (valid : precision.Valid) : program precision tokens = .ok trees ↔
    ∃ pieces, Splits precision tokens pieces ∧ pieces.map Prod.snd = trees := by
  constructor
  · intro h
    induction size : tokens.length using Nat.strongRecOn generalizing tokens trees with
    | ind n ih =>
      cases tokens with
      | nil =>
        rw [program_nil] at h
        exact ⟨[], .nil, Except.ok.inj h⟩
      | cons token rest =>
        simp only [program_cons, bind_eq_ok, map_eq_ok, Prod.exists] at h
        obtain ⟨tree, left, read, later, more, rfl⟩ := h
        obtain ⟨pieces, split, rfl⟩ := ih left.length (size ▸ readChain_shorter read) more rfl
        have taken : reader precision .chain (token :: rest) = .ok (tree, left) := read
        obtain ⟨stretch, same, phrase⟩ := sound valid taken
        exact ⟨(stretch, tree) :: pieces, same ▸ .cons phrase split, rfl⟩
  · rintro ⟨pieces, split, rfl⟩
    induction split with
    | nil => exact program_nil precision
    | @cons stretch rest tree _ phrase split ih =>
      have read := complete valid phrase
      cases whole : stretch ++ rest with
      | nil => exact absurd (List.append_eq_nil_iff.1 whole).1 phrase.nonempty
      | cons token others =>
        simp only [reader, whole] at read
        simp [program_cons, read, ih]
end Reckon.Grammar

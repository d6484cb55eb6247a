import Reckon.Proofs.Kinds
import Reckon.Proofs.Refit

/-! The outline of a tree: what is left of it when the lexeme of its token stands in the place of
every decimal literal. Under all valid precisions the tokens of a line are read as trees of the same
outlines, or refused with the same error. -/
namespace Reckon
open Reading (decimalLiteral settled_decimal)

/-- The lexemes of the decimal literals among the tokens. -/
def Token.decimals (tokens : List Token) : List String :=
  (tokens.filter fun token => token.kind = .decimal).map Token.lexeme

namespace Token

@[simp] theorem decimals_append (tokens later : List Token) :
    decimals (tokens ++ later) = decimals tokens ++ decimals later := by
  simp [decimals]

theorem decimals_cons_of_ne (other : token.kind ≠ .decimal) (rest : List Token) :
    decimals (token :: rest) = decimals rest := by
  simp [decimals, other]

theorem decimals_singleton (decimal : token.kind = .decimal) :
    decimals [token] = [token.lexeme] := by
  simp [decimals, decimal]

end Token

theorem Reading.decimalLiteral_kind (made : decimalLiteral precision lexeme = .ok v) :
    v.kind ≠ .integer := by
  obtain ⟨x, _, made⟩ := bind_eq_ok.1 made
  cases precision with
  | none =>
    cases made
    simp [Value.kind]
  | some digits =>
    obtain ⟨places, _, made⟩ := bind_eq_ok.1 made
    cases made
    simp [Value.kind]

namespace Expr

/-- `Outlines precision tree lexemes outline`: the decimal literals of the tree are, from left to
right, what the precision makes of the lexemes, and the outline has the lexemes in their place. -/
inductive Outlines (precision : Precision) : Expr → List String → Expr → Prop where
  | integer : Outlines precision (.value (.integer n)) [] (.value (.integer n))
  | decimal : decimalLiteral precision lexeme = .ok v →
      Outlines precision (.value v) [lexeme] (.unparsed lexeme)
  | binary : Outlines precision left one left' → Outlines precision right two right' →
      Outlines precision (.binary operator left right) (one ++ two)
        (.binary operator left' right')
  | magnitude : Outlines precision operand lexemes operand' →
      Outlines precision (.magnitude operand) lexemes (.magnitude operand')
  | constant : Outlines precision (.constant name) [] (.constant name)
  | unary : Outlines precision argument lexemes argument' →
      Outlines precision (.unary name argument) lexemes (.unary name argument')
  | function : Outlines precision first one first' → Outlines precision second two second' →
      Outlines precision (.function name first second) (one ++ two)
        (.function name first' second')

/-- The outlines of trees, for which the lexemes are used up one tree after another. -/
inductive OutlinesEach (precision : Precision) : List Expr → List String → List Expr → Prop where
  | nil : OutlinesEach precision [] [] []
  | cons : Outlines precision tree one outline → OutlinesEach precision trees more outlines →
      OutlinesEach precision (tree :: trees) (one ++ more) (outline :: outlines)

/-- Of the lexemes in a row, a tree takes as many as it has decimal literals. -/
theorem Outlines.unique (first : Outlines precision tree one outline)
    (second : Outlines precision tree two outline') (row : one ++ later = two ++ later') :
    one = two ∧ outline = outline' := by
  induction first generalizing two outline' later later' with
  | integer =>
    cases second with
    | integer => exact ⟨rfl, rfl⟩
    | decimal made => exact absurd rfl (Reading.decimalLiteral_kind made)
  | decimal made =>
    cases second with
    | integer => exact absurd rfl (Reading.decimalLiteral_kind made)
    | decimal =>
      obtain ⟨rfl, _⟩ := List.cons.inj row
      exact ⟨rfl, rfl⟩
  | magnitude _ ih =>
    cases second with
    | magnitude second =>
      obtain ⟨rfl, rfl⟩ := ih second row
      exact ⟨rfl, rfl⟩
  | constant =>
    cases second
    exact ⟨rfl, rfl⟩
  | unary _ ih =>
    cases second with
    | unary second =>
      obtain ⟨rfl, rfl⟩ := ih second row
      exact ⟨rfl, rfl⟩
  | binary _ _ ih ih' =>
    cases second with
    | binary left right =>
      rw [List.append_assoc, List.append_assoc] at row
      obtain ⟨rfl, rfl⟩ := ih left row
      obtain ⟨rfl, rfl⟩ := ih' right (List.append_cancel_left row)
      exact ⟨rfl, rfl⟩
  | function _ _ ih ih' =>
    cases second with
    | function left right =>
      rw [List.append_assoc, List.append_assoc] at row
      obtain ⟨rfl, rfl⟩ := ih left row
      obtain ⟨rfl, rfl⟩ := ih' right (List.append_cancel_left row)
      exact ⟨rfl, rfl⟩

theorem OutlinesEach.unique (first : OutlinesEach precision trees lexemes outlines)
    (second : OutlinesEach precision trees lexemes outlines') : outlines = outlines' := by
  induction first generalizing outlines' with
  | nil =>
    cases second
    rfl
  | @cons tree one outline trees more outlines here _ ih =>
    generalize row : one ++ more = lexemes at second
    cases second with
    | cons here' later =>
      obtain ⟨rfl, rfl⟩ := here.unique here' row
      obtain rfl := List.append_cancel_left row
      rw [ih later]

end Expr

namespace Grammar
open Reckon.Expr (Outlines OutlinesEach)
open Token (Settled decimals decimals_append decimals_cons_of_ne decimals_singleton)

theorem constant_not_decimal (member : (kind, name) ∈ constants) : kind ≠ .decimal := by
  rintro rfl
  simp [constants] at member

theorem function_not_decimal (member : (kind, name) ∈ functions) : kind ≠ .decimal := by
  rintro rfl
  simp [functions] at member

theorem operator_not_decimal (member : (kind, operator) ∈ operators) : kind ≠ .decimal := by
  rintro rfl
  simp [operators] at member

theorem decimals_bracketed (opens : opener.kind ≠ .decimal) (closes : closer.kind ≠ .decimal)
    (body : List Token) : decimals (opener :: body ++ [closer]) = decimals body := by
  rw [List.cons_append, decimals_cons_of_ne opens, decimals_append, decimals_cons_of_ne closes]
  exact List.append_nil _

/-- What a phrase spells has one outline under all valid precisions. -/
theorem Spells.outline (spelled : Spells none form stretch rest tree)
    (settled : ∀ token ∈ stretch, Settled token) :
    ∃ outline, ∀ precision : Precision, precision.Valid →
      Outlines precision (tree.refit precision) (decimals stretch) outline := by
  induction spelled with
  | @literal token v rest denotes =>
    cases denotes with
    | @integer n _ _ kind =>
      refine ⟨.value (.integer n), fun precision _ => ?_⟩
      rw [decimals_cons_of_ne (by simp [kind])]
      exact .integer
    | float kind real =>
      refine ⟨.unparsed token.lexeme, fun precision valid => ?_⟩
      obtain ⟨y, plain, made, _⟩ := settled_decimal precision (settled token (by simp)) kind
      have same := ((decimalLiteral_ok_iff Precision.valid_none kind).2
        (.float kind real)).symm.trans plain
      cases same
      rw [decimals_singleton kind]
      exact .decimal (made valid)
  | @constant name _ _ member =>
    refine ⟨.constant name, fun precision _ => ?_⟩
    rw [decimals_cons_of_ne (constant_not_decimal member)]
    exact .constant
  | group opens _ closes ih =>
    obtain ⟨outline, outlined⟩ := ih fun token member => settled token (by simp [member])
    refine ⟨outline, fun precision valid => ?_⟩
    rw [decimals_bracketed (by simp [opens]) (by simp [closes])]
    exact outlined precision valid
  | magnitude opens _ closes ih =>
    obtain ⟨outline, outlined⟩ := ih fun token member => settled token (by simp [member])
    refine ⟨.magnitude outline, fun precision valid => ?_⟩
    rw [decimals_bracketed (by simp [opens]) (by simp [closes])]
    exact .magnitude (outlined precision valid)
  | negation minus _ ih =>
    obtain ⟨outline, outlined⟩ := ih fun token member => settled token (by simp [member])
    refine ⟨.binary .sub (.value (.integer 0)) outline, fun precision valid => ?_⟩
    rw [decimals_cons_of_ne (by simp [minus])]
    exact .binary .integer (outlined precision valid)
  | @unary name _ _ _ _ member _ ih =>
    obtain ⟨outline, outlined⟩ := ih fun token member => settled token (by simp [member])
    refine ⟨.unary name outline, fun precision valid => ?_⟩
    rw [decimals_cons_of_ne (function_not_decimal member)]
    exact .unary (outlined precision valid)
  | logarithm log _ _ ih ih' =>
    obtain ⟨one, outlined⟩ := ih fun token member => settled token (by simp [member])
    obtain ⟨two, outlined'⟩ := ih' fun token member => settled token (by simp [member])
    refine ⟨.function "log" one two, fun precision valid => ?_⟩
    rw [List.cons_append, decimals_cons_of_ne (by simp [log]), decimals_append]
    exact .function (outlined precision valid) (outlined' precision valid)
  | single _ _ ih => exact ih settled
  | @binary left sign right rest a operator b _ member _ _ ih ih' =>
    obtain ⟨one, outlined⟩ := ih fun token member => settled token (by simp [member])
    obtain ⟨two, outlined'⟩ := ih' fun token member => settled token (by simp [member])
    refine ⟨.binary operator one two, fun precision valid => ?_⟩
    rw [decimals_append, decimals_cons_of_ne (operator_not_decimal member)]
    exact .binary (outlined precision valid) (outlined' precision valid)

theorem Splits.outlines (split : Splits none tokens pieces)
    (settled : ∀ token ∈ tokens, Settled token) :
    ∃ outlines, ∀ precision : Precision, precision.Valid →
      OutlinesEach precision ((pieces.map Prod.snd).map (Expr.refit precision)) (decimals tokens)
        outlines := by
  induction split with
  | nil => exact ⟨[], fun _ _ => .nil⟩
  | cons phrase _ ih =>
    obtain ⟨outline, here⟩ := phrase.outline fun token member => settled token (by simp [member])
    obtain ⟨outlines, later⟩ := ih fun token member => settled token (by simp [member])
    refine ⟨outline :: outlines, fun precision valid => ?_⟩
    rw [decimals_append]
    exact .cons (here precision valid) (later precision valid)

end Grammar

namespace Reading
open Reckon.Expr (OutlinesEach)
open Token (decimals)

/-- Under any two valid precisions the tokens of a line are read as equally many trees with the
same outlines, or refused with the same error: its cause, the tokens it shows, its place and its
line. -/
theorem read_outlines (scanned : Token.tokenize line code = .ok tokens)
    (valid : precision.Valid) (valid' : precision'.Valid) :
    (∃ trees trees' outlines, Reading.read precision tokens = .ok trees ∧
      Reading.read precision' tokens = .ok trees' ∧ trees.length = trees'.length ∧
      (∀ others, OutlinesEach precision trees (decimals tokens) others ↔ others = outlines) ∧
      ∀ others, OutlinesEach precision' trees' (decimals tokens) others ↔ others = outlines) ∨
    ∃ refused, Reading.read precision tokens = .error (.reading refused) ∧
      Reading.read precision' tokens = .error (.reading refused) := by
  have settled := Token.tokenize_settled scanned
  rw [read_valid valid settled, read_valid valid' settled]
  cases plain : Reading.read none tokens with
  | error reported =>
    obtain ⟨refused, rfl⟩ := read_none_error settled plain
    exact .inr ⟨refused, rfl, rfl⟩
  | ok found =>
    obtain ⟨pieces, split, rfl⟩ := (read_ok_iff Precision.valid_none settled).1 plain
    obtain ⟨outlines, outlined⟩ := split.outlines settled
    refine .inl ⟨_, _, outlines, rfl, rfl, by simp, fun others => ?_, fun others => ?_⟩
    · have here := outlined precision valid
      exact ⟨fun other => other.unique here, fun same => same ▸ here⟩
    · have here := outlined precision' valid'
      exact ⟨fun other => other.unique here, fun same => same ▸ here⟩

open Calculation (sumTokens read_sum)

/-- The literal is a floating-point number without a precision, a fixed decimal under one of three
digits, and `1.5` in both outlines. -/
theorem read_outlines_sum : Token.tokenize 1 "1.5 + 2" = .ok sumTokens ∧
    ∃ trees trees', Reading.read none sumTokens = .ok trees ∧
      Reading.read (some 3) sumTokens = .ok trees' ∧
      OutlinesEach none trees ["1.5"] [.binary .add (.unparsed "1.5") (.value (.integer 2))] ∧
      OutlinesEach (some 3) trees' ["1.5"]
        [.binary .add (.unparsed "1.5") (.value (.integer 2))] := by
  obtain ⟨scanned, read⟩ := read_sum
  have valid : Precision.Valid (some 3) := Precision.valid_some_iff.2 (by simp [Precision.greatest])
  have literal : decimalLiteral (some 3) "1.5" =
      .ok (.fixed (.rounded 3 Calculation.threeHalves) 3) := by decide +kernel
  have known : OutlinesEach (some 3) [Calculation.sumTree] ["1.5"]
      [.binary .add (.unparsed "1.5") (.value (.integer 2))] :=
    .cons (.binary (.decimal literal) .integer) .nil
  refine ⟨scanned, ?_⟩
  rcases read_outlines scanned Precision.valid_none valid with
    ⟨trees, trees', outlines, plain, fitted, _, here, there⟩ | ⟨refused, _, failed⟩
  · cases read.symm.trans fitted
    obtain rfl := (there _).1 known
    exact ⟨trees, _, plain, fitted, (here _).2 rfl, known⟩
  · cases read.symm.trans failed

end Reading
end Reckon

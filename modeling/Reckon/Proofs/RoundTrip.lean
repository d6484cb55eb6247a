import Reckon.Proofs.Lexemes
import Reckon.Proofs.Modular
import Reckon.Proofs.Words

/-! Printed integers typed again. The sign of a negative one is read as an operator, and the digits
after it as a literal of their own, which has to be a word too. So every integer that a line comes
to is read back from its text, under every precision, but for the lowest: its digits are no word. -/
namespace Reckon

namespace Token

variable {n : Int}

/-- The faces of the tokens of a printed integer. -/
def printed (n : Int) : List Face :=
  let digits : Face := (.integer, String.ofList (Digits.ofNat n.natAbs))
  if n < 0 then [(.minus, "-"), digits] else [digits]

theorem readings_ofInt (small : n.natAbs < Word.bound) :
    readings (Digits.ofInt n) = some (printed n) := by
  have digits : readings (Digits.ofNat n.natAbs) =
      some [(.integer, String.ofList (Digits.ofNat n.natAbs))] := readings_integer small
  unfold Digits.ofInt printed
  split
  · have sign : readings ['-'] = some [(.minus, "-")] := readings_operator rfl
    exact (readings_append_iff (apart_operator rfl _)).2 ⟨_, _, sign, digits, rfl⟩
  · exact digits

end Token

namespace Grammar
open Token (face printed)

variable {n : Int} {tokens : List Token} {token : Token}

theorem denotes_printed (small : n.natAbs < Word.bound)
    (shown : face token = (.integer, String.ofList (Digits.ofNat n.natAbs))) :
    Denotes none token (.integer n.natAbs) := by
  obtain ⟨kind, lexeme⟩ := Prod.mk.inj shown
  refine .integer kind ?_
  rw [lexeme]
  exact Token.integer_small small

/-- The tokens of a printed integer spell it, if need be as a difference from zero. -/
theorem spells_printed (small : n.natAbs < Word.bound) (shown : tokens.map face = printed n) :
    ∃ tree, Spells none .chain tokens [] tree ∧ tree.total? = some n := by
  unfold printed at shown
  split at shown
  case isTrue negative =>
    obtain ⟨sign, later, rfl, minus, last⟩ := List.map_eq_cons_iff.1 shown
    obtain ⟨token, rfl, digits⟩ := List.map_eq_singleton_iff.1 last
    have literal := denotes_printed small digits
    refine ⟨_, .single (.negation (congrArg Prod.fst minus) (.literal literal)) ends_nil, ?_⟩
    exact Expr.total?_binary.2 ⟨_, 0, n.natAbs, rfl, rfl, rfl, by omega⟩
  case isFalse nonneg =>
    obtain ⟨token, rfl, digits⟩ := List.map_eq_singleton_iff.1 shown
    have whole : (n.natAbs : Int) = n := by omega
    exact ⟨_, .single (.literal (denotes_printed small digits)) ends_nil,
      by simp [Expr.total?, whole]⟩

end Grammar

namespace Calculation
open Evaluation

variable {precision : Precision} {n : Int}

theorem printed_plain (n : Int) : ∀ shown ∈ Token.printed n, shown.1 ≠ .decimal := by
  unfold Token.printed
  split <;> simp

theorem calculate_ofInt (precision : Precision) (small : n.natAbs < Word.bound) :
    calculate precision (Value.integer n).text = .ok (some (.integer n)) := by
  have reads : Token.readings (Value.integer n).text.toList = some (Token.printed n) := by
    simpa [Value.text] using Token.readings_ofInt small
  obtain ⟨tokens, scanned, shown⟩ := Token.tokenize_of_readings reads 1
  obtain ⟨tree, spelled, total⟩ := Grammar.spells_printed small shown
  have plain : ∀ token ∈ tokens, token.kind ≠ .decimal := by
    intro token member
    exact printed_plain n (Token.face token) (shown ▸ List.mem_map_of_mem member)
  have split : Grammar.Splits none tokens [(tokens, tree)] := by
    simpa using Grammar.Splits.cons spelled .nil
  have settled := Token.tokenize_settled scanned
  have read := (Reading.read_ok_iff Precision.valid_none settled).2 ⟨_, split, rfl⟩
  have read' := Reading.read_undecimal precision settled plain
  rw [read, map_ok] at read'
  have fits : Word.fits n = true := by
    rw [Word.fits_iff]
    omega
  rw [calculate_total scanned read' ((Expr.total?_refit precision tree).trans total),
    Word.wrap_of_fits fits]

theorem calculate_inRange (given : calculate precision code = .ok (some v)) : v.InRange := by
  obtain ⟨tokens, tree, scanned, read, evaluated⟩ := calculate_value given
  have built := read_built scanned read tree (by simp)
  exact evaluate_inRange (fun _ member => (built.leaf member).inRange) evaluated

/-- The digits of the lowest word are no word without their sign. -/
theorem calculate_lowest (precision : Precision) : calculate precision "-2147483648" =
    .error (.token ⟨.malformedNumber "2147483648", "-2147483648", 1⟩) := by
  have refused : Token.tokenize 1 "-2147483648" =
    .error (.token ⟨.malformedNumber "2147483648", "-2147483648", 1⟩) := by decide +kernel
  rw [calculate, refused, error_bind]

/-- The text of an integer that a line comes to is a line that comes to it too, unless it is the
lowest word, whose digits are refused. -/
theorem calculate_text (given : calculate precision code = .ok (some (.integer n))) :
    (n ≠ -2 ^ 31 → calculate precision (Value.integer n).text = .ok (some (.integer n))) ∧
    (n = -2 ^ 31 → calculate precision (Value.integer n).text =
      .error (.token ⟨.malformedNumber "2147483648", "-2147483648", 1⟩)) := by
  obtain ⟨low, high⟩ := calculate_inRange given n rfl
  constructor
  · intro above
    refine calculate_ofInt precision ?_
    simp only [Word.bound]
    omega
  · rintro rfl
    have text : (Value.integer (-2 ^ 31)).text = "-2147483648" := by decide +kernel
    rw [text, calculate_lowest]

def difference : List Token := [
  ⟨.integer, "2", 1, 0, true⟩, ⟨.minus, "-", 1, 2, true⟩, ⟨.integer, "7", 1, 4, true⟩]

theorem calculate_text_difference :
    calculate (some 3) "2 - 7" = .ok (some (.integer (-5))) ∧ (-5 : Int) ≠ -2 ^ 31 ∧
    (Value.integer (-5)).text = "-5" ∧
    calculate (some 3) "-5" = .ok (some (.integer (-5))) := by
  have scanned : Token.tokenize 1 "2 - 7" = .ok difference := by decide +kernel
  have two : Grammar.Denotes (some 3) ⟨.integer, "2", 1, 0, true⟩ (.integer 2) :=
    .integer rfl (by decide +kernel)
  have seven : Grammar.Denotes (some 3) ⟨.integer, "7", 1, 4, true⟩ (.integer 7) :=
    .integer rfl (by decide +kernel)
  have sign : (Token.Kind.minus, Operator.sub) ∈ Grammar.operators := by decide
  have read := Reading.read_operation (Precision.valid_some_iff.2 (by decide))
    (Token.tokenize_settled scanned) two sign seven
  have given : calculate (some 3) "2 - 7" = .ok (some (.integer (-5))) :=
    calculate_total scanned read rfl
  have text : (Value.integer (-5)).text = "-5" := by decide +kernel
  exact ⟨given, by decide, text, text ▸ (calculate_text given).1 (by decide)⟩

def overflow : List Token := [
  ⟨.integer, "2147483647", 1, 0, true⟩, ⟨.plus, "+", 1, 11, true⟩, ⟨.integer, "1", 1, 13, true⟩]

/-- The lowest word is the value of a sum, and its text is refused. -/
theorem calculate_text_lowest :
    calculate none "2147483647 + 1" = .ok (some (.integer (-2147483648))) ∧
    (Value.integer (-2147483648)).text = "-2147483648" ∧
    calculate none "-2147483648" ≠ .ok (some (.integer (-2147483648))) := by
  have scanned : Token.tokenize 1 "2147483647 + 1" = .ok overflow := by decide +kernel
  have greatest : Grammar.Denotes none ⟨.integer, "2147483647", 1, 0, true⟩
      (.integer 2147483647) := .integer rfl (by decide +kernel)
  have one : Grammar.Denotes none ⟨.integer, "1", 1, 13, true⟩ (.integer 1) :=
    .integer rfl (by decide +kernel)
  have sign : (Token.Kind.plus, Operator.add) ∈ Grammar.operators := by decide
  have read := Reading.read_operation Precision.valid_none (Token.tokenize_settled scanned)
    greatest sign one
  exact ⟨calculate_total scanned read rfl, by decide +kernel, by simp [calculate_lowest]⟩

end Calculation
end Reckon

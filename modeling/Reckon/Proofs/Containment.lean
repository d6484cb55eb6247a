import Reckon.Calculation
import Reckon.Proofs.Evaluation

/-! Containment of errors. A line is refused by scanning, reading or evaluation, each with an error
of its own; a bare fault comes only from a precision that decimals cannot be made with. -/
namespace Reckon

/-- A failure that some stage accounts for. -/
def Failure.Reported : Failure → Prop
  | .token _ | .reading _ | .evaluation _ => True
  | .fault _ => False

namespace Calculation
open Evaluation Reading

/-- How a line may end: with no value, with a sound one, or with a reported error. -/
inductive Contained : Except Failure (Option Value) → Prop where
  | nothing : Contained (.ok none)
  | value : v.Sound → Contained (.ok (some v))
  | reported : Failure.Reported refused → Contained (.error refused)

theorem read_built (scanned : Token.tokenize line code = .ok tokens)
    (read : Reading.read precision tokens = .ok trees) :
    ∀ tree ∈ trees, tree.Built Value.Sound := by
  have settled := Token.tokenize_settled scanned
  rw [read_settled precision settled, mapError_eq_ok] at read
  exact program_built settled read

/-- The only tree of a line, if there is just one, has to be made a value under the precision. -/
def BoxesOnly (precision : Precision) (trees : List Expr) : Prop :=
  ∃ tree, trees = [tree] ∧ Boxes precision tree

theorem only_cases (built : ∀ tree ∈ trees, tree.Built Value.Sound) :
    (BoxesOnly precision trees → precision.Valid) ∧ Contained (only precision trees) ∨
      BoxesOnly precision trees ∧ ¬ precision.Valid ∧
        only precision trees = .error (.fault precision.refusal) := by
  match trees with
  | [] => exact .inl ⟨by simp [BoxesOnly], .nothing⟩
  | [tree] =>
    have same : BoxesOnly precision [tree] ↔ Boxes precision tree := by simp [BoxesOnly]
    have accounted := evaluate_accounted precision (built tree (by simp))
    simp only [same, only]
    generalize evaluate precision tree = result at accounted ⊢
    cases accounted with
    | value clear sound => exact .inl ⟨clear, .value sound⟩
    | reported clear => exact .inl ⟨clear, .reported trivial⟩
    | refused boxes invalid => exact .inr ⟨boxes, invalid, rfl⟩
  | _ :: _ :: _ => exact .inl ⟨by simp [BoxesOnly], .reported trivial⟩

/-- The line takes a decimal literal, or is a single expression whose reduction comes to making a
number a value under the precision. -/
def Draws (precision : Precision) (code : String) : Prop :=
  ∃ tokens, Token.tokenize 1 code = .ok tokens ∧
    ((∃ token ∈ taken tokens, token.kind = .decimal) ∨
      ∃ trees, Reading.read precision tokens = .ok trees ∧ BoxesOnly precision trees)

theorem draws_iff (scanned : Token.tokenize 1 code = .ok tokens) :
    Draws precision code ↔ (∃ token ∈ taken tokens, token.kind = .decimal) ∨
      ∃ trees, Reading.read precision tokens = .ok trees ∧ BoxesOnly precision trees := by
  constructor
  · rintro ⟨_, scanned', draws⟩
    cases scanned.symm.trans scanned'
    exact draws
  · intro draws
    exact ⟨tokens, scanned, draws⟩

/-- A line that draws on a precision which is not valid ends with its refusal, and no other line
ends with a fault. -/
theorem calculate_cases (precision : Precision) (code : String) :
    (Draws precision code → precision.Valid) ∧ Contained (calculate precision code) ∨
      Draws precision code ∧ ¬ precision.Valid ∧
        calculate precision code = .error (.fault precision.refusal) := by
  simp only [calculate]
  cases scanned : Token.tokenize 1 code with
  | error refused =>
    obtain ⟨e, rfl⟩ := Token.tokenize_error scanned
    have clear : ¬ Draws precision code := by
      rintro ⟨_, scanned', _⟩
      cases scanned.symm.trans scanned'
    rw [error_bind]
    exact .inl ⟨fun draws => absurd draws clear, .reported trivial⟩
  | ok tokens =>
    rw [draws_iff scanned, ok_bind]
    rcases read_refits precision (Token.tokenize_settled scanned) with
      ⟨clear, same⟩ | ⟨⟨invalid, decimal⟩, same⟩
    · have free (decimal : ∃ token ∈ taken tokens, token.kind = .decimal) : precision.Valid :=
        Classical.byContradiction fun invalid => clear ⟨invalid, decimal⟩
      cases reading : Reading.read precision tokens with
      | error refused =>
        rw [same, map_eq_error] at reading
        obtain ⟨e, rfl⟩ := read_none_error (Token.tokenize_settled scanned) reading
        refine .inl ⟨?_, .reported trivial⟩
        rintro (decimal | ⟨_, ⟨⟩, _⟩)
        exact free decimal
      | ok trees =>
        rw [ok_bind]
        rcases only_cases (read_built scanned reading) with
          ⟨free', contained⟩ | ⟨boxes, invalid, same⟩
        · refine .inl ⟨?_, contained⟩
          rintro (decimal | ⟨_, ⟨⟩, boxes⟩)
          · exact free decimal
          · exact free' boxes
        · exact .inr ⟨.inr ⟨trees, rfl, boxes⟩, invalid, same⟩
    · exact .inr ⟨.inl decimal, invalid, by rw [same]; rfl⟩

/-- Under a valid precision every line has a sound value, none, or a reported error, and whatever
is read on the way can be written down. -/
theorem calculate_contained (valid : precision.Valid) (code : String) :
    Contained (calculate precision code) ∧
      ∀ tokens trees, Token.tokenize 1 code = .ok tokens →
        Reading.read precision tokens = .ok trees →
          ∀ tree ∈ trees, ∃ text, tree.text = .ok text := by
  constructor
  · rcases calculate_cases precision code with ⟨_, contained⟩ | ⟨_, invalid, _⟩
    · exact contained
    · exact absurd valid invalid
  · intro tokens trees scanned read tree member
    exact (read_built scanned read tree member).text

def ratio : List Token := [
  ⟨.integer, "1", 1, 0, true⟩, ⟨.slash, "/", 1, 2, true⟩, ⟨.integer, "0", 1, 4, true⟩]

/-- A division by zero is reported, and what was read can still be shown. -/
theorem calculate_contained_ratio : Precision.Valid (some 3) ∧
    Token.tokenize 1 "1 / 0" = .ok ratio ∧
    Reading.read (some 3) ratio =
      .ok [.binary .div (.value (.integer 1)) (.value (.integer 0))] ∧
    Contained (calculate (some 3) "1 / 0") ∧
    ∃ text, Expr.text (.binary .div (.value (.integer 1)) (.value (.integer 0))) = .ok text := by
  have valid : Precision.Valid (some 3) := Precision.valid_some_iff.2 (by decide)
  have scanned : Token.tokenize 1 "1 / 0" = .ok ratio := eq_ok_of_toOption (by decide +kernel)
  have one : Grammar.Denotes (some 3) ⟨.integer, "1", 1, 0, true⟩ (.integer 1) :=
    .integer rfl (eq_ok_of_toOption (by decide +kernel))
  have zero : Grammar.Denotes (some 3) ⟨.integer, "0", 1, 4, true⟩ (.integer 0) :=
    .integer rfl (eq_ok_of_toOption (by decide +kernel))
  have phrase : Grammar.Spells (some 3) .chain ratio []
      (.binary .div (.value (.integer 1)) (.value (.integer 0))) :=
    .binary (.literal one) (by decide) (.single (.literal zero) Grammar.ends_nil)
      Grammar.ends_nil
  have read := (read_ok_iff valid (Token.tokenize_settled scanned)).2 ⟨_, .cons phrase .nil, rfl⟩
  obtain ⟨contained, shown⟩ := calculate_contained valid "1 / 0"
  exact ⟨valid, scanned, read, contained, shown ratio _ scanned read _ (by simp)⟩

end Calculation
end Reckon

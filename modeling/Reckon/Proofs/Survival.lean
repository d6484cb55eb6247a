import Reckon.Proofs.Command
import Reckon.Proofs.Containment

/-! Which lines a session survives. Any positive precision can come into force, but the greatest one
that decimals can be made with bounds what may be drawn on: beyond it a line that does so ends its
turn with a fault, and every other line has its output. -/
namespace Reckon

theorem Command.read_positive (read : Command.read? current line = some command) :
    command.precision.Positive := by
  cases Command.decoded_of_read? read with
  | set asks =>
    rintro _ ⟨⟩
    exact asks.positive
  | reset => nofun

namespace Session
open Calculation

/-- What a line has evaluated, and under which precision: the line itself, or what follows the
command in it. -/
def work (precision : Precision) (line : String) : Option (Precision × String) :=
  match Command.read? precision line with
  | none => some (precision, line)
  | some command => command.rest.map fun code => (command.precision, code)

/-- The precision in force after the lines. -/
def inForce (precision : Precision) : List String → Precision
  | [] => precision
  | line :: lines => inForce (handle precision line).precision lines

theorem handle_positive (positive : precision.Positive) (line : String) :
    (handle precision line).precision.Positive := by
  simp only [handle]
  cases read : Command.read? precision line with
  | none => exact positive
  | some command => exact Command.read_positive read

theorem inForce_positive (positive : precision.Positive) (lines : List String) :
    (inForce precision lines).Positive := by
  induction lines generalizing precision with
  | nil => exact positive
  | cons line lines ih => exact ih (handle_positive positive line)

/-- Each turn is that of its line under the precision in force before it. -/
theorem run_get (precision : Precision) (lines : List String) (i : Nat) :
    (run precision lines)[i]? =
      lines[i]?.map fun line => handle (inForce precision (lines.take i)) line := by
  induction lines generalizing precision i with
  | nil => simp [run]
  | cons line lines ih =>
    cases i with
    | zero => rfl
    | succ i => exact ih (handle precision line).precision i

theorem run_forall_iff (p : Turn → Prop) : (∀ turn ∈ run precision lines, p turn) ↔
    ∀ i line, lines[i]? = some line → p (handle (inForce precision (lines.take i)) line) := by
  simp only [List.mem_iff_getElem?, run_get, Option.map_eq_some_iff]
  constructor
  · intro all i line here
    exact all _ ⟨i, line, here, rfl⟩
  · rintro all _ ⟨i, line, here, rfl⟩
    exact all i line here

theorem work_positive (positive : precision.Positive)
    (works : work precision line = some (used, code)) : used.Positive := by
  simp only [work] at works
  cases read : Command.read? precision line with
  | none =>
    simp only [read, Option.some.injEq, Prod.mk.injEq] at works
    exact works.1 ▸ positive
  | some command =>
    simp only [read, Option.map_eq_some_iff, Prod.mk.injEq] at works
    obtain ⟨_, _, rfl, _⟩ := works
    exact Command.read_positive read

/-- An answer is a fault exactly when its line draws on a precision that is not valid. -/
theorem answer_error_iff : (∃ f, answer precision code = .error f) ↔
    Draws precision code ∧ ¬ precision.Valid := by
  simp only [answer]
  rcases calculate_cases precision code with ⟨free, contained⟩ | ⟨draws, invalid, same⟩
  · have clear : ¬ (Draws precision code ∧ ¬ precision.Valid) := fun ⟨draws, invalid⟩ =>
      invalid (free draws)
    simp only [clear, iff_false]
    generalize calculate precision code = result at contained ⊢
    cases contained with
    | nothing => simp
    | value => simp
    | @reported refused reported =>
      cases refused with
      | token => simp
      | reading => simp
      | evaluation => simp
      | fault f => exact reported.elim
  · simp [draws, invalid, same]

theorem handle_error_iff : (∃ f, (handle precision line).output = .error f) ↔
    ∃ used code, work precision line = some (used, code) ∧ Draws used code ∧ ¬ used.Valid := by
  have here (used : Precision) (code : String) : (Draws used code ∧ ¬ used.Valid) ↔
      ∃ used' code', (used, code) = (used', code') ∧ Draws used' code' ∧ ¬ used'.Valid := by
    constructor
    · intro draws
      exact ⟨used, code, rfl, draws⟩
    · rintro ⟨_, _, ⟨⟩, draws⟩
      exact draws
  simp only [handle, work]
  cases Command.read? precision line with
  | none => simp only [answer_error_iff, Option.some.injEq, here precision line]
  | some command =>
    obtain ⟨used, messages, rest⟩ := command
    cases rest with
    | none => simp
    | some code =>
      simp only [map_eq_error, answer_error_iff, Option.map_some, Option.some.injEq,
        here used code]

/-- What the line has evaluated draws on a precision beyond the greatest. -/
def Overdraws (precision : Precision) (line : String) : Prop :=
  ∃ digits code, work precision line = some (some digits, code) ∧
    Precision.greatest < digits ∧ Draws (some digits) code

theorem overdraws_iff (positive : precision.Positive) : Overdraws precision line ↔
    ∃ used code, work precision line = some (used, code) ∧ Draws used code ∧ ¬ used.Valid := by
  constructor
  · rintro ⟨digits, code, works, beyond, draws⟩
    have positive := work_positive positive works
    exact ⟨_, code, works, draws, positive.not_valid_iff.2 ⟨digits, rfl, beyond⟩⟩
  · rintro ⟨used, code, works, draws, invalid⟩
    obtain ⟨digits, rfl, beyond⟩ := (work_positive positive works).not_valid_iff.1 invalid
    exact ⟨digits, code, works, beyond, draws⟩

/-- Every line of a session has its output exactly if none draws on a precision beyond the greatest,
whatever the lines before it have put in force. -/
theorem run_survives_iff (positive : precision.Positive) (lines : List String) :
    (∀ turn ∈ run precision lines, ∃ texts, turn.output = .ok texts) ↔
      ∀ i line, lines[i]? = some line →
        ¬ Overdraws (inForce precision (lines.take i)) line := by
  have ok_iff (turn : Turn) :
      (∃ texts, turn.output = .ok texts) ↔ ¬ ∃ f, turn.output = .error f := by
    cases turn.output <;> simp
  rw [run_forall_iff]
  simp only [ok_iff, handle_error_iff, overdraws_iff (inForce_positive positive _)]

/-- One digit more than decimals can be made with. -/
def beyond : Precision := some 1000000000000000000

def total : List Token := [
  ⟨.integer, "2", 1, 0, true⟩, ⟨.plus, "+", 1, 2, true⟩, ⟨.integer, "3", 1, 4, true⟩]

theorem beyond_positive : beyond.Positive := by
  rintro _ ⟨⟩
  decide

theorem beyond_invalid : ¬ beyond.Valid :=
  beyond_positive.not_valid_iff.2 ⟨_, rfl, by decide⟩

theorem read_total (valid : precision.Valid) : Token.tokenize 1 "2 + 3" = .ok total ∧
    Reading.read precision total =
      .ok [.binary .add (.value (.integer 2)) (.value (.integer 3))] := by
  have scanned : Token.tokenize 1 "2 + 3" = .ok total := eq_ok_of_toOption (by decide +kernel)
  have two : Grammar.Denotes precision ⟨.integer, "2", 1, 0, true⟩ (.integer 2) :=
    .integer rfl (eq_ok_of_toOption (by decide +kernel))
  have three : Grammar.Denotes precision ⟨.integer, "3", 1, 4, true⟩ (.integer 3) :=
    .integer rfl (eq_ok_of_toOption (by decide +kernel))
  have settled := Token.tokenize_settled scanned
  exact ⟨scanned, Reading.read_operation valid settled two (by decide) three⟩

theorem total_draws_nothing (precision : Precision) : ¬ Draws precision "2 + 3" := by
  obtain ⟨scanned, plain⟩ := read_total Precision.valid_none
  have settled := Token.tokenize_settled scanned
  rw [draws_iff scanned, Reading.taken_of_ok plain]
  rintro (⟨token, member, decimal⟩ | ⟨trees, read, tree, rfl, boxes⟩)
  · simp only [total, List.mem_cons, List.not_mem_nil, or_false] at member
    rcases member with rfl | rfl | rfl <;> cases decimal
  · rcases Reading.read_refits precision settled with ⟨_, same⟩ | ⟨_, same⟩
    · rw [read, plain, map_ok] at same
      obtain ⟨rfl, _⟩ := List.cons.inj (Except.ok.inj same)
      simp [Expr.refit, Evaluation.Boxes] at boxes
    · rw [read] at same
      cases same

/-- A sum of integers draws on no precision, so it survives one that is out of range. -/
theorem run_survives_total : beyond.Positive ∧
    ∀ turn ∈ run beyond ["2 + 3"], ∃ texts, turn.output = .ok texts := by
  refine ⟨beyond_positive, (run_survives_iff beyond_positive ["2 + 3"]).2 ?_⟩
  intro i line here
  cases i with
  | zero =>
    obtain rfl : "2 + 3" = line := Option.some.inj here
    rintro ⟨digits, code, works, _, draws⟩
    have whole : work beyond "2 + 3" = some (beyond, "2 + 3") := by decide +kernel
    obtain ⟨_, rfl⟩ := Prod.mk.inj (Option.some.inj (whole.symm.trans works))
    exact total_draws_nothing _ draws
  | succ i => cases here

/-- The command accepts the precision, and the literal after it ends the turn without output. -/
theorem run_overdrawn : Precision.Positive none ∧
    run none ["fp=1000000000000000000 1.5"] = [⟨beyond, .error .precisionOutOfRange⟩] := by
  refine ⟨nofun, ?_⟩
  have scanned : Token.tokenize 1 " 1.5" = .ok [⟨.decimal, "1.5", 1, 1, true⟩] :=
    eq_ok_of_toOption (by decide +kernel)
  have settled := Token.tokenize_settled scanned
  obtain ⟨x, denoted, _⟩ := Reading.settled_decimal none (settled _ (List.mem_singleton_self _)) rfl
  have literal := (Grammar.decimalLiteral_ok_iff Precision.valid_none rfl).1 denoted
  have plain := Reading.read_literal Precision.valid_none
    (settled _ (List.mem_singleton_self _)) literal
  have draws : Draws beyond " 1.5" :=
    (draws_iff scanned).2 (.inl (by rw [Reading.taken_of_ok plain]; simp))
  have read : Command.read? none "fp=1000000000000000000 1.5" =
      some ⟨beyond, ["Setting precision to 1000000000000000000"], some " 1.5"⟩ := by
    decide +kernel
  rcases calculate_cases beyond " 1.5" with ⟨free, _⟩ | ⟨_, _, same⟩
  · exact absurd (free draws) beyond_invalid
  · simp only [run, handle, read, answer, same, map_error]
    rfl

end Session
end Reckon

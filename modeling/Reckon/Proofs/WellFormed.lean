import Reckon.Proofs.Kinds

/-! Well-formed trees. Reading takes names and operators from its own tables, and evaluation looks
them up in others; what is read has only names, arities and operators that evaluation knows. Every
operation covers all operands, whatever kinds they are of, so the errors that are kept for
something unknown do not arise at any depth. -/
namespace Reckon

/-- The literals are of the kinds that the precision gives them, the operators are the five that
have rules, and the names stand for a constant or for a function of so many arguments. -/
inductive Expr.WellFormed (precision : Precision) : Expr → Prop where
  | integer : 0 ≤ n → n < Word.bound → WellFormed precision (.value (.integer n))
  | float : precision = none → WellFormed precision (.value (.float x))
  | fixed : precision = some digits → WellFormed precision (.value (.fixed number digits))
  | binary : operator ∈ [.add, .sub, .mul, .div, .pow] → WellFormed precision left →
      WellFormed precision right → WellFormed precision (.binary operator left right)
  | magnitude : WellFormed precision operand → WellFormed precision (.magnitude operand)
  | constant : Builtin.constant? name = some x → WellFormed precision (.constant name)
  | unary : Builtin.function? name = some builtin → builtin.arity = 1 →
      WellFormed precision argument → WellFormed precision (.unary name argument)
  | function : Builtin.function? name = some builtin → builtin.arity = 2 →
      WellFormed precision first → WellFormed precision second →
      WellFormed precision (.function name first second)

/-- An error about the tree itself, and not about the numbers that it comes to. -/
def Evaluation.Error.Defensive : Evaluation.Error → Prop
  | .unknownSymbol _ | .wrongArity .. | .unexpectedOperator _ | .undefined ..
  | .notReduced _ => True
  | .divisionByZero | .operationFailed .. | .functionFailed .. | .severalExpressions => False

namespace Grammar

theorem operator_known (member : (kind, operator) ∈ operators) :
    operator ∈ [.add, .sub, .mul, .div, .pow] := by
  have known : ∀ entry ∈ operators, entry.2 ∈ [.add, .sub, .mul, .div, .pow] := by decide
  exact known _ member

theorem constant_known (member : (kind, name) ∈ constants) :
    ∃ x, Builtin.constant? name = some x := by
  have known : ∀ entry ∈ constants, (Builtin.constant? entry.2).isSome := by decide
  exact Option.isSome_iff_exists.1 (known _ member)

theorem function_known (member : (kind, name) ∈ functions) :
    ∃ builtin, Builtin.function? name = some builtin ∧ builtin.arity = 1 := by
  have known : ∀ entry ∈ functions, (Builtin.function? entry.2).any (·.arity = 1) := by decide
  simpa [Option.any_eq_true] using known _ member

theorem Denotes.wellFormed (settled : Token.Settled token) (denotes : Denotes precision token v) :
    Expr.WellFormed precision (.value v) := by
  cases denotes with
  | integer kind read =>
    obtain ⟨m, small, lexeme⟩ := settled.integer kind
    rw [lexeme, Token.integer_small small] at read
    cases read
    exact .integer (Int.natCast_nonneg m) small
  | float => exact .float rfl
  | fixed => exact .fixed rfl

end Grammar

open Grammar

theorem Expr.Built.wellFormed {tree : Expr}
    (built : tree.Built fun v => Expr.WellFormed precision (.value v)) :
    tree.WellFormed precision := by
  induction built with
  | value formed => exact formed
  | binary member _ _ left right => exact .binary (operator_known member) left right
  | magnitude _ operand => exact .magnitude operand
  | constant member =>
    obtain ⟨x, known⟩ := constant_known member
    exact .constant known
  | unary member _ argument =>
    obtain ⟨builtin, known, arity⟩ := function_known member
    exact .unary known arity argument
  | logarithm _ _ first second => exact .function rfl rfl first second

namespace Operation

/-- The last rule of an operation may take the operands that no other takes. -/
theorem result?_covers (last : rules.getLast? = some rule)
    (covers : rule precision a b = some result) :
    ∃ result, result? rules precision a b = some result := by
  have member := List.mem_of_getLast? last
  refine Option.isSome_iff_exists.1 (List.findSome?_isSome_iff.2 ⟨rule, member, ?_⟩)
  simp [covers]

end Operation

namespace Evaluation
open Operation

/-- The outcome is no error about the tree. -/
def Guarded (outcome : Except Failure α) : Prop :=
  ∀ e, outcome = .error (.evaluation e) → ¬ e.Defensive

theorem Guarded.ok (a : α) : Guarded (.ok a) := nofun

theorem Guarded.fault (result : Except Fault α) : Guarded (result.mapError .fault) := by
  cases result <;> exact nofun

theorem Guarded.bind {x : Except Failure α} {next : α → Except Failure β} (first : Guarded x)
    (second : ∀ a, Guarded (next a)) : Guarded (x >>= next) := by
  intro e failed
  rcases bind_eq_error.1 failed with here | ⟨a, _, later⟩
  · exact first e here
  · exact second a e later

variable {precision : Precision}

theorem combine_guarded (operation : String)
    (covers : ∃ result, result? rules precision a b = some result) :
    Guarded (combine rules operation precision a b) := by
  obtain ⟨result, covers⟩ := covers
  simp only [combine, covers]
  cases result with
  | ok v => exact .ok v
  | error f =>
    rintro _ ⟨⟩
    exact id

/-- The last rule of an operation takes operands of any kinds. -/
theorem operate_guarded (known : operator ∈ [.add, .sub, .mul, .div, .pow]) (a b : Value) :
    Guarded (operate precision a b operator) := by
  simp only [List.mem_cons, List.not_mem_nil, or_false] at known
  rcases known with rfl | rfl | rfl | rfl | rfl
  · exact combine_guarded _ (result?_covers rfl rfl)
  · exact combine_guarded _ (result?_covers rfl rfl)
  · exact combine_guarded _ (result?_covers rfl rfl)
  · simp only [operate, divide]
    split
    · exact .fault (.error _)
    · rintro _ ⟨⟩
      exact id
    · exact combine_guarded _ (result?_covers rfl rfl)
  · have last : exponentiation.getLast? = some _ := rfl
    exact combine_guarded _ (result?_covers last rfl)

theorem applyBuiltin_guarded (precision : Precision) (name : String)
    (result : Except Fault Binary64) : Guarded (applyBuiltin precision name result) := by
  refine .bind ?_ fun x => .fault _
  cases result with
  | ok x => exact .ok x
  | error f =>
    rintro _ ⟨⟩
    exact id

theorem call_guarded (known : Builtin.function? name = some builtin)
    (arity : builtin.arity = arguments.length) : Guarded (call precision name arguments) := by
  simp only [call, known]
  cases builtin with
  | unary apply =>
    obtain ⟨a, rfl⟩ := List.length_eq_one_iff.1 arity.symm
    exact applyBuiltin_guarded precision name _
  | binary apply =>
    obtain ⟨a, b, rfl⟩ := List.length_eq_two.1 arity.symm
    exact applyBuiltin_guarded precision name _

theorem evaluate_guarded (formed : tree.WellFormed literals) (precision : Precision) :
    Guarded (evaluate precision tree) := by
  induction formed with
  | integer | float | fixed => exact .ok _
  | binary known _ _ left right =>
    exact .bind left fun a => .bind right fun b => operate_guarded known a b
  | magnitude _ operand => exact .bind operand fun v => .bind (.fault _) fun x => .fault _
  | constant known =>
    simp only [evaluate, known]
    exact .fault _
  | unary known arity _ argument => exact .bind argument fun v => call_guarded known arity
  | function known arity _ _ first second =>
    exact .bind first fun a => .bind second fun b => call_guarded known arity

end Evaluation

namespace Calculation
open Evaluation

/-- The trees of a line are well formed under the precision that they are read under, and whatever
part of them is reduced, under that precision or another, does not end with an error about the
tree. -/
theorem read_wellFormed (valid : precision.Valid)
    (scanned : Token.tokenize line code = .ok tokens)
    (read : Reading.read precision tokens = .ok trees) :
    ∀ tree ∈ trees, tree.WellFormed precision ∧
      ∀ part ∈ tree.parts, ∀ current e,
        evaluate current part = .error (.evaluation e) → ¬ e.Defensive := by
  intro tree member
  have built := read_leaves (fun v => Expr.WellFormed precision (.value v)) valid
    (.integer (by decide) (by decide)) (fun token v settled denotes => denotes.wellFormed settled)
    scanned read tree member
  refine ⟨built.wellFormed, fun part within current => ?_⟩
  exact evaluate_guarded (built.part part within).wellFormed current

def rootTokens : List Token := [
  ⟨.sqrt, "sqrt", 1, 0, true⟩, ⟨.minus, "-", 1, 5, true⟩, ⟨.decimal, "2.5", 1, 6, true⟩]

def rootTree : Expr := .unary "sqrt" (.binary .sub (.value (.integer 0))
  (.value (.fixed (.rounded 3 (.finite false 0x14000000000000 (-51) (by decide))) 3)))

/-- The root of a negative number is an error of the function, which is known and has its
argument. -/
theorem read_wellFormed_root : Precision.Valid (some 3) ∧
    Token.tokenize 1 "sqrt -2.5" = .ok rootTokens ∧
    Reading.read (some 3) rootTokens = .ok [rootTree] ∧ rootTree.WellFormed (some 3) ∧
    evaluate (some 3) rootTree =
      .error (.evaluation (.functionFailed "sqrt" .negativeRoot)) ∧
    ¬ Evaluation.Error.Defensive (.functionFailed "sqrt" .negativeRoot) := by
  have valid : Precision.Valid (some 3) := Precision.valid_some_iff.2 (by decide)
  have scanned : Token.tokenize 1 "sqrt -2.5" = .ok rootTokens :=
    eq_ok_of_toOption (by decide +kernel)
  have number : Literal.real "2.5" = .ok (.finite false 0x14000000000000 (-51) (by decide)) :=
    eq_ok_of_toOption (by decide +kernel)
  have literal : Denotes (some 3) ⟨.decimal, "2.5", 1, 6, true⟩
      (.fixed (.rounded 3 (.finite false 0x14000000000000 (-51) (by decide))) 3) :=
    .fixed rfl number
  have phrase : Spells (some 3) .chain rootTokens [] rootTree :=
    .single (.unary (by decide) (.single (.negation rfl (.literal literal)) ends_nil)) ends_nil
  have read := (Reading.read_ok_iff valid (Token.tokenize_settled scanned)).2
    ⟨_, .cons phrase .nil, rfl⟩
  have failed : evaluate (some 3) rootTree =
      .error (.evaluation (.functionFailed "sqrt" .negativeRoot)) := by
    have difference : evaluate (some 3) (.binary .sub (.value (.integer 0)) (.value
        (.fixed (.rounded 3 (.finite false 0x14000000000000 (-51) (by decide))) 3))) =
          .ok (.fixed (.finite true 2500 (-3)) 3) := eq_ok_of_toOption (by decide +kernel)
    rw [rootTree, evaluate, difference]
    have negative : (Binary64.ofScientific true 2500 (-3)).isNegative = true := by decide +kernel
    simp [call, Builtin.function?, applyBuiltin, Value.toBinary, Decimal.toBinary?,
      Builtin.squareRoot, negative]
  obtain ⟨formed, guarded⟩ := read_wellFormed valid scanned read rootTree (by simp)
  exact ⟨valid, scanned, read, formed, failed, guarded rootTree (by simp [rootTree, Expr.parts])
    (some 3) _ failed⟩

end Calculation
end Reckon

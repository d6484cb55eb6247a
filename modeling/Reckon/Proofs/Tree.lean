import Reckon.Proofs.Quiet
import Reckon.Proofs.Refit

/-! The trees that reading builds. All their names and operators are known, and their literals are
nonnegative words and numbers that are not signaling. -/
namespace Reckon
open Grammar
open Token (Settled)

/-- A value that arithmetic may meet: a word, or a number that is not a signaling NaN. -/
def Value.Sound : Value → Prop
  | .integer n => Word.fits n = true
  | .float _ => True
  | .fixed number _ => number.Quiet

theorem Value.Sound.refit (sound : Value.Sound v) (precision : Precision) :
    (v.refit precision).Sound := by
  cases v with
  | integer n => exact sound
  | fixed number digits => exact sound
  | float x =>
    cases precision with
    | none => trivial
    | some digits => exact Decimal.rounded_quiet digits.toNat x

/-- A tree of the grammar, all literals of which satisfy `leaf`. -/
inductive Expr.Built (leaf : Value → Prop) : Expr → Prop where
  | value : leaf v → Built leaf (.value v)
  | binary : (kind, operator) ∈ operators → Built leaf left → Built leaf right →
      Built leaf (.binary operator left right)
  | magnitude : Built leaf operand → Built leaf (.magnitude operand)
  | constant : (kind, name) ∈ constants → Built leaf (.constant name)
  | unary : (kind, name) ∈ functions → Built leaf argument → Built leaf (.unary name argument)
  | logarithm : Built leaf first → Built leaf second → Built leaf (.function "log" first second)

theorem Expr.Built.refit {leaf : Value → Prop} (built : Expr.Built leaf tree)
    (fits : ∀ v, leaf v → leaf (v.refit precision)) : (tree.refit precision).Built leaf := by
  induction built with
  | value holds => exact .value (fits _ holds)
  | binary member _ _ left right => exact .binary member left right
  | magnitude _ operand => exact .magnitude operand
  | constant member => exact .constant member
  | unary member _ argument => exact .unary member argument
  | logarithm _ _ first second => exact .logarithm first second

/-- Trees are built from what the literals of their tokens denote and from the zero that a sign is
subtracted from. -/
theorem Grammar.Spells.built {leaf : Value → Prop} (zero : leaf (.integer 0))
    (spelled : Spells precision form stretch rest tree)
    (literals : ∀ token ∈ stretch, ∀ v, Denotes precision token v → leaf v) :
    tree.Built leaf := by
  induction spelled with
  | literal denotes => exact .value (literals _ (by simp) _ denotes)
  | constant member => exact .constant member
  | group _ _ _ ih => exact ih fun token member => literals token (by simp [member])
  | negation _ _ ih =>
    have sign : (Token.Kind.minus, Operator.sub) ∈ operators := by simp [operators]
    refine .binary sign (.value zero) ?_
    exact ih fun token member => literals token (by simp [member])
  | magnitude _ _ _ ih =>
    exact .magnitude (ih fun token member => literals token (by simp [member]))
  | unary member _ ih =>
    exact .unary member (ih fun token member => literals token (by simp [member]))
  | logarithm _ _ _ first second =>
    apply Expr.Built.logarithm
    · apply first
      intro token member
      exact literals token (by simp [member])
    · apply second
      intro token member
      exact literals token (by simp [member])
  | single _ _ ih => exact ih literals
  | binary _ member _ _ left right =>
    apply Expr.Built.binary member
    · apply left
      intro token member
      exact literals token (by simp [member])
    · apply right
      intro token member
      exact literals token (by simp [member])

theorem Grammar.Denotes.sound (settled : Settled token) (denotes : Denotes none token v) :
    v.Sound := by
  cases denotes with
  | integer integer read =>
    obtain ⟨m, fits, _, same⟩ := Reading.settled_integer settled integer
    rw [Reading.integerLiteral, read, map_ok] at same
    cases same
    exact fits
  | float => trivial

theorem Grammar.Splits.built {leaf : Value → Prop} (zero : leaf (.integer 0))
    (split : Splits precision tokens pieces)
    (literals : ∀ token ∈ tokens, ∀ v, Denotes precision token v → leaf v) :
    ∀ piece ∈ pieces, piece.2.Built leaf := by
  induction split with
  | nil => simp
  | cons phrase _ ih =>
    intro piece member
    rcases List.mem_cons.1 member with rfl | later
    · exact phrase.built zero fun token member => literals token (by simp [member])
    · exact ih (fun token member => literals token (by simp [member])) piece later

/-- Every tree of settled tokens is built from sound literals, whatever the precision. -/
theorem Reading.program_built (settled : ∀ token ∈ tokens, Settled token)
    (read : program precision tokens = .ok trees) : ∀ tree ∈ trees, tree.Built Value.Sound := by
  obtain ⟨taken, left, _, _, ⟨_, same⟩ | ⟨_, same⟩⟩ := readAll_refits precision settled
  · simp only [readAll, read, map_ok] at same
    cases plain : program none tokens with
    | error stop => simp [plain] at same
    | ok found =>
      obtain rfl : trees = found.map (Expr.refit precision) := by simpa [plain] using same
      obtain ⟨pieces, split, rfl⟩ := (program_ok_iff Precision.valid_none).1 plain
      have built : ∀ piece ∈ pieces, piece.2.Built Value.Sound :=
        split.built rfl fun token member _ denotes => denotes.sound (settled token member)
      simp only [List.mem_map, forall_exists_index, and_imp]
      rintro _ _ piece member rfl rfl
      exact (built piece member).refit fun v sound => sound.refit precision
  · simp [readAll, read] at same

/-- The tree and everything inside it, from the root downwards. -/
def Expr.parts : Expr → List Expr
  | .value v => [.value v]
  | .binary operator left right => .binary operator left right :: (left.parts ++ right.parts)
  | .magnitude operand => .magnitude operand :: operand.parts
  | .constant name => [.constant name]
  | .unary name argument => .unary name argument :: argument.parts
  | .function name first second => .function name first second :: (first.parts ++ second.parts)
  | .unparsed text => [.unparsed text]

theorem Expr.Built.part {leaf : Value → Prop} (built : Expr.Built leaf tree) :
    ∀ part ∈ tree.parts, part.Built leaf := by
  induction built with
  | value holds => simpa [Expr.parts] using Expr.Built.value holds
  | constant member => simpa [Expr.parts] using Expr.Built.constant member
  | binary member left right ih ih' =>
    simp only [Expr.parts, List.forall_mem_cons, List.forall_mem_append]
    exact ⟨.binary member left right, ih, ih'⟩
  | magnitude operand ih =>
    simp only [Expr.parts, List.forall_mem_cons]
    exact ⟨.magnitude operand, ih⟩
  | unary member argument ih =>
    simp only [Expr.parts, List.forall_mem_cons]
    exact ⟨.unary member argument, ih⟩
  | logarithm first second ih ih' =>
    simp only [Expr.parts, List.forall_mem_cons, List.forall_mem_append]
    exact ⟨.logarithm first second, ih, ih'⟩

theorem Expr.Built.leaf {leaf : Value → Prop} (built : Expr.Built leaf tree)
    (member : .value v ∈ tree.parts) : leaf v := by
  cases built.part _ member with
  | value holds => exact holds

/-- A built tree can be written down. -/
theorem Expr.Built.text {leaf : Value → Prop} (built : Expr.Built leaf tree) :
    ∃ text, tree.text = .ok text := by
  induction built with
  | value => exact ⟨_, rfl⟩
  | binary member _ _ left right =>
    obtain ⟨one, left⟩ := left
    obtain ⟨two, right⟩ := right
    simp only [operators, List.mem_cons, Prod.mk.injEq, List.not_mem_nil, or_false] at member
    rcases member with ⟨_, rfl⟩ | ⟨_, rfl⟩ | ⟨_, rfl⟩ | ⟨_, rfl⟩ | ⟨_, rfl⟩ <;>
      simp [Expr.text, left, right, Operator.symbol?]
  | magnitude _ operand =>
    obtain ⟨text, operand⟩ := operand
    simp [Expr.text, operand]
  | constant => exact ⟨_, rfl⟩
  | unary _ _ argument =>
    obtain ⟨text, argument⟩ := argument
    simp [Expr.text, argument]
  | logarithm _ _ first second =>
    obtain ⟨one, first⟩ := first
    obtain ⟨two, second⟩ := second
    simp [Expr.text, first, second]

end Reckon

import Mathlib.Data.Int.ModEq
import Reckon.Proofs.Containment

/-! Sums, differences and products of integers. Wrapping is a homomorphism to the integers modulo
`2 ^ 32`, so a tree that wraps at every node comes to its unbounded total, wrapped once. -/
namespace Reckon

namespace Word

theorem wrap_of_fits (fits : fits n = true) : wrap n = n := by
  obtain ⟨low, high⟩ := fits_iff.1 fits
  have bound : bound = 0x80000000 := rfl
  refine Int.bmod_eq_of_le ?_ ?_ <;> omega

/-- Of the words, only the wrapped number is congruent to the number. -/
theorem wrap_unique (n k : Int) :
    -2 ^ 31 ≤ k ∧ k < 2 ^ 31 ∧ k ≡ n [ZMOD 2 ^ 32] ↔ k = wrap n := by
  have known := Int.bmod_eq_iff (a := n) (b := 0x100000000) (c := k) (by decide)
  rw [Int.modEq_comm, Int.modEq_iff_dvd, eq_comm, wrap, known]
  rfl

end Word

/-- What an operator does with integers, where its result is one again. -/
def Operator.onIntegers? : Operator → Option (Int → Int → Int)
  | .add => some (· + ·)
  | .sub => some (· - ·)
  | .mul => some (· * ·)
  | _ => none

theorem Word.wrap_perform (known : Operator.onIntegers? operator = some perform) (m n : Int) :
    wrap (perform (wrap m) (wrap n)) = wrap (perform m n) := by
  cases operator <;> cases known
  case add => exact (Int.add_bmod m n _).symm
  case sub => exact (Int.sub_bmod m n _).symm
  case mul => exact (Int.mul_bmod m n _).symm

/-- The number that sums, differences and products of integers come to, however large. -/
def Expr.total? : Expr → Option Int
  | .value (.integer n) => some n
  | .binary operator left right => do
    let perform ← operator.onIntegers?
    return perform (← left.total?) (← right.total?)
  | _ => none

theorem Expr.total?_binary : (Expr.binary operator left right).total? = some total ↔
    ∃ perform m n, operator.onIntegers? = some perform ∧ left.total? = some m ∧
      right.total? = some n ∧ perform m n = total := by
  simp only [Expr.total?, bind, Option.bind_eq_some_iff, pure, Option.some.injEq]
  grind

/-- The same sums and products, grouped in another way at any depth. -/
inductive Expr.Regroups : Expr → Expr → Prop where
  | same : Regroups tree tree
  | symm : Regroups tree other → Regroups other tree
  | trans : Regroups tree middle → Regroups middle other → Regroups tree other
  | within : Regroups left left' → Regroups right right' →
      Regroups (.binary operator left right) (.binary operator left' right')
  | sum : Regroups (.binary .add a (.binary .add b c)) (.binary .add (.binary .add a b) c)
  | product : Regroups (.binary .mul a (.binary .mul b c)) (.binary .mul (.binary .mul a b) c)

theorem Expr.Regroups.total (regroups : Regroups tree other) : tree.total? = other.total? := by
  induction regroups with
  | same => rfl
  | symm _ ih => exact ih.symm
  | trans _ _ first second => exact first.trans second
  | within _ _ left right => simp only [Expr.total?, left, right]
  | @sum a b c =>
    simp only [Expr.total?, Operator.onIntegers?]
    cases a.total? <;> cases b.total? <;> cases c.total? <;> simp [Int.add_assoc]
  | @product a b c =>
    simp only [Expr.total?, Operator.onIntegers?]
    cases a.total? <;> cases b.total? <;> cases c.total? <;> simp [Int.mul_assoc]

/-- Only decimal literals depend on the precision, and they are no part of a total. -/
theorem Expr.total?_refit (precision : Precision) (tree : Expr) :
    (tree.refit precision).total? = tree.total? := by
  induction tree with
  | value v =>
    cases v with
    | integer | fixed => rfl
    | float => cases precision <;> rfl
  | binary operator left right first second => simp only [Expr.refit, Expr.total?, first, second]
  | magnitude | constant | unary | function | unparsed => rfl

namespace Evaluation

theorem operate_integers (known : Operator.onIntegers? operator = some perform)
    (precision : Precision) (m n : Int) :
    operate precision (.integer m) (.integer n) operator =
      .ok (.integer (Word.wrap (perform m n))) := by
  cases operator <;> cases known <;> rfl

/-- The tree wraps after every operation, and the total only once. -/
theorem evaluate_total (precision : Precision) (built : tree.Built Value.Sound)
    (total : tree.total? = some n) :
    evaluate precision tree = .ok (.integer (Word.wrap n)) := by
  induction built generalizing n with
  | @value v sound =>
    cases v with
    | integer m =>
      obtain rfl : m = n := by simpa [Expr.total?] using total
      simp [evaluate, Word.wrap_of_fits sound]
    | float | fixed => simp [Expr.total?] at total
  | binary _ _ _ left right =>
    obtain ⟨perform, m, n, known, first, second, rfl⟩ := Expr.total?_binary.1 total
    simp [evaluate, left first, right second, operate_integers known, Word.wrap_perform known]
  | magnitude | constant | unary | logarithm => simp [Expr.total?] at total

end Evaluation

namespace Grammar

/-- The kinds of tokens that sums, differences and products of integers are written with. -/
def integral : List Token.Kind := [.integer, .plus, .minus, .star, .leftParen, .rightParen]

/-- Those and the slash, for all four basic operations. -/
def rational : List Token.Kind := .slash :: integral

theorem onIntegers_of_integral (plain : kind ∈ integral) (member : (kind, operator) ∈ operators) :
    ∃ perform, operator.onIntegers? = some perform := by
  cases kind <;> simp [integral, operators] at plain member <;> subst member <;> exact ⟨_, rfl⟩

theorem constant_not_rational (member : (kind, name) ∈ constants) : kind ∉ rational := by
  cases kind <;> simp [constants, rational, integral] at member ⊢

theorem function_not_rational (member : (kind, name) ∈ functions) : kind ∉ rational := by
  cases kind <;> simp [functions, rational, integral] at member ⊢

theorem rational_not_decimal {tokens : List Token}
    (plain : ∀ token ∈ tokens, token.kind ∈ rational) :
    ∀ token ∈ tokens, token.kind ≠ .decimal := by
  intro token member decimal
  have := plain token member
  simp [decimal, rational, integral] at this

/-- What is written with these tokens alone has a total. -/
theorem Spells.total (spelled : Spells precision form stretch rest tree)
    (plain : ∀ token ∈ stretch, token.kind ∈ integral) : ∃ n, tree.total? = some n := by
  induction spelled with
  | literal denotes =>
    cases denotes with
    | integer => exact ⟨_, rfl⟩
    | float decimal | fixed decimal => simp [decimal, integral] at plain
  | constant member =>
    exact absurd (List.mem_cons_of_mem _ (plain _ (by simp))) (constant_not_rational member)
  | magnitude bar => simp [bar, integral] at plain
  | unary member _ =>
    exact absurd (List.mem_cons_of_mem _ (plain _ (by simp))) (function_not_rational member)
  | logarithm log => simp [log, integral] at plain
  | group _ _ _ ih => exact ih fun token member => plain token (by simp [member])
  | negation _ _ ih =>
    obtain ⟨n, total⟩ := ih fun token member => plain token (by simp [member])
    exact ⟨0 - n, Expr.total?_binary.2 ⟨_, 0, n, rfl, rfl, total, rfl⟩⟩
  | single _ _ ih => exact ih plain
  | binary _ member _ _ left right =>
    obtain ⟨perform, known⟩ := onIntegers_of_integral (plain _ (by simp)) member
    obtain ⟨m, first⟩ := left fun token member => plain token (by simp [member])
    obtain ⟨n, second⟩ := right fun token member => plain token (by simp [member])
    exact ⟨perform m n, Expr.total?_binary.2 ⟨perform, m, n, known, first, second, rfl⟩⟩

theorem Splits.total (split : Splits precision tokens pieces)
    (plain : ∀ token ∈ tokens, token.kind ∈ integral) :
    ∀ piece ∈ pieces, ∃ n, piece.2.total? = some n := by
  induction split with
  | nil => simp
  | cons phrase _ ih =>
    intro piece member
    rcases List.mem_cons.1 member with rfl | later
    · exact phrase.total fun token member => plain token (by simp [member])
    · exact ih (fun token member => plain token (by simp [member])) piece later

end Grammar

namespace Calculation
open Grammar

theorem read_total (scanned : Token.tokenize line code = .ok tokens)
    (plain : ∀ token ∈ tokens, token.kind ∈ integral)
    (read : Reading.read precision tokens = .ok trees) :
    ∀ tree ∈ trees, ∃ n, tree.total? = some n := by
  have settled := Token.tokenize_settled scanned
  have undecimal := rational_not_decimal fun token member => .tail _ (plain token member)
  rw [Reading.read_undecimal precision settled undecimal, map_eq_ok] at read
  obtain ⟨found, read, rfl⟩ := read
  obtain ⟨pieces, split, rfl⟩ := (Reading.read_ok_iff Precision.valid_none settled).1 read
  simp only [List.mem_map, forall_exists_index, and_imp]
  rintro _ _ piece member rfl rfl
  rw [Expr.total?_refit]
  exact split.total plain piece member

theorem calculate_total (scanned : Token.tokenize 1 code = .ok tokens)
    (read : Reading.read precision tokens = .ok [tree]) (total : tree.total? = some n) :
    calculate precision code = .ok (some (.integer (Word.wrap n))) := by
  have built := read_built scanned read tree (by simp)
  simp [calculate, scanned, read, only, Evaluation.evaluate_total precision built total]

/-- A line of integers, sums, differences and products comes to the one word that is congruent to
the unbounded total of its tree, and so does every line with the same sums and products. -/
theorem calculate_congruent (scanned : Token.tokenize 1 code = .ok tokens)
    (plain : ∀ token ∈ tokens, token.kind ∈ integral)
    (read : Reading.read precision tokens = .ok [tree]) :
    ∃ total n, tree.total? = some total ∧
      calculate precision code = .ok (some (.integer n)) ∧
      (∀ k : Int, -2 ^ 31 ≤ k ∧ k < 2 ^ 31 ∧ k ≡ total [ZMOD 2 ^ 32] ↔ k = n) ∧
      ∀ code' tokens' other, Token.tokenize 1 code' = .ok tokens' →
        Reading.read precision tokens' = .ok [other] → tree.Regroups other →
        calculate precision code' = calculate precision code := by
  obtain ⟨total, known⟩ := read_total scanned plain read tree (by simp)
  have here := calculate_total scanned read known
  refine ⟨total, Word.wrap total, known, here, Word.wrap_unique total, ?_⟩
  intro code' tokens' other scanned' read' regroups
  rw [here]
  exact calculate_total scanned' read' (regroups.total ▸ known)

def chained : List Token := [
  ⟨.integer, "3", 1, 0, true⟩, ⟨.star, "*", 1, 1, true⟩, ⟨.integer, "5", 1, 2, true⟩,
  ⟨.star, "*", 1, 3, true⟩, ⟨.minus, "-", 1, 4, true⟩, ⟨.integer, "2147483647", 1, 5, true⟩]

def grouped : List Token := [
  ⟨.leftParen, "(", 1, 0, true⟩, ⟨.integer, "3", 1, 1, true⟩, ⟨.star, "*", 1, 2, true⟩,
  ⟨.integer, "5", 1, 3, true⟩, ⟨.rightParen, ")", 1, 4, true⟩, ⟨.star, "*", 1, 5, true⟩,
  ⟨.minus, "-", 1, 6, true⟩, ⟨.integer, "2147483647", 1, 7, true⟩]

def lowered : Expr := .binary .sub (.value (.integer 0)) (.value (.integer 2147483647))

theorem digit_denotes (place : Nat) (read : Literal.integer lexeme = .ok n) :
    Denotes none ⟨.integer, lexeme, 1, place, true⟩ (.integer n) := .integer rfl read

theorem chained_spelled : Spells none .chain chained []
    (.binary .mul (.value (.integer 3)) (.binary .mul (.value (.integer 5)) lowered)) := by
  have three : Literal.integer "3" = .ok 3 := eq_ok_of_toOption (by decide +kernel)
  have five : Literal.integer "5" = .ok 5 := eq_ok_of_toOption (by decide +kernel)
  have large : Literal.integer "2147483647" = .ok 2147483647 :=
    eq_ok_of_toOption (by decide +kernel)
  have last : Spells none .chain (chained.drop 4) [] lowered :=
    .single (.negation rfl (.literal (digit_denotes 5 large))) ends_nil
  have later : Spells none .chain (chained.drop 2) []
      (.binary .mul (.value (.integer 5)) lowered) :=
    .binary (.literal (digit_denotes 2 five)) (by decide) last ends_nil
  exact .binary (.literal (digit_denotes 0 three)) (by decide) later ends_nil

theorem grouped_spelled : Spells none .chain grouped []
    (.binary .mul (.binary .mul (.value (.integer 3)) (.value (.integer 5))) lowered) := by
  have three : Literal.integer "3" = .ok 3 := eq_ok_of_toOption (by decide +kernel)
  have five : Literal.integer "5" = .ok 5 := eq_ok_of_toOption (by decide +kernel)
  have large : Literal.integer "2147483647" = .ok 2147483647 :=
    eq_ok_of_toOption (by decide +kernel)
  have second : Spells none .chain [grouped[3]] (grouped.drop 4) (.value (.integer 5)) :=
    .single (.literal (digit_denotes 3 five)) (by simp [grouped, operators])
  have inner : Spells none .chain ((grouped.drop 1).take 3) (grouped.drop 4)
      (.binary .mul (.value (.integer 3)) (.value (.integer 5))) :=
    .binary (.literal (digit_denotes 1 three)) (by decide) second (by simp [grouped, operators])
  have group : Spells none .operand (grouped.take 5) (grouped.drop 5)
      (.binary .mul (.value (.integer 3)) (.value (.integer 5))) := .group rfl inner rfl
  have last : Spells none .chain (grouped.drop 6) [] lowered :=
    .single (.negation rfl (.literal (digit_denotes 7 large))) ends_nil
  have product : (Token.Kind.star, Operator.mul) ∈ operators := by decide
  exact .binary group product last ends_nil

/-- Of `-32212254705`, which is no word, the congruent word is left, whichever product is taken
first. -/
theorem calculate_congruent_product :
    Token.tokenize 1 "3*5*-2147483647" = .ok chained ∧
    (∀ token ∈ chained, token.kind ∈ integral) ∧
    Reading.read none chained = .ok [.binary .mul (.value (.integer 3))
      (.binary .mul (.value (.integer 5)) lowered)] ∧
    calculate none "3*5*-2147483647" = .ok (some (.integer (-2147483633))) ∧
    calculate none "(3*5)*-2147483647" = .ok (some (.integer (-2147483633))) := by
  have scanned : Token.tokenize 1 "3*5*-2147483647" = .ok chained :=
    eq_ok_of_toOption (by decide +kernel)
  have scanned' : Token.tokenize 1 "(3*5)*-2147483647" = .ok grouped :=
    eq_ok_of_toOption (by decide +kernel)
  have plain : ∀ token ∈ chained, token.kind ∈ integral := by decide
  have read := (Reading.read_ok_iff Precision.valid_none (Token.tokenize_settled scanned)).2
    ⟨_, .cons chained_spelled .nil, rfl⟩
  have read' := (Reading.read_ok_iff Precision.valid_none (Token.tokenize_settled scanned')).2
    ⟨_, .cons grouped_spelled .nil, rfl⟩
  obtain ⟨total, n, known, result, word, regrouped⟩ := calculate_congruent scanned plain read
  obtain rfl : -32212254705 = total := by
    simpa [Expr.total?, Operator.onIntegers?, lowered] using known
  obtain rfl : -2147483633 = n := (word _).1 (by decide)
  exact ⟨scanned, plain, read, result, (regrouped _ _ _ scanned' read' .product).trans result⟩

end Calculation
end Reckon

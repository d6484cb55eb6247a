import Reckon.Proofs.Lexemes
import Reckon.Proofs.Tree

/-! Trees written down and read again. No parentheses are written, so a tree comes back with every
operator moved to the end of what stands before it, as far as that is open; it comes back unchanged
exactly when nothing open stands to the left of an operator. -/
namespace Reckon

namespace Expr

/-- Nothing that follows becomes a part of the tree. -/
def isClosed : Expr → Bool
  | .binary .. | .unary .. | .function .. => false
  | _ => true

/-- What the tree becomes where an operator and a right operand follow it. -/
def attach : Expr → Operator → Expr → Expr
  | .binary inner left last, operator, right => .binary inner left (last.attach operator right)
  | .unary name argument, operator, right => .unary name (argument.attach operator right)
  | .function name first second, operator, right =>
    .function name first (second.attach operator right)
  | .value v, operator, right => .binary operator (.value v) right
  | .magnitude operand, operator, right => .binary operator (.magnitude operand) right
  | .constant name, operator, right => .binary operator (.constant name) right
  | .unparsed text, operator, right => .binary operator (.unparsed text) right

/-- What the tree comes back as once it is written down. -/
def reread : Expr → Expr
  | .binary operator left right => left.reread.attach operator right.reread
  | .magnitude operand => .magnitude operand.reread
  | .unary name argument => .unary name argument.reread
  | .function name first second => .function name first.reread second.reread
  | .value v => .value v
  | .constant name => .constant name
  | .unparsed text => .unparsed text

/-- Every left operand inside the tree is closed. -/
def Chained (tree : Expr) : Prop :=
  ∀ operator left right, .binary operator left right ∈ tree.parts → left.isClosed = true

theorem attach_closed (closed : isClosed tree = true) (operator : Operator) (right : Expr) :
    tree.attach operator right = .binary operator tree right := by
  cases tree <;> first | rfl | cases closed

theorem attach_attach (tree : Expr) (operator operator' : Operator) (right right' : Expr) :
    (tree.attach operator right).attach operator' right' =
      tree.attach operator (right.attach operator' right') := by
  induction tree with
  | binary inner left last _ ih => simp [attach, ih]
  | unary name argument ih => simp [attach, ih]
  | function name first second _ ih => simp [attach, ih]
  | _ => rfl

theorem length_parts_attach (tree : Expr) (operator : Operator) (right : Expr) :
    (tree.attach operator right).parts.length = tree.parts.length + right.parts.length + 1 := by
  induction tree with
  | binary inner left last _ ih | function name first last _ ih =>
    simp only [attach, parts, List.length_cons, List.length_append, ih]
    omega
  | unary name argument ih =>
    simp only [attach, parts, List.length_cons, ih]
    omega
  | _ =>
    simp only [attach, parts, List.length_cons, List.length_append]
    try omega

theorem length_parts_reread (tree : Expr) : tree.reread.parts.length = tree.parts.length := by
  induction tree with
  | binary operator left right ih ih' =>
    simp [reread, parts, length_parts_attach, ih, ih']
  | magnitude operand ih => simp [reread, parts, ih]
  | unary name argument ih => simp [reread, parts, ih]
  | function name first second ih ih' => simp [reread, parts, ih, ih']
  | _ => rfl

theorem chained_binary : Chained (.binary operator left right) ↔
    left.isClosed = true ∧ left.Chained ∧ right.Chained := by
  simp only [Chained, parts, List.mem_cons, List.mem_append]
  constructor
  · intro chained
    exact ⟨chained operator left right (.inl rfl),
      fun operator' left' right' member => chained operator' left' right' (.inr (.inl member)),
      fun operator' left' right' member => chained operator' left' right' (.inr (.inr member))⟩
  · rintro ⟨closed, one, two⟩ operator' left' right' (same | member | member)
    · cases same
      exact closed
    · exact one _ _ _ member
    · exact two _ _ _ member

/-- Behind an open tree an operator would go inside, and the left operand would be smaller. -/
theorem attach_eq {before : Expr} (size : before.parts.length = left.parts.length)
    (same : before.attach operator right' = .binary operator left right) :
    before.isClosed = true ∧ before = left ∧ right' = right := by
  cases before with
  | binary inner first last =>
    -- The first operand would be the whole left operand, which is as large as what it stands in.
    obtain ⟨_, rfl, _⟩ := Expr.binary.inj same
    simp only [parts, List.length_cons, List.length_append] at size
    omega
  | unary | function => cases same
  | _ =>
    cases same
    exact ⟨rfl, rfl, rfl⟩

theorem reread_eq_iff (tree : Expr) : tree.reread = tree ↔ tree.Chained := by
  induction tree with
  | binary operator left right ih ih' =>
    rw [reread, chained_binary, ← ih, ← ih']
    constructor
    · intro same
      obtain ⟨closed, same, same'⟩ := attach_eq (length_parts_reread left) same
      exact ⟨same ▸ closed, same, same'⟩
    · rintro ⟨closed, same, same'⟩
      rw [same, same', attach_closed closed]
  | magnitude operand ih => simp [reread, Chained, parts, ih]
  | unary name argument ih => simp [reread, Chained, parts, ih]
  | function name first second ih ih' =>
    simp [reread, Chained, parts, ih, ih', or_imp, forall_and]
  | _ => simp [reread, Chained, parts]

end Expr

open Grammar
open Token (Face face readings)

/-- A value that is written as a literal. -/
def Value.Bare : Value → Prop
  | .integer n => 0 ≤ n ∧ n < Word.bound
  | .float x => x.isFinite = true ∧ x.Unsigned ∧ 'e' ∉ x.text.toList
  | .fixed .. => False

/-- Tokens that are read as the tree where nothing comes after them that belongs to it, and as what
the tree becomes where an operator and a chain do. -/
structure Grammar.Phrase (precision : Precision) (tokens : List Token) (tree : Expr) : Prop where
  begins : ∀ rest, Ends (tokens ++ rest)
  whole : ∀ rest, Ends rest → Spells precision .chain tokens rest tree
  extended : ∀ sign operator stretch rest right, (sign.kind, operator) ∈ operators →
    Spells precision .chain stretch rest right →
    Spells precision .chain (tokens ++ sign :: stretch) rest (tree.attach operator right)

namespace Grammar

variable {precision : Precision} {tokens tokens' : List Token} {tree tree' : Expr}

theorem Phrase.operand (closed : tree.isClosed = true) (begins : ∀ rest, Ends (tokens ++ rest))
    (spelled : ∀ rest, Spells precision .operand tokens rest tree) :
    Phrase precision tokens tree where
  begins := begins
  whole rest ends := .single (spelled rest) ends
  extended sign operator stretch rest right member later := by
    rw [Expr.attach_closed closed]
    exact .binary (spelled _) member later later.ends

theorem ends_of_ne (other : ∀ entry ∈ operators, entry.1 ≠ token.kind) (rest : List Token) :
    Ends (token :: rest) :=
  ends_cons_iff.2 fun operator member => other (token.kind, operator) member rfl

theorem Phrase.literal (denotes : Denotes precision token v) :
    Phrase precision [token] (.value v) := by
  refine .operand rfl (ends_of_ne ?_) fun rest => .literal denotes
  cases denotes with
  | integer kind | float kind | fixed kind => rw [kind]; decide

theorem Phrase.constant (member : (token.kind, name) ∈ constants) :
    Phrase precision [token] (.constant name) := by
  have other : ∀ named ∈ constants, ∀ entry ∈ operators, entry.1 ≠ named.1 := by decide
  exact .operand rfl (ends_of_ne (other _ member)) fun rest => .constant member

theorem Phrase.magnitude (opens : opener.kind = .bar) (closes : closer.kind = .bar)
    (inner : Phrase precision tokens tree) :
    Phrase precision (opener :: tokens ++ [closer]) (.magnitude tree) := by
  have bar : ∀ entry ∈ operators, entry.1 ≠ .bar := by decide
  refine .operand rfl (fun rest => ends_of_ne (opens ▸ bar) _) fun rest => ?_
  exact .magnitude opens (inner.whole _ (ends_of_ne (closes ▸ bar) rest)) closes

theorem Phrase.unary (member : (word.kind, name) ∈ functions)
    (argument : Phrase precision tokens tree) :
    Phrase precision (word :: tokens) (.unary name tree) where
  begins rest := by
    have other : ∀ named ∈ functions, ∀ entry ∈ operators, entry.1 ≠ named.1 := by decide
    exact ends_of_ne (other _ member) _
  whole rest ends := .single (.unary member (argument.whole rest ends)) ends
  extended sign operator stretch rest right known later :=
    .single (.unary member (argument.extended _ _ _ _ _ known later)) later.ends

theorem Phrase.logarithm (log : word.kind = .log) (first : Phrase precision tokens tree)
    (second : Phrase precision tokens' tree') :
    Phrase precision (word :: tokens ++ tokens') (.function "log" tree tree') where
  begins rest := by
    have other : ∀ entry ∈ operators, entry.1 ≠ .log := by decide
    exact ends_of_ne (log ▸ other) _
  whole rest ends :=
    .single (.logarithm log (first.whole _ (second.begins rest)) (second.whole rest ends)) ends
  extended sign operator stretch rest right known later := by
    have last := second.extended _ _ _ _ _ known later
    have between := first.whole _ (second.begins (sign :: stretch ++ rest))
    rw [List.append_assoc]
    exact .single (.logarithm log (by simpa using between) last) later.ends

theorem Phrase.binary (member : (sign.kind, operator) ∈ operators)
    (left : Phrase precision tokens tree) (right : Phrase precision tokens' tree') :
    Phrase precision (tokens ++ sign :: tokens') (tree.attach operator tree') where
  begins rest := by simpa using left.begins (sign :: tokens' ++ rest)
  whole rest ends := left.extended _ _ _ _ _ member (right.whole rest ends)
  extended sign' operator' stretch rest other known later := by
    -- The right operand takes what follows, and the left operand takes that as a whole.
    have last := right.extended _ _ _ _ _ known later
    rw [Expr.attach_attach]
    simpa using left.extended _ _ _ _ _ member last

end Grammar

/-- The tree can be written down, and tokens that are in the text are read as it comes back. -/
def Expr.Readable (precision : Precision) (tree : Expr) : Prop :=
  ∃ text found, tree.text = .ok text ∧ readings text.toList = some found ∧
    ∀ tokens, tokens.map face = found → Phrase precision tokens tree.reread

namespace Token

variable {kind : Kind} {name : String} {operator : Operator}

theorem readings_spaced (first : readings before = some found)
    (second : readings after = some found') :
    readings (before ++ ' ' :: after) = some (found ++ found') := by
  have apart : Apart before (' ' :: after) := by
    refine apart_of_head ?_
    rintro _ ⟨⟩
    exact .inr not_accepted_space
  rw [readings_append_iff apart, readings_skipped not_accepted_space]
  exact ⟨_, _, first, second, rfl⟩

theorem readings_bars (inner : readings cs = some found) :
    readings (['|'] ++ (cs ++ ['|'])) = some ([(.bar, "|")] ++ (found ++ [(.bar, "|")])) := by
  have operator : isOperator '|' = true := rfl
  have bar : readings ['|'] = some [(.bar, "|")] := readings_operator rfl
  have apart : Apart cs ['|'] := by
    refine apart_of_head ?_
    rintro _ ⟨⟩
    exact .inl operator
  refine (readings_append_iff (apart_operator operator _)).2 ⟨_, _, bar, ?_, rfl⟩
  exact (readings_append_iff apart).2 ⟨_, _, inner, bar, rfl⟩

theorem readings_name (member : (kind, name) ∈ constants ++ functions ++ [(.log, "log")]) :
    readings name.toList = some [(kind, name)] := by
  have words : ∀ named ∈ constants ++ functions ++ [(Kind.log, "log")],
      named.2 ≠ "" ∧ named.2.toList.all Text.isLetter = true ∧
        keyword? named.2 = some named.1 := by decide +kernel
  obtain ⟨given, letters, known⟩ := words _ member
  exact readings_word given (List.all_eq_true.1 letters) known

theorem readings_symbol (member : (kind, operator) ∈ operators) :
    ∃ symbol, operator.symbol? = some symbol ∧
      readings symbol.toList = some [(kind, symbol)] := by
  simp only [operators, List.mem_cons, Prod.mk.injEq, List.not_mem_nil, or_false] at member
  rcases member with ⟨rfl, rfl⟩ | ⟨rfl, rfl⟩ | ⟨rfl, rfl⟩ | ⟨rfl, rfl⟩ | ⟨rfl, rfl⟩
  all_goals exact ⟨_, rfl, readings_operator rfl⟩

theorem readings_literal {v : Value} (bare : v.Bare) :
    ∃ kind, readings v.text.toList = some [(kind, v.text)] ∧
      ∀ token, face token = (kind, v.text) → Denotes none token v := by
  cases v with
  | integer n =>
    obtain ⟨nonneg, small⟩ := bare
    obtain ⟨n, rfl⟩ := Int.eq_ofNat_of_zero_le nonneg
    refine ⟨.integer, by simpa [Value.text] using readings_integer small, ?_⟩
    intro token same
    obtain ⟨kind, lexeme⟩ := Prod.mk.inj same
    exact .integer kind (lexeme ▸ integer_small small)
  | float x =>
    obtain ⟨finite, unsigned, plain⟩ := bare
    rcases text_cases unsigned with ⟨numeric, point⟩ | ⟨_, _, split, _⟩ | special
    · refine ⟨.decimal, readings_decimal numeric point, ?_⟩
      intro token same
      obtain ⟨kind, lexeme⟩ := Prod.mk.inj same
      refine .float kind ?_
      rw [lexeme]
      exact Literal.real_text _
    · exact absurd (by simp [split]) plain
    · simp [finite] at special
  | fixed => exact bare.elim

end Token

namespace Expr

theorem Built.readable (built : Built Value.Bare tree) : tree.Readable none := by
  induction built with
  | value bare =>
    obtain ⟨kind, reads, denotes⟩ := Token.readings_literal bare
    refine ⟨_, _, rfl, reads, fun tokens same => ?_⟩
    obtain ⟨token, rfl, literal⟩ := List.map_eq_singleton_iff.1 same
    exact .literal (denotes token literal)
  | @binary kind operator left right member _ _ ih ih' =>
    obtain ⟨one, found, text, reads, phrase⟩ := ih
    obtain ⟨two, found', text', reads', phrase'⟩ := ih'
    obtain ⟨symbol, known, sign⟩ := Token.readings_symbol member
    have whole := Token.readings_spaced reads (Token.readings_spaced sign reads')
    refine ⟨one ++ " " ++ symbol ++ " " ++ two, _, by simp [Expr.text, text, text', known],
      by simpa using whole, fun tokens shown => ?_⟩
    obtain ⟨before, _, rfl, same, later⟩ := List.map_eq_append_iff.1 shown
    obtain ⟨token, after, rfl, here, same'⟩ := List.map_eq_cons_iff.1 later
    have kind' : token.kind = kind := congrArg Prod.fst here
    exact .binary (kind' ▸ member) (phrase before same) (phrase' after same')
  | magnitude _ ih =>
    obtain ⟨one, found, text, reads, phrase⟩ := ih
    refine ⟨"|" ++ one ++ "|", _, by simp [Expr.text, text],
      by simpa using Token.readings_bars reads, fun tokens shown => ?_⟩
    obtain ⟨opener, _, rfl, opens, later⟩ := List.map_eq_cons_iff.1 shown
    obtain ⟨inner, _, rfl, same, later⟩ := List.map_eq_append_iff.1 later
    obtain ⟨closer, rfl, closes⟩ := List.map_eq_singleton_iff.1 later
    exact .magnitude (congrArg Prod.fst opens) (congrArg Prod.fst closes) (phrase inner same)
  | @constant kind name member =>
    have known : (kind, name) ∈ constants ++ functions ++ [(.log, "log")] := by simp [member]
    refine ⟨name, _, rfl, Token.readings_name known, fun tokens shown => ?_⟩
    obtain ⟨token, rfl, here⟩ := List.map_eq_singleton_iff.1 shown
    have kind' : token.kind = kind := congrArg Prod.fst here
    exact .constant (kind' ▸ member)
  | @unary kind name argument member _ ih =>
    obtain ⟨one, found, text, reads, phrase⟩ := ih
    have known : (kind, name) ∈ constants ++ functions ++ [(.log, "log")] := by simp [member]
    have word := Token.readings_name known
    refine ⟨name ++ " " ++ one, _, by simp [Expr.text, text],
      by simpa using Token.readings_spaced word reads, fun tokens shown => ?_⟩
    obtain ⟨token, inner, rfl, here, same⟩ := List.map_eq_cons_iff.1 shown
    have kind' : token.kind = kind := congrArg Prod.fst here
    exact .unary (kind' ▸ member) (phrase inner same)
  | logarithm _ _ ih ih' =>
    obtain ⟨one, found, text, reads, phrase⟩ := ih
    obtain ⟨two, found', text', reads', phrase'⟩ := ih'
    have word : readings "log".toList = some [(.log, "log")] := Token.readings_name (by simp)
    have whole := Token.readings_spaced word (Token.readings_spaced reads reads')
    refine ⟨"log" ++ " " ++ one ++ " " ++ two, _, by simp [Expr.text, text, text'],
      by simpa using whole, fun tokens shown => ?_⟩
    obtain ⟨token, _, rfl, here, later⟩ := List.map_eq_cons_iff.1 shown
    obtain ⟨first, second, rfl, same, same'⟩ := List.map_eq_append_iff.1 later
    exact .logarithm (congrArg Prod.fst here) (phrase first same) (phrase' second same')

end Expr

/-- A tree of literals, constants, functions, bars and operators is written as the text of one
tree, which is the same tree exactly when no binary operation in it has a binary operation or a
function for its left operand. -/
theorem Reading.read_text (built : Expr.Built Value.Bare tree) (line : Int) :
    ∃ text tokens again, tree.text = .ok text ∧ Token.tokenize line text = .ok tokens ∧
      Reading.read none tokens = .ok [again] ∧
      (again = tree ↔ ∀ operator left right, .binary operator left right ∈ tree.parts →
        left.isClosed = true) := by
  obtain ⟨text, found, written, reads, phrase⟩ := built.readable
  obtain ⟨tokens, ok, same⟩ := Token.tokenize_of_readings reads line
  have spelled := (phrase tokens same).whole [] ends_nil
  have split : Splits none (tokens ++ []) [(tokens, tree.reread)] := .cons spelled .nil
  have settled := Token.tokenize_settled ok
  refine ⟨text, tokens, tree.reread, written, ok, ?_, tree.reread_eq_iff⟩
  exact (Reading.read_ok_iff Precision.valid_none settled).2 ⟨_, by simpa using split, rfl⟩

/-- The tree of `|pi| ^ 2 - log 1.0 e`. -/
def Reading.chainedTree : Expr :=
  .binary .pow (.magnitude (.constant "pi")) (.binary .sub (.value (.integer 2))
    (.function "log" (.value (.float .one)) (.constant "e")))

theorem Reading.read_text_chained : chainedTree.Built Value.Bare ∧
    ∃ tokens, Token.tokenize 1 "|pi| ^ 2 - log 1.0 e" = .ok tokens ∧
      Reading.read none tokens = .ok [chainedTree] := by
  have pi : (Token.Kind.pi, "pi") ∈ constants := by decide
  have e : (Token.Kind.e, "e") ∈ constants := by decide
  have hat : (Token.Kind.hat, Operator.pow) ∈ operators := by decide
  have minus : (Token.Kind.minus, Operator.sub) ∈ operators := by decide
  have two : Value.Bare (.integer 2) := ⟨by decide, by decide⟩
  have one : Value.Bare (.float .one) := ⟨rfl, rfl, by decide +kernel⟩
  have built : chainedTree.Built Value.Bare :=
    .binary hat (.magnitude (.constant pi)) (.binary minus (.value two)
      (.logarithm (.value one) (.constant e)))
  have written : chainedTree.text = .ok "|pi| ^ 2 - log 1.0 e" :=
    eq_ok_of_toOption (by decide +kernel)
  obtain ⟨text, tokens, again, written', ok, read, same⟩ := read_text built 1
  obtain rfl : "|pi| ^ 2 - log 1.0 e" = text := Except.ok.inj (written.symm.trans written')
  obtain rfl := same.2 ((Expr.reread_eq_iff _).1 rfl)
  exact ⟨built, tokens, ok, read⟩

end Reckon

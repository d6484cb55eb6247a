import Reckon.Expr.Reading
import Reckon.Proofs.Outcome

/-! Reading as equations between plain results. The readers carry a proof that they leave fewer
tokens than they are given; `readChain` and `readOperand` forget it, and each satisfies one
equation that says all it can do. Whatever is proved of reading is proved from these. -/
namespace Reckon.Reading

/-- What was read and what is left. -/
def outcome (result : Except Stop (Head tokens)) : Except Stop (Expr × List Token) :=
  result.map fun head => (head.tree, head.rest)

def readChain (precision : Precision) (tokens : List Token) : Except Stop (Expr × List Token) :=
  outcome (chain precision tokens)

def readOperand (precision : Precision) (tokens : List Token) : Except Stop (Expr × List Token) :=
  outcome (operand precision tokens)

/-- What follows the first operand of a chain. -/
def extend (precision : Precision) (first : Expr) : List Token → Except Stop (Expr × List Token)
  | [] => .ok (first, [])
  | token :: rest =>
    match Operator.ofKind? token.kind with
    | none => .ok (first, token :: rest)
    | some operator => do
      let (second, left) ← readChain precision rest
      return (.binary operator first second, left)

/-- What follows the inner chain of a bracketed operand. -/
def close (kind : Token.Kind) (cause : Cause) (tree : Expr) :
    List Token → Except Stop (Expr × List Token)
  | [] => .error (.refused cause 0)
  | token :: rest =>
    if token.kind = kind then .ok (tree, rest) else .error (.refused cause (rest.length + 1))

def readLiteral (rest : List Token) : Except Fault Value → Except Stop (Expr × List Token)
  | .ok v => .ok (.value v, rest)
  | .error f => .error (.fault f)

/-- An operand by its first token. -/
def readFrom (precision : Precision) (token : Token) (rest : List Token) :
    Except Stop (Expr × List Token) :=
  match opening token.kind with
  | .group => do
    let (inner, left) ← readChain precision rest
    close .rightParen .unclosedParen inner left
  | .negation => do
    let (inner, left) ← readOperand precision rest
    return (.binary .sub (.value (.integer 0)) inner, left)
  | .bars => do
    let (inner, left) ← readChain precision rest
    close .bar .unclosedBar (.magnitude inner) left
  | .integer => readLiteral rest (integerLiteral token.lexeme)
  | .decimal => readLiteral rest (decimalLiteral precision token.lexeme)
  | .constant name => .ok (.constant name, rest)
  | .unary name => do
    let (argument, left) ← readChain precision rest
    return (.unary name argument, left)
  | .function name => do
    let (first, between) ← readChain precision rest
    let (second, left) ← readChain precision between
    return (.function name first second, left)
  | .finish => .error (.refused .unexpectedEnd (rest.length + 1))
  | .stray => .error (.refused (.unexpectedToken token.lexeme) (rest.length + 1))

theorem outcome_close (token : Token) (head : Head tokens) (wrap : Expr → Expr) :
    outcome (head.close token kind cause wrap) = close kind cause (wrap head.tree) head.rest := by
  unfold Head.close outcome close
  split
  · next h => simp [h, Except.map]
  · next h =>
    simp only [h]
    split <;> rfl

theorem readChain_eq (precision : Precision) (tokens : List Token) :
    readChain precision tokens =
      readOperand precision tokens >>= fun found => extend precision found.1 found.2 := by
  simp only [readChain, readOperand]
  rw [chain]
  cases operand precision tokens with
  | error stop => rfl
  | ok first =>
    obtain ⟨tree, rest, shorter⟩ := first
    cases rest with
    | nil => rfl
    | cons token rest =>
      simp only [outcome, Except.map, bind, Except.bind, extend, readChain]
      cases Operator.ofKind? token.kind with
      | none => rfl
      | some operator =>
        simp only
        cases chain precision rest <;> rfl

theorem readOperand_nil (precision : Precision) :
    readOperand precision [] = .error (.refused .unexpectedEnd 0) := by
  simp only [readOperand]
  rw [operand]
  rfl

theorem readOperand_cons (precision : Precision) (token : Token) (rest : List Token) :
    readOperand precision (token :: rest) = readFrom precision token rest := by
  unfold readOperand readFrom
  rw [operand]
  cases opening token.kind with
  | group | bars =>
    simp only [readChain]
    cases chain precision rest with
    | error stop => rfl
    | ok inner => exact outcome_close token inner _
  | negation =>
    simp only [readOperand]
    cases operand precision rest <;> rfl
  | integer =>
    simp only [leaf]
    cases integerLiteral token.lexeme <;> rfl
  | decimal =>
    simp only [leaf]
    cases decimalLiteral precision token.lexeme <;> rfl
  | unary name =>
    simp only [readChain]
    cases chain precision rest <;> rfl
  | function name =>
    simp only [readChain]
    cases chain precision rest with
    | error stop => rfl
    | ok first =>
      simp only [outcome, Except.map, bind, Except.bind]
      cases chain precision first.rest <;> rfl
  | constant name | finish | stray => rfl

theorem readChain_shorter (h : readChain precision tokens = .ok (tree, rest)) :
    rest.length < tokens.length := by
  obtain ⟨head, _, eq⟩ := map_eq_ok.1 h
  cases eq
  exact head.shorter

theorem readOperand_shorter (h : readOperand precision tokens = .ok (tree, rest)) :
    rest.length < tokens.length := by
  obtain ⟨head, _, eq⟩ := map_eq_ok.1 h
  cases eq
  exact head.shorter

/-- The order in which reading looks at tokens: a chain begins with an operand on the same list, and
an operand reads nothing but shorter lists. -/
theorem reading_induction {P Q : List Token → Prop}
    (chain : ∀ tokens, Q tokens →
      (∀ shorter, shorter.length < tokens.length → P shorter) → P tokens)
    (operand : ∀ tokens,
      (∀ shorter, shorter.length < tokens.length → P shorter ∧ Q shorter) → Q tokens) :
    ∀ tokens, P tokens ∧ Q tokens := by
  intro tokens
  induction size : tokens.length using Nat.strongRecOn generalizing tokens with
  | ind n ih =>
    have below : ∀ shorter, shorter.length < tokens.length → P shorter ∧ Q shorter := by
      intro shorter lt
      exact ih _ (size ▸ lt) shorter rfl
    have here := operand tokens below
    exact ⟨chain tokens here fun shorter lt => (below shorter lt).1, here⟩

theorem program_nil (precision : Precision) : program precision [] = .ok [] := by
  rw [program]

theorem program_cons (precision : Precision) (token : Token) (rest : List Token) :
    program precision (token :: rest) =
      readChain precision (token :: rest) >>= fun found =>
        (program precision found.2).map (found.1 :: ·) := by
  rw [program]
  simp only [readChain]
  cases chain precision (token :: rest) with
  | error stop => rfl
  | ok first =>
    simp only [outcome, Except.map, bind, Except.bind]
    cases program precision first.rest <;> rfl

end Reckon.Reading

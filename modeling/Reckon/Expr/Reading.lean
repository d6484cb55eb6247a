import Reckon.Expr.Basic
import Reckon.Token.Resolve

/-! Reading trees off a list of tokens, with one token of lookahead. All operators have one rank
and chain to the right, and the argument of a function is a whole chain. Every step carries the
proof that it leaves fewer tokens than it was given. -/
namespace Reckon.Reading

/-- What a token starts when it stands where an operand is due. -/
inductive Opening where
  | group
  | negation
  | bars
  | integer
  | decimal
  | constant (name : String)
  | unary (name : String)
  | function (name : String)
  | finish
  | stray

def opening : Token.Kind → Opening
  | .leftParen => .group
  | .minus => .negation
  | .bar => .bars
  | .integer => .integer
  | .decimal => .decimal
  | .pi => .constant "pi"
  | .e => .constant "e"
  | .sin => .unary "sin"
  | .cos => .unary "cos"
  | .tg => .unary "tg"
  | .ctg => .unary "ctg"
  | .sqrt => .unary "sqrt"
  | .ln => .unary "ln"
  | .log => .function "log"
  | .finish => .finish
  | _ => .stray

/-- Why no tree could be read: a token out of place, counted from the end of the list, or a
literal without a value. -/
inductive Stop where
  | refused (cause : Cause) (remaining : Nat)
  | fault (fault : Fault)

/-- A tree that the first of `tokens` spell, and the tokens that follow it. -/
structure Head (tokens : List Token) where
  tree : Expr
  rest : List Token
  shorter : rest.length < tokens.length

def Head.after (token : Token) {tokens : List Token} (head : Head tokens)
    (wrap : Expr → Expr) : Head (token :: tokens) :=
  ⟨wrap head.tree, head.rest, Nat.lt_succ_of_lt head.shorter⟩

/-- Takes the closing token that has to follow. -/
def Head.close (token : Token) {tokens : List Token} (head : Head tokens)
    (kind : Token.Kind) (cause : Cause) (wrap : Expr → Expr) :
    Except Stop (Head (token :: tokens)) :=
  match h : head.rest with
  | [] => .error (.refused cause 0)
  | closing :: rest =>
    if closing.kind = kind then
      .ok ⟨wrap head.tree, rest, by
        have := head.shorter
        simp only [h, List.length_cons] at this ⊢
        omega⟩
    else .error (.refused cause (closing :: rest).length)

def leaf (token : Token) (tokens : List Token) (value : Except Fault Value) :
    Except Stop (Head (token :: tokens)) :=
  match value with
  | .ok v => .ok ⟨.value v, tokens, Nat.lt_succ_self _⟩
  | .error f => .error (.fault f)

def integerLiteral (lexeme : String) : Except Fault Value :=
  (Literal.integer lexeme).map .integer

/-- Under a precision a decimal literal is a fixed decimal from the start. -/
def decimalLiteral (precision : Precision) (lexeme : String) : Except Fault Value := do
  let x ← Literal.real lexeme
  match precision with
  | some digits => Value.fixedOf digits x
  | none => .ok (.float x)

mutual

def chain (precision : Precision) (tokens : List Token) : Except Stop (Head tokens) :=
  match operand precision tokens with
  | .error stop => .error stop
  | .ok first =>
    match h : first.rest with
    | [] => .ok first
    | token :: rest =>
      have fewer : rest.length + 1 < tokens.length := by
        have := first.shorter
        rwa [h] at this
      match Operator.ofKind? token.kind with
      | none => .ok first
      | some operator =>
        match chain precision rest with
        | .error stop => .error stop
        | .ok second =>
          .ok ⟨.binary operator first.tree second.tree, second.rest, by
            have := second.shorter
            omega⟩
termination_by (tokens.length, 1)

def operand (precision : Precision) (tokens : List Token) : Except Stop (Head tokens) :=
  match tokens with
  | [] => .error (.refused .unexpectedEnd 0)
  | token :: rest =>
    match opening token.kind with
    | .group =>
      match chain precision rest with
      | .error stop => .error stop
      | .ok inner => inner.close token .rightParen .unclosedParen id
    | .negation =>
      match operand precision rest with
      | .error stop => .error stop
      | .ok inner => .ok (inner.after token (.binary .sub (.value (.integer 0))))
    | .bars =>
      match chain precision rest with
      | .error stop => .error stop
      | .ok inner => inner.close token .bar .unclosedBar .magnitude
    | .integer => leaf token rest (integerLiteral token.lexeme)
    | .decimal => leaf token rest (decimalLiteral precision token.lexeme)
    | .constant name => .ok ⟨.constant name, rest, Nat.lt_succ_self _⟩
    | .unary name =>
      match chain precision rest with
      | .error stop => .error stop
      | .ok argument => .ok (argument.after token (.unary name))
    | .function name =>
      match chain precision rest with
      | .error stop => .error stop
      | .ok first =>
        have := first.shorter
        match chain precision first.rest with
        | .error stop => .error stop
        | .ok second =>
          .ok ⟨.function name first.tree second.tree, second.rest, by
            have := second.shorter
            simp only [List.length_cons]
            omega⟩
    | .finish => .error (.refused .unexpectedEnd (token :: rest).length)
    | .stray => .error (.refused (.unexpectedToken token.lexeme) (token :: rest).length)
termination_by (tokens.length, 0)
decreasing_by all_goals simp_wf; omega

end

/-- All trees one after another, until no token is left. -/
def program (precision : Precision) (tokens : List Token) : Except Stop (List Expr) :=
  match tokens with
  | [] => .ok []
  | token :: rest =>
    match chain precision (token :: rest) with
    | .error stop => .error stop
    | .ok first =>
      match program precision first.rest with
      | .error stop => .error stop
      | .ok trees => .ok (first.tree :: trees)
termination_by tokens.length
decreasing_by exact first.shorter

/-- The line of an error is that of the last token taken. -/
def failure (tokens : List Token) : Stop → Failure
  | .fault f => .fault f
  | .refused cause remaining =>
    let index := tokens.length - remaining
    let last := (tokens.take index).getLast?
    .reading ⟨cause, tokens, index, (last.map Token.line).getD 1⟩

def read (precision : Precision) (tokens : List Token) : Except Failure (List Expr) := do
  let resolved ← tokens.mapM (Token.resolve "")
  (program precision resolved).mapError (failure resolved)

end Reckon.Reading

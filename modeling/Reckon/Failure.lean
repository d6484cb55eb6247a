import Reckon.Fault
import Reckon.Token.Rendering

/-! Everything that ends the processing of a line. Token, reading and evaluation errors are reported
to the user with their message; a bare fault is one that no stage accounts for. -/
namespace Reckon

inductive Token.Error.Cause where
  | malformedNumber (lexeme : String)
  | unknownWord (lexeme : String)
  deriving DecidableEq

/-- A token that has no final kind, with the line it stands in. -/
structure Token.Error where
  cause : Token.Error.Cause
  code : String
  position : Nat
  deriving DecidableEq

inductive Reading.Cause where
  | unclosedParen
  | unclosedBar
  | unexpectedEnd
  | unexpectedToken (lexeme : String)
  deriving DecidableEq

/-- The token at `index` cannot continue the tokens before it. -/
structure Reading.Error where
  cause : Reading.Cause
  tokens : List Token
  index : Nat
  line : Int
  deriving DecidableEq

inductive Evaluation.Error where
  | divisionByZero
  | unknownSymbol (name : String)
  | wrongArity (name : String) (arity given : Nat)
  | unexpectedOperator (text : String)
  | notReduced (text : String)
  | undefined (operation left right : String)
  | operationFailed (operation : String) (fault : Fault)
  | functionFailed (name : String) (fault : Fault)
  | severalExpressions
  deriving DecidableEq

inductive Failure where
  | token (error : Token.Error)
  | reading (error : Reading.Error)
  | evaluation (error : Evaluation.Error)
  | fault (fault : Fault)
  deriving DecidableEq

def blanks (n : Nat) : String := String.ofList (List.replicate n ' ')

namespace Token.Error

def reason (error : Error) : String :=
  match error.cause with
  | .malformedNumber lexeme => "Malformed numeric literal: " ++ Text.quoted lexeme
  | .unknownWord lexeme => "Unrecognized identifier: " ++ Text.quoted lexeme

/-- How many characters an excerpt shows on either side of an error. -/
def reach : Nat := 10

/-- The part of the line around the error and, under it, a caret. -/
def excerpt (code : List Char) (position : Nat) : List String :=
  let first := position - reach
  let last := min code.length (position + reach)
  let cutBefore := if 0 < first then "..." else ""
  let cutAfter := if last < code.length then "..." else ""
  [cutBefore ++ String.ofList ((code.take last).drop first) ++ cutAfter,
    blanks (position - first + cutBefore.length) ++ "^"]

def message (error : Error) : String :=
  "\n".intercalate
    (("[Tokenizer error] " ++ error.reason) :: excerpt error.code.toList error.position)

end Token.Error

namespace Reading.Error

def reason (error : Error) : String :=
  match error.cause with
  | .unclosedParen => "Expect ')' after expression."
  | .unclosedBar => "Expected '|' after expression"
  | .unexpectedEnd => "Unexpected end of expression"
  | .unexpectedToken lexeme => "Unexpected token " ++ Text.quoted lexeme

def message (error : Error) : String :=
  let before := Token.render (error.tokens.take error.index)
  "\n".intercalate [
    s!"Parser error: [{error.line} line] " ++ error.reason,
    Token.render error.tokens,
    blanks (before.length + 1) ++ "^"]

end Reading.Error

namespace Evaluation.Error

def reason : Error → String
  | .divisionByZero => "Cannot divide by 0 (zero)"
  | .unknownSymbol name => "Unknown symbol: " ++ Text.quoted name
  | .wrongArity name arity given =>
    Text.quoted name ++ s!" takes {arity} argument(s), got {given}"
  | .unexpectedOperator text => "Unexpected binary operator: " ++ text
  | .notReduced text => "Not calculated expression can't be used: " ++ Text.quoted text
  | .undefined operation left right => s!"{operation} is not defined for {left} and {right}"
  | .operationFailed operation fault => s!"{operation} failed: {fault.message}"
  | .functionFailed name fault => Text.quoted name ++ s!" failed: {fault.message}"
  | .severalExpressions => "ERROR: More than one expression?"

end Evaluation.Error

namespace Failure

/-- The bare message, without the place of the error. -/
def reason : Failure → String
  | .token error => error.reason
  | .reading error => error.reason
  | .evaluation error => error.reason
  | .fault f => f.message

def message : Failure → String
  | .token error => error.message
  | .reading error => error.message
  | .evaluation error => error.reason
  | .fault f => f.message

end Failure
end Reckon

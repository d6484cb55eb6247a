import Reckon.Binary64.Text
import Reckon.Failure
import Reckon.Literal
import Reckon.Token.Scan
import Reckon.Word

/-! Giving scanned tokens their final kinds. Number lexemes become canonical on the way; a token
that is already resolved stays as it is. -/
namespace Reckon.Token

/-- With a point, a floating-point number in its written form; else an integer of one word. -/
def resolveNumber? (lexeme : String) : Option (Kind × String) :=
  if lexeme.toList.contains '.' then
    (Literal.real? lexeme).map fun x => (.decimal, x.text)
  else
    match Literal.integer lexeme with
    | .ok n => if Word.fits n then some (.integer, String.ofList (Digits.ofInt n)) else none
    | .error _ => none

def lexemeOperator? (lexeme : String) : Option Kind :=
  match lexeme.toList with
  | [c] => operator? c
  | _ => none

/-- `code` is the line that an error quotes. -/
def resolve (code : String) (token : Token) : Except Failure Token :=
  if token.resolved then .ok token
  else match token.kind with
    | .number =>
      match resolveNumber? token.lexeme with
      | some (kind, lexeme) =>
        .ok { token with kind := kind, lexeme := lexeme, resolved := true }
      | none => .error (.token ⟨.malformedNumber token.lexeme, code, token.position⟩)
    | .word =>
      match keyword? token.lexeme with
      | some kind => .ok { token with kind := kind, resolved := true }
      | none => .error (.token ⟨.unknownWord token.lexeme, code, token.position⟩)
    | .operator =>
      match lexemeOperator? token.lexeme with
      | some kind => .ok { token with kind := kind, resolved := true }
      | none => .error (.fault (.unknownOperator token.lexeme))
    | _ => .ok { token with resolved := true }

/-- The tokens of a line, or the first one that cannot be resolved. -/
def tokenize (line : Int) (code : String) : Except Failure (List Token) :=
  (scan line code).mapM (resolve code)

end Reckon.Token

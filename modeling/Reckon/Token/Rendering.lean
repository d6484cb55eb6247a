import Reckon.Text.Blank
import Reckon.Token.Basic

/-! Tokens written back as one line: the lexemes with a blank between them, then no blanks inside
parentheses and none around a hat. The three passes see the whole text, lexemes included. -/
namespace Reckon.Token
open Text (isBlank)

def joined : List Token → List Char
  | [] => []
  | [token] => token.lexeme.toList
  | token :: tokens => token.lexeme.toList ++ ' ' :: joined tokens

def afterOpening (cs : List Char) : List Char :=
  cs.foldr (fun c rest => if c = '(' then c :: rest.dropWhile isBlank else c :: rest) []

def beforeClosing (cs : List Char) : List Char :=
  cs.foldr (fun c rest => if isBlank c && rest.head? = some ')' then rest else c :: rest) []

def aroundHat (cs : List Char) : List Char :=
  cs.foldr (fun c rest =>
    if c = '^' then c :: rest.dropWhile isBlank
    else if isBlank c && rest.head? = some '^' then rest
    else c :: rest) []

def render (tokens : List Token) : String :=
  String.ofList (aroundHat (beforeClosing (afterOpening (joined tokens))))

end Reckon.Token

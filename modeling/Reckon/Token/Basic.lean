import Reckon.Text.Digit
import Reckon.Text.Letter

/-! Tokens: stretches of a line with a kind, a place and a mark that tells whether the kind is
final. The kinds `operator`, `number` and `word` are what scanning gives. -/
namespace Reckon

inductive Token.Kind where
  | operator | number | word
  | plus | minus | star | slash | hat | bar | leftParen | rightParen
  | integer | decimal
  | sin | cos | tg | ctg | sqrt | ln | log | pi | e
  | finish
  deriving DecidableEq, Inhabited

structure Token where
  kind : Token.Kind
  lexeme : String
  line : Int := 1
  position : Nat := 0
  resolved : Bool := false
  deriving DecidableEq, Inhabited

namespace Token

def Kind.all : List Kind := [
  .operator, .number, .word, .plus, .minus, .star, .slash, .hat, .bar, .leftParen, .rightParen,
  .integer, .decimal, .sin, .cos, .tg, .ctg, .sqrt, .ln, .log, .pi, .e, .finish]

def Kind.name : Kind → String
  | .operator => "OPERATOR"
  | .number => "NUMBER"
  | .word => "ORDER"
  | .plus => "PLUS"
  | .minus => "MINUS"
  | .star => "STAR"
  | .slash => "SLASH"
  | .hat => "HAT"
  | .bar => "MOD"
  | .leftParen => "LEFT_PAREN"
  | .rightParen => "RIGHT_PAREN"
  | .integer => "INT"
  | .decimal => "DEC"
  | .sin => "SIN"
  | .cos => "COS"
  | .tg => "TG"
  | .ctg => "CTG"
  | .sqrt => "SQRT"
  | .ln => "LN"
  | .log => "LOG"
  | .pi => "PI"
  | .e => "E"
  | .finish => "EOT"

def Kind.named? (name : String) : Option Kind := Kind.all.find? (·.name = name)

def operator? : Char → Option Kind
  | '+' => some .plus
  | '-' => some .minus
  | '/' => some .slash
  | '*' => some .star
  | '^' => some .hat
  | '|' => some .bar
  | '(' => some .leftParen
  | ')' => some .rightParen
  | _ => none

/-- The named symbols, in any mixture of cases. Only ASCII letters have a keyword letter as
their lower case. -/
def keyword? (lexeme : String) : Option Kind :=
  match String.ofList (lexeme.toList.map Char.toLower) with
  | "sin" => some .sin
  | "cos" => some .cos
  | "tg" => some .tg
  | "ctg" => some .ctg
  | "sqrt" => some .sqrt
  | "log" => some .log
  | "ln" => some .ln
  | "pi" => some .pi
  | "e" => some .e
  | _ => none

def text (token : Token) : String := s!"<{token.kind.name}>{token.lexeme}"

end Token
end Reckon

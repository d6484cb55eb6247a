import Reckon.Session

/-! The debugging records of a session: the tokens, trees and values of each line, each change of
the precision and each reported error, in the order in which they arise. -/
namespace Reckon.Trace

structure Record where
  logger : String
  message : String
  deriving DecidableEq

def Record.level : String := "DEBUG"

def shown (tree : Expr) : String :=
  match tree.text with
  | .ok text => text
  | .error f => f.message

def tokens (all : List Token) : Record where
  logger := "calculator.tokenizer"
  message := "Tokens: " ++ " ".intercalate (all.map Token.text)

def trees (all : List Expr) : Record where
  logger := "calculator.parser"
  message := s!"Parsed {all.length} expression(s): " ++ "; ".intercalate (all.map shown)

def value (tree : Expr) (v : Value) : Record where
  logger := "calculator.runtime"
  message := shown tree ++ " => " ++ v.text

def failed (code : String) : Failure → List Record
  | .fault _ => []
  | failure => [⟨"calculator.session",
      "Failed to process " ++ Text.quoted code ++ ": " ++ failure.reason⟩]

def precisionSet (digits : Int) : Record where
  logger := "calculator.settings"
  message := "Precision set to " ++ String.ofList (Digits.ofInt digits)

def precisionReset : Record := ⟨"calculator.settings", "Precision reset"⟩

def ofCode (precision : Precision) (code : String) : List Record :=
  match Token.tokenize 1 code with
  | .error failure => failed code failure
  | .ok all =>
    tokens all :: match Reading.read precision all with
      | .error failure => failed code failure
      | .ok found =>
        trees found :: match found with
          | [] => []
          | [tree] =>
            match Evaluation.evaluate precision tree with
            | .ok v => [value tree v]
            | .error failure => failed code failure
          | _ => failed code (.evaluation .severalExpressions)

def ofCommand (current : Precision) (command : Command) : List Record :=
  match command.precision with
  | some digits => [precisionSet digits]
  | none => if current.isSome then [precisionReset] else []

def ofLine (precision : Precision) (line : String) : List Record :=
  match Command.read? precision line with
  | none => ofCode precision line
  | some command =>
    ofCommand precision command ++ match command.rest with
      | none => []
      | some code => ofCode command.precision code

def ofLines (precision : Precision) : List String → List Record
  | [] => []
  | line :: lines =>
    ofLine precision line ++ ofLines (Session.handle precision line).precision lines

end Reckon.Trace

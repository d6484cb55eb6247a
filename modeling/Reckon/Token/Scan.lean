import Reckon.Token.Basic

/-! Splitting a line into unresolved tokens: single operators, longest runs of digits and points,
longest runs of letters. Every other character separates and is left out. -/
namespace Reckon.Token

def isOperator (c : Char) : Bool := (operator? c).isSome

def isNumeric (c : Char) : Bool := Text.isDecimal c || c = '.'

theorem length_dropWhile_lt (accepts : Char → Bool) (c : Char) (cs : List Char) :
    (cs.dropWhile accepts).length < (c :: cs).length :=
  Nat.lt_succ_of_le (List.dropWhile_sublist accepts).length_le

def scanFrom (line : Int) (position : Nat) : List Char → List Token
  | [] => []
  | c :: cs =>
    if isOperator c then
      ⟨.operator, String.ofList [c], line, position, false⟩ :: scanFrom line (position + 1) cs
    else if isNumeric c then
      let run := c :: cs.takeWhile isNumeric
      ⟨.number, String.ofList run, line, position, false⟩ ::
        scanFrom line (position + run.length) (cs.dropWhile isNumeric)
    else if Text.isLetter c then
      let run := c :: cs.takeWhile Text.isLetter
      ⟨.word, String.ofList run, line, position, false⟩ ::
        scanFrom line (position + run.length) (cs.dropWhile Text.isLetter)
    else scanFrom line (position + 1) cs
termination_by cs => cs.length
decreasing_by all_goals first | exact length_dropWhile_lt _ _ _ | simp

def scan (line : Int) (code : String) : List Token := scanFrom line 0 code.toList

end Reckon.Token

import Mathlib.Control.Monad.Basic
import Reckon.Proofs.Refit

/-! Tokens that are left to reading to resolve. The line that a token is from decides nothing but
what an error quotes, and a resolved token stays as it is. So the scanned tokens of a line are read
as its resolved ones are, with the same error if there is one, but for the text that it quotes. -/
namespace Reckon

/-- The failure as it is if tokens are resolved for another line. -/
def Failure.requote (code : String) : Failure → Failure
  | .token e => .token { e with code := code }
  | failure => failure

namespace Token

variable {token settled : Token} {tokens resolved : List Token} {code : String}

theorem resolve_requote (code code' : String) (token : Token) :
    token.resolve code' = (token.resolve code).mapError (.requote code') := by
  simp only [resolve]
  cases token.resolved with
  | true => rfl
  | false =>
    cases token.kind with
    | number => cases resolveNumber? token.lexeme <;> rfl
    | word => cases keyword? token.lexeme <;> rfl
    | operator => cases lexemeOperator? token.lexeme <;> rfl
    | _ => rfl

theorem resolve_resolved (made : token.resolve code = .ok settled) : settled.resolved = true := by
  simp only [resolve] at made
  split at made
  case isTrue resolved =>
    cases made
    exact resolved
  case isFalse =>
    split at made
    -- A kind that is final already stays, so only the other three can fail.
    case h_4 =>
      cases made
      rfl
    all_goals
      split at made <;> cases made
      rfl

/-- Resolving again changes nothing, whatever line is given. -/
theorem resolve_again (code code' : String) (token : Token) :
    token.resolve code >>= resolve code' = token.resolve code := by
  cases made : token.resolve code with
  | error failure => rfl
  | ok settled => exact resolve_of_resolved (resolve_resolved made) code'

theorem mapM_resolve_requote (code code' : String) (tokens : List Token) :
    tokens.mapM (resolve code') = (tokens.mapM (resolve code)).mapError (.requote code') := by
  rw [← mapM_mapError]
  congr
  funext token
  exact resolve_requote code code' token

theorem mapM_resolve_resolved (made : tokens.mapM (resolve code) = .ok resolved) :
    ∀ token ∈ resolved, token.resolved = true := by
  intro token member
  obtain ⟨raw, _, made⟩ := mapM_ok_mem made member
  exact resolve_resolved made

/-- The error of a line quotes the line. -/
theorem tokenize_quotes {line : Int} (refused : tokenize line code = .error (.token e)) :
    e.code = code := by
  have same := mapM_resolve_requote code code (scan line code)
  rw [← tokenize, refused] at same
  have whole : e = { e with code := code } := Failure.token.inj (Except.error.inj same)
  exact congrArg Error.code whole

end Token

namespace Reading

/-- Tokens are read as if they had been resolved before, for any line. -/
theorem read_deferred (precision : Precision) (code : String) (tokens : List Token) :
    Reading.read precision tokens =
      (tokens.mapM (Token.resolve code) >>= Reading.read precision).mapError (.requote "") := by
  have deferred := Token.mapM_resolve_requote code "" tokens
  cases made : tokens.mapM (Token.resolve code) with
  | error failure =>
    rw [Reading.read, deferred, made]
    rfl
  | ok resolved =>
    have settled := Token.mapM_resolve_resolved made
    rw [ok_bind, read_resolved precision settled, Reading.read, deferred, made, mapError_ok, ok_bind]
    cases program precision resolved with
    | ok trees => rfl
    | error stop => cases stop <;> rfl

/-- How the scanned tokens of a line and its resolved ones are read: as the same trees, with the
same reading error, or not at all, with one token error that quotes nothing and one that quotes the
line. -/
inductive Agree (code : String) :
    Except Failure (List Expr) → Except Failure (List Expr) → Prop where
  | trees : Agree code (.ok trees) (.ok trees)
  | refused : Agree code (.error (.reading e)) (.error (.reading e))
  | unresolved : Agree code (.error (.token ⟨cause, "", position⟩))
      (.error (.token ⟨cause, code, position⟩))

/-- Under a valid precision the scanned tokens of a line are read as its resolved ones are. A token
is resolved to the same token for every line, with the same error but for what it quotes, and a
second time to itself. -/
theorem read_scan {precision : Precision} (valid : precision.Valid) (line : Int) (code : String) :
    Agree code (Reading.read precision (Token.scan line code))
      (Token.tokenize line code >>= Reading.read precision) ∧
    ∀ (token : Token) (source source' : String),
      token.resolve source' = (token.resolve source).mapError (.requote source') ∧
      token.resolve source >>= Token.resolve source' = token.resolve source := by
  constructor
  · rw [read_deferred precision code, ← Token.tokenize]
    cases scanned : Token.tokenize line code with
    | error failure =>
      obtain ⟨e, rfl⟩ := Token.tokenize_error scanned
      obtain rfl := Token.tokenize_quotes scanned
      exact .unresolved
    | ok tokens =>
      rw [ok_bind]
      cases read : Reading.read precision tokens with
      | ok trees => exact .trees
      | error failure =>
        obtain ⟨e, rfl⟩ := read_error valid (Token.tokenize_settled scanned) read
        exact .refused
  · intro token source source'
    exact ⟨Token.resolve_requote source source' token, Token.resolve_again source source' token⟩

/-- The same word is refused in both ways, with the line to quote and without. -/
theorem read_scan_unknown : Precision.Valid (some 3) ∧
    Token.tokenize 1 "1.50 + foo" = .error (.token ⟨.unknownWord "foo", "1.50 + foo", 7⟩) ∧
    Reading.read (some 3) (Token.scan 1 "1.50 + foo") =
      .error (.token ⟨.unknownWord "foo", "", 7⟩) ∧
    Token.resolve "1.50 + foo" ⟨.number, "1.50", 1, 0, false⟩ =
      .ok ⟨.decimal, "1.5", 1, 0, true⟩ ∧
    Token.resolve "" ⟨.number, "1.50", 1, 0, false⟩ = .ok ⟨.decimal, "1.5", 1, 0, true⟩ ∧
    Token.resolve "" ⟨.decimal, "1.5", 1, 0, true⟩ = .ok ⟨.decimal, "1.5", 1, 0, true⟩ := by
  have valid : Precision.Valid (some 3) := Precision.valid_some_iff.2 (by decide)
  have refused : Token.tokenize 1 "1.50 + foo" =
      .error (.token ⟨.unknownWord "foo", "1.50 + foo", 7⟩) := by decide +kernel
  have made : Token.resolve "1.50 + foo" ⟨.number, "1.50", 1, 0, false⟩ =
      .ok ⟨.decimal, "1.5", 1, 0, true⟩ := by decide +kernel
  obtain ⟨agree, alike⟩ := read_scan valid 1 "1.50 + foo"
  obtain ⟨elsewhere, again⟩ := alike ⟨.number, "1.50", 1, 0, false⟩ "1.50 + foo" ""
  rw [made] at elsewhere again
  refine ⟨valid, refused, ?_, made, elsewhere, again⟩
  rw [refused, error_bind] at agree
  generalize Reading.read (some 3) (Token.scan 1 "1.50 + foo") = result at agree ⊢
  cases agree
  rfl

end Reading
end Reckon

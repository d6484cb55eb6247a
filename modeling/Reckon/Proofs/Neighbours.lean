import Reckon.Proofs.Report

/-! Rendering as a rule for neighbours. The passes see one text, and what one of them drops may
stand beside what another looks for; but the lexemes of scanned tokens, like those of resolved ones,
have nothing in them that a pass takes for a gap. So each gap is what its two neighbours make it,
and tokens that are added behind change nothing of what is in front. -/
namespace Reckon.Token

/-- The tokens of a line, either as they are scanned or as they are resolved. -/
inductive Tokenized (line : Int) (code : String) : List Token → Prop where
  | scanned : Tokenized line code (scan line code)
  | resolved : tokenize line code = .ok tokens → Tokenized line code tokens

variable {line : Int} {code : String} {tokens : List Token}
  {glued : List Char → List Char → Bool} {front lexemes : List (List Char)}

theorem isOperator_of_isTight (tight : isTight c = true) : isOperator c = true := by
  simp only [isTight, Bool.or_eq_true, decide_eq_true_eq] at tight
  rcases tight with (rfl | rfl) | rfl <;> rfl

/-- No run of numbers or letters has a character in it that a pass looks for. -/
theorem Scanned.solid (scanned : Scanned line token) (given : token.lexeme ≠ "") :
    Solid token.lexeme.toList where
  given := by simpa using given
  compact c member :=
    isBlank_of_isAccepted (isAccepted_iff.2 ⟨token.kind, scanned.accepts c member⟩)
  alone c member tight := by
    have operator : Kind.operator.accepts c = true := isOperator_of_isTight tight
    have kind := accepts_unique (scanned.accepts c member) operator
    obtain ⟨d, single⟩ := List.length_eq_one_iff.1 (scanned.length_operator kind)
    have single : token.lexeme.toList = [d] := single
    rw [single, List.mem_singleton] at member
    rw [single, member]

theorem scan_solid (line : Int) (code : String) :
    ∀ token ∈ scan line code, Solid token.lexeme.toList := by
  intro token member
  have stands := (scanFrom_exhausts line code.toList).stands token member
  exact stands.scanned.solid stands.nonempty

theorem Tokenized.solid (tokenized : Tokenized line code tokens) :
    ∀ token ∈ tokens, Solid token.lexeme.toList := by
  cases tokenized with
  | scanned => exact scan_solid line code
  | resolved ok => exact tokenize_solid ok

/-- A gap depends on no lexeme behind its neighbours. -/
theorem weave_prefix (begins : front <+: lexemes) : weave glued front <+: weave glued lexemes := by
  obtain ⟨back, rfl⟩ := begins
  by_cases given : front = []
  · subst given
    exact List.nil_prefix
  · cases back with
    | nil => rw [List.append_nil]
    | cons next rest =>
      rw [weave_append given]
      exact List.prefix_append _ _

/-- Between two neighbours of a rendered line there is nothing or a blank, by the rule for these two
lexemes, so a line that is cut short is rendered as the beginning of the whole. -/
theorem render_neighbours (tokenized : Tokenized line code tokens) :
    (render tokens).toList = weave attached (tokens.map (·.lexeme.toList)) ∧
    ∀ front, front <+: tokens → (render front).toList <+: (render tokens).toList := by
  have solid := tokenized.solid
  constructor
  · exact render_weave solid
  · intro front begins
    have solid' : ∀ token ∈ front, Solid token.lexeme.toList := by
      intro token member
      exact solid token (begins.subset member)
    rw [render_weave solid, render_weave solid']
    apply weave_prefix
    exact begins.map _

/-- Parentheses and hats in a row lose the blanks between them, and parentheses back to back keep
theirs. -/
theorem render_neighbours_row :
    Tokenized 1 "( ( 1.50 ) ^ ^ pi ) ( )" (scan 1 "( ( 1.50 ) ^ ^ pi ) ( )") ∧
    (scan 1 "( ( 1.50 ) ^ ^ pi ) ( )").take 5 <+: scan 1 "( ( 1.50 ) ^ ^ pi ) ( )" ∧
    (render (scan 1 "( ( 1.50 ) ^ ^ pi ) ( )")).toList = "((1.50)^^pi) ()".toList ∧
    (render ((scan 1 "( ( 1.50 ) ^ ^ pi ) ( )").take 5)).toList <+: "((1.50)^^pi) ()".toList := by
  have tokenized : Tokenized 1 "( ( 1.50 ) ^ ^ pi ) ( )" (scan 1 "( ( 1.50 ) ^ ^ pi ) ( )") :=
    .scanned
  have begins := List.take_prefix 5 (scan 1 "( ( 1.50 ) ^ ^ pi ) ( )")
  have lexemes : (scan 1 "( ( 1.50 ) ^ ^ pi ) ( )").map (·.lexeme.toList) =
      ["(", "(", "1.50", ")", "^", "^", "pi", ")", "(", ")"].map String.toList := by
    decide +kernel
  obtain ⟨shown, cut⟩ := render_neighbours tokenized
  have whole : (render (scan 1 "( ( 1.50 ) ^ ^ pi ) ( )")).toList = "((1.50)^^pi) ()".toList := by
    rw [shown, lexemes]
    decide
  refine ⟨tokenized, begins, whole, ?_⟩
  rw [← whole]
  exact cut _ begins

end Reckon.Token

import Reckon.Proofs.Viability

/-! The grammar as it is written down, where a derivation says nothing of the tokens that follow
its own. It derives some lists in several ways, for a sign both negates an operand and goes on with
a chain; reading always takes it for the second. One place cannot do without the first: the second
argument of a logarithm that begins with a sign is lost to the first argument. Lists that have a
derivation without such an argument are read, and no others. -/
namespace Reckon.Grammar
open Reading
open Token (Settled)

/-- `Derives admits form stretch`: the stretch is a phrase of the form, and `admits` holds of the
second arguments of its logarithms. -/
inductive Derives (admits : List Token → Prop) : Form → List Token → Prop where
  | literal : token.kind = .integer ∨ token.kind = .decimal → Derives admits .operand [token]
  | constant : (token.kind, name) ∈ constants → Derives admits .operand [token]
  | group : opener.kind = .leftParen → Derives admits .chain body → closer.kind = .rightParen →
      Derives admits .operand (opener :: body ++ [closer])
  | negation : minus.kind = .minus → Derives admits .operand body →
      Derives admits .operand (minus :: body)
  | magnitude : opener.kind = .bar → Derives admits .chain body → closer.kind = .bar →
      Derives admits .operand (opener :: body ++ [closer])
  | unary : (word.kind, name) ∈ functions → Derives admits .chain argument →
      Derives admits .operand (word :: argument)
  | logarithm : word.kind = .log → Derives admits .chain first → Derives admits .chain second →
      admits second → Derives admits .operand (word :: first ++ second)
  | single : Derives admits .operand stretch → Derives admits .chain stretch
  | binary : Derives admits .operand left → (sign.kind, operator) ∈ operators →
      Derives admits .chain right → Derives admits .chain (left ++ sign :: right)

/-- A row of chains. -/
inductive Program (admits : List Token → Prop) : List Token → Prop where
  | nil : Program admits []
  | cons : Derives admits .chain stretch → Program admits rest → Program admits (stretch ++ rest)

/-- The stretch does not begin with a minus sign. -/
def Unsigned (stretch : List Token) : Prop :=
  ∀ token, stretch.head? = some token → token.kind ≠ .minus

/-- If the token is a literal, its lexeme is a number. -/
structure Literate (token : Token) : Prop where
  integer : token.kind = .integer → ∃ n, Literal.integer token.lexeme = .ok n
  decimal : token.kind = .decimal → ∃ x, Literal.real token.lexeme = .ok x

variable {precision : Precision} {admits : List Token → Prop} {token minus sign : Token}
  {form : Form} {stretch body left right tokens : List Token}

theorem literate_of_settled (settled : Settled token) : Literate token where
  integer kind := by
    obtain ⟨n, small, lexeme⟩ := settled.integer kind
    exact ⟨n, lexeme ▸ Token.integer_small small⟩
  decimal kind := by
    obtain ⟨x, lexeme⟩ := settled.decimal kind
    exact lexeme ▸ Numeral.real_text x

theorem Literate.denotes (literate : Literate token)
    (literal : token.kind = .integer ∨ token.kind = .decimal) (precision : Precision) :
    ∃ v, Denotes precision token v := by
  rcases literal with kind | kind
  · obtain ⟨n, read⟩ := literate.integer kind
    exact ⟨.integer n, .integer kind read⟩
  · obtain ⟨x, read⟩ := literate.decimal kind
    cases precision with
    | none => exact ⟨_, .float kind read⟩
    | some digits => exact ⟨_, .fixed kind read⟩

theorem Denotes.literal (denotes : Denotes precision token v) :
    token.kind = .integer ∨ token.kind = .decimal := by
  cases denotes with
  | integer kind => exact .inl kind
  | float kind | fixed kind => exact .inr kind

/-- The one operator that a phrase can begin with. -/
theorem minus_of_operator (begins : opening kind ≠ .stray)
    (member : (kind, operator) ∈ operators) : kind = .minus := by
  cases kind <;> simp_all [operators, opening]

theorem Derives.begins (derived : Derives admits form stretch) :
    ∃ token later, stretch = token :: later ∧ opening token.kind ≠ .stray := by
  induction derived with
  | literal kind => exact ⟨_, _, rfl, by rcases kind with kind | kind <;> simp [kind, opening]⟩
  | constant member => exact ⟨_, _, rfl, by simp [opening_constant_iff.2 member]⟩
  | group opens | magnitude opens => exact ⟨_, _, rfl, by simp [opens, opening]⟩
  | negation minus => exact ⟨_, _, rfl, by simp [minus, opening]⟩
  | unary member => exact ⟨_, _, rfl, by simp [opening_unary_iff.2 member]⟩
  | logarithm log => exact ⟨_, _, rfl, by simp [log, opening]⟩
  | single _ ih => exact ih
  | binary _ _ _ ih =>
    obtain ⟨token, later, rfl, begins⟩ := ih
    exact ⟨token, _, rfl, begins⟩

/-- A chain ends where a phrase without a sign begins. -/
theorem Derives.ends (derived : Derives admits form stretch) (unsigned : Unsigned stretch)
    (rest : List Token) : Ends (stretch ++ rest) := by
  obtain ⟨token, later, rfl, begins⟩ := derived.begins
  exact ends_cons_iff.2 fun operator member =>
    unsigned token rfl (minus_of_operator begins member)

theorem Spells.derives (spelled : Spells precision form stretch rest tree) :
    Derives Unsigned form stretch := by
  induction spelled with
  | literal denotes => exact .literal denotes.literal
  | constant member => exact .constant member
  | group opens _ closes ih => exact .group opens ih closes
  | negation minus _ ih => exact .negation minus ih
  | magnitude opens _ closes ih => exact .magnitude opens ih closes
  | unary member _ ih => exact .unary member ih
  | logarithm log first second ih ih' =>
    refine .logarithm log ih ih' ?_
    -- The first argument has ended, so no operator comes next.
    intro token head minus
    have ends := first.ends token .sub (by simp [List.head?_append, head])
    exact ends (by simp [operators, minus])
  | single _ _ ih => exact .single ih
  | binary _ member _ _ left right => exact .binary left member right

theorem Splits.derives (split : Splits precision tokens pieces) : Program Unsigned tokens := by
  induction split with
  | nil => exact .nil
  | cons phrase _ ih => exact .cons phrase.derives ih

/-- A negated operand takes the place of an operand. -/
theorem Spells.negate (sign : minus.kind = .minus)
    (spelled : Spells precision .chain stretch rest tree) :
    ∃ tree, Spells precision .chain (minus :: stretch) rest tree := by
  cases spelled with
  | single spelled ends => exact ⟨_, .single (.negation sign spelled) ends⟩
  | binary left member right ends => exact ⟨_, .binary (.negation sign left) member right ends⟩

theorem Spells.negated (valid : precision.Valid) (sign : minus.kind = .minus)
    (spelled : Spells precision .operand (minus :: stretch) rest tree) :
    ∃ tree, Spells precision .operand stretch rest tree := by
  have read := complete valid spelled
  simp only [reader, List.cons_append, readOperand_cons, readFrom, opening_negation_iff.2 sign,
    bind_eq_ok, pure_eq_ok, Prod.mk.injEq, Prod.exists] at read
  obtain ⟨operand, _, taken, _, left⟩ := read
  rw [left] at taken
  have taken : reader precision .operand (stretch ++ rest) = .ok (operand, rest) := taken
  obtain ⟨_, same, phrase⟩ := sound valid taken
  exact ⟨operand, List.append_cancel_right same ▸ phrase⟩

/-- Without its sign, a chain that begins with a negated operand is a chain. -/
theorem Spells.unsign (valid : precision.Valid) (sign : minus.kind = .minus)
    (spelled : Spells precision .chain (minus :: stretch) rest tree) :
    ∃ tree, Spells precision .chain stretch rest tree := by
  generalize whole : minus :: stretch = tokens at spelled
  cases spelled with
  | single spelled ends =>
    subst whole
    obtain ⟨tree, spelled⟩ := spelled.negated valid sign
    exact ⟨tree, .single spelled ends⟩
  | @binary left _ _ _ _ _ _ spelled member right ends =>
    cases left with
    | nil => exact absurd rfl spelled.nonempty
    | cons first left =>
      obtain ⟨rfl, rfl⟩ := List.cons.inj whole
      obtain ⟨tree, spelled⟩ := spelled.negated valid sign
      exact ⟨_, .binary spelled member right ends⟩

/-- The stretch is read where nothing comes after it that belongs to it, and goes on with an
operator and a chain. -/
structure Continuable (precision : Precision) (form : Form) (stretch : List Token) : Prop where
  whole : ∀ rest, Ends rest → ∃ tree, Spells precision form stretch rest tree
  extended : ∀ sign operator right rest second, (sign.kind, operator) ∈ operators →
    Spells precision .chain right rest second →
    ∃ tree, Spells precision .chain (stretch ++ sign :: right) rest tree

theorem Continuable.closed (spelled : ∀ rest, ∃ tree, Spells precision .operand stretch rest tree) :
    Continuable precision .operand stretch where
  whole rest _ := spelled rest
  extended sign operator right rest second member later := by
    obtain ⟨tree, first⟩ := spelled (sign :: right ++ rest)
    exact ⟨_, .binary first member later later.ends⟩

theorem Continuable.bracketed (ends : ∀ operator, (closer.kind, operator) ∉ operators)
    (body : Continuable precision .chain stretch)
    (wrap : ∀ rest tree, Spells precision .chain stretch (closer :: rest) tree →
      ∃ tree, Spells precision .operand phrase rest tree) :
    Continuable precision .operand phrase := by
  refine .closed fun rest => ?_
  obtain ⟨tree, spelled⟩ := body.whole (closer :: rest) (ends_cons_iff.2 ends)
  exact wrap rest tree spelled

theorem Continuable.negation (sign : minus.kind = .minus)
    (body : Continuable precision .operand stretch) :
    Continuable precision .operand (minus :: stretch) where
  whole rest ends := by
    obtain ⟨tree, spelled⟩ := body.whole rest ends
    exact ⟨_, .negation sign spelled⟩
  extended sign' operator right rest second member later := by
    obtain ⟨tree, spelled⟩ := body.extended sign' operator right rest second member later
    exact spelled.negate sign

theorem Continuable.unary (member : (word.kind, name) ∈ functions)
    (argument : Continuable precision .chain stretch) :
    Continuable precision .operand (word :: stretch) where
  whole rest ends := by
    obtain ⟨tree, spelled⟩ := argument.whole rest ends
    exact ⟨_, .unary member spelled⟩
  extended sign operator right rest second known later := by
    obtain ⟨tree, spelled⟩ := argument.extended sign operator right rest second known later
    exact ⟨_, .single (.unary member spelled) later.ends⟩

theorem Continuable.logarithm (log : word.kind = .log)
    (first : Continuable precision .chain left) (apart : ∀ rest, Ends (right ++ rest))
    (second : Continuable precision .chain right) :
    Continuable precision .operand (word :: left ++ right) where
  whole rest ends := by
    obtain ⟨one, spelled⟩ := first.whole (right ++ rest) (apart rest)
    obtain ⟨two, spelled'⟩ := second.whole rest ends
    exact ⟨_, .logarithm log spelled spelled'⟩
  extended sign operator more rest third member later := by
    obtain ⟨one, spelled⟩ := first.whole (right ++ sign :: more ++ rest) (by simpa using apart _)
    obtain ⟨two, spelled'⟩ := second.extended sign operator more rest third member later
    rw [List.append_assoc]
    exact ⟨_, .single (.logarithm log spelled spelled') later.ends⟩

theorem Continuable.single (operand : Continuable precision .operand stretch) :
    Continuable precision .chain stretch where
  whole rest ends := by
    obtain ⟨tree, spelled⟩ := operand.whole rest ends
    exact ⟨tree, .single spelled ends⟩
  extended := operand.extended

theorem Continuable.binary (member : (sign.kind, operator) ∈ operators)
    (first : Continuable precision .operand left) (second : Continuable precision .chain right) :
    Continuable precision .chain (left ++ sign :: right) where
  whole rest ends := by
    obtain ⟨two, spelled⟩ := second.whole rest ends
    exact first.extended sign operator right rest two member spelled
  extended sign' operator' more rest third member' later := by
    obtain ⟨two, spelled⟩ := second.extended sign' operator' more rest third member' later
    rw [List.append_assoc]
    exact first.extended sign operator _ rest two member spelled

/-- Every phrase whose second arguments begin with no sign is read somewhere. -/
theorem Derives.continuable (precision : Precision) (derived : Derives Unsigned form stretch)
    (literate : ∀ token ∈ stretch, Literate token) : Continuable precision form stretch := by
  induction derived with
  | literal kind =>
    obtain ⟨v, denotes⟩ := (literate _ (by simp)).denotes kind precision
    exact .closed fun rest => ⟨_, .literal denotes⟩
  | constant member => exact .closed fun rest => ⟨_, .constant member⟩
  | group opens _ closes ih =>
    have body := ih fun token member => literate token (by simp [member])
    exact .bracketed (by simp [closes, operators]) body fun rest tree spelled =>
      ⟨_, .group opens spelled closes⟩
  | negation minus _ ih =>
    exact .negation minus (ih fun token member => literate token (by simp [member]))
  | magnitude opens _ closes ih =>
    have body := ih fun token member => literate token (by simp [member])
    exact .bracketed (by simp [closes, operators]) body fun rest tree spelled =>
      ⟨_, .magnitude opens spelled closes⟩
  | unary member _ ih =>
    exact .unary member (ih fun token member => literate token (by simp [member]))
  | logarithm log _ second unsigned ih ih' =>
    refine .logarithm log (ih ?_) (second.ends unsigned) (ih' ?_) <;>
      exact fun token member => literate token (by simp [member])
  | single _ ih => exact .single (ih literate)
  | binary _ member _ ih ih' =>
    refine .binary member (ih ?_) (ih' ?_) <;>
      exact fun token member => literate token (by simp [member])

/-- A chain before a row of chains: the first of these goes on with it if it begins with a sign. -/
theorem Continuable.lead (valid : precision.Valid) (first : Continuable precision .chain stretch)
    (split : Splits precision rest pieces) :
    ∃ pieces, Splits precision (stretch ++ rest) pieces := by
  by_cases ends : Ends rest
  · obtain ⟨tree, spelled⟩ := first.whole rest ends
    exact ⟨_, .cons spelled split⟩
  · cases split with
    | nil => exact absurd ends_nil ends
    | @cons chain rest tree pieces phrase split =>
      obtain ⟨sign, later, rfl, begins⟩ := phrase.derives.begins
      obtain ⟨operator, member⟩ : ∃ operator, (sign.kind, operator) ∈ operators := by
        simpa using ends
      obtain ⟨second, spelled⟩ := phrase.unsign valid (minus_of_operator begins member)
      obtain ⟨tree, spelled⟩ := first.extended sign operator later rest second member spelled
      exact ⟨_, by simpa using Splits.cons spelled split⟩

theorem Program.splits (valid : precision.Valid) (program : Program Unsigned tokens)
    (literate : ∀ token ∈ tokens, Literate token) : ∃ pieces, Splits precision tokens pieces := by
  induction program with
  | nil => exact ⟨[], .nil⟩
  | cons derived _ ih =>
    obtain ⟨pieces, split⟩ := ih fun token member => literate token (by simp [member])
    have first := derived.continuable precision fun token member =>
      literate token (by simp [member])
    exact first.lead valid split

end Reckon.Grammar

namespace Reckon.Reading
open Grammar

/-- Resolved tokens with literals that can be read are read exactly if they have a derivation in
which no second argument of a logarithm begins with a sign. -/
theorem read_derivable (valid : precision.Valid)
    (resolved : ∀ token ∈ tokens, token.resolved = true)
    (literate : ∀ token ∈ tokens, Literate token) :
    (∃ trees, Reading.read precision tokens = .ok trees) ↔ Program Unsigned tokens := by
  simp only [read_resolved precision resolved, mapError_eq_ok, program_ok_iff valid]
  constructor
  · rintro ⟨_, pieces, split, _⟩
    exact split.derives
  · intro program
    obtain ⟨pieces, split⟩ := program.splits valid literate
    exact ⟨_, pieces, split, rfl⟩

/-- The tokens of a logarithm with a sign after its first argument. -/
def signed (more : List Token) : List Token :=
  ⟨.log, "log", 1, 0, true⟩ :: ⟨.integer, "1", 1, 4, true⟩ :: ⟨.minus, "-", 1, 6, true⟩ ::
    ⟨.integer, "2", 1, 7, true⟩ :: more

theorem signed_scanned : Token.tokenize 1 "log 1 -2" = .ok (signed []) :=
  eq_ok_of_toOption (by decide +kernel)

/-- The sign goes on with the first argument. -/
theorem signed_argument (ends : Ends more) : Spells none .chain (signed []).tail more
    (.binary .sub (.value (.integer 1)) (.value (.integer 2))) := by
  have one : Literal.integer "1" = .ok 1 := eq_ok_of_toOption (by decide +kernel)
  have two : Literal.integer "2" = .ok 2 := eq_ok_of_toOption (by decide +kernel)
  have second : Spells none .chain ((signed []).drop 3) more (.value (.integer 2)) :=
    .single (.literal (.integer rfl two)) ends
  have minus : (Token.Kind.minus, Operator.sub) ∈ operators := by simp [operators]
  have first : Spells none .operand [⟨.integer, "1", 1, 4, true⟩] ((signed []).drop 2 ++ more)
      (.value (.integer 1)) := .literal (.integer rfl one)
  exact .binary first minus second ends

/-- A negated second argument is derived, and lost to the first one: the second is then missing. -/
theorem read_refuses_signed : Token.tokenize 1 "log 1 -2" = .ok (signed []) ∧
    Program (fun _ => True) (signed []) ∧
    Reading.read none (signed []) = .error (.reading ⟨.unexpectedEnd, signed [], 4, 1⟩) := by
  refine ⟨signed_scanned, ?_, ?_⟩
  · have first : Derives (fun _ => True) .chain [⟨.integer, "1", 1, 4, true⟩] :=
      .single (.literal (.inl rfl))
    have second : Derives (fun _ => True) .chain ((signed []).drop 2) :=
      .single (.negation rfl (.literal (.inl rfl)))
    have whole : Derives (fun _ => True) .chain (signed []) :=
      .single (.logarithm rfl first second trivial)
    exact .cons whole .nil
  · have read : readChain none (signed []).tail =
        .ok (.binary .sub (.value (.integer 1)) (.value (.integer 2)), []) :=
      complete Precision.valid_none (signed_argument ends_nil)
    have refused : readChain none (signed []) = .error (.refused .unexpectedEnd 0) := by
      have operand : readOperand none (signed []) = .error (.refused .unexpectedEnd 0) := by
        rw [signed, List.tail_cons] at read
        simp [signed, readOperand_cons, readFrom, opening, read, readChain_eq none [],
          readOperand_nil]
      rw [readChain_eq, operand, error_bind]
    rw [read_settled none (Token.tokenize_settled signed_scanned),
      program_of_refused (by decide) refused]
    rfl

/-- With one more literal, the two are arguments again. -/
theorem read_derivable_signed :
    ∃ trees, Reading.read none (signed [⟨.integer, "3", 1, 9, true⟩]) = .ok trees := by
  have scanned : Token.tokenize 1 "log 1 -2 3" = .ok (signed [⟨.integer, "3", 1, 9, true⟩]) :=
    eq_ok_of_toOption (by decide +kernel)
  have settled := Token.tokenize_settled scanned
  have first : Derives Unsigned .chain (signed []).tail := (signed_argument ends_nil).derives
  have second : Derives Unsigned .chain [⟨.integer, "3", 1, 9, true⟩] :=
    .single (.literal (.inl rfl))
  have whole : Derives Unsigned .chain (signed [⟨.integer, "3", 1, 9, true⟩]) :=
    .single (.logarithm rfl first second (by simp [Unsigned]))
  have program : Program Unsigned (signed [⟨.integer, "3", 1, 9, true⟩]) := .cons whole .nil
  exact (read_derivable Precision.valid_none (fun token member => (settled token member).resolved)
    fun token member => literate_of_settled (settled token member)).2 program

end Reckon.Reading

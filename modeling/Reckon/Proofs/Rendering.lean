import Reckon.Proofs.Lexemes
import Reckon.Token.Rendering

/-! What is rendered can be read again. The passes that take blanks out of a rendered text act on
each gap between two lexemes alone, so what is left is one rule for neighbours, and the neighbours
that lose their blank stay apart. -/
namespace Reckon.Token
open Text (isBlank)

/-- A pass that drops the blanks after some characters and those before some. -/
def sweep (opens closes : Char → Bool) (cs : List Char) : List Char :=
  cs.foldr (fun c rest =>
    if opens c then c :: rest.dropWhile isBlank
    else if isBlank c && rest.head?.any closes then rest
    else c :: rest) []

/-- The blank between two lexemes, unless they are glued together. -/
def gap (glued : Bool) : List Char := if glued then [] else [' ']

/-- The lexemes in a row, with a blank between neighbours that are not glued. -/
def weave (glued : List Char → List Char → Bool) : List (List Char) → List Char
  | [] => []
  | [lexeme] => lexeme
  | lexeme :: next :: rest =>
    lexeme ++ (gap (glued lexeme next) ++ weave glued (next :: rest))

/-- The characters that some pass looks for. -/
def isTight (c : Char) : Bool := c = '(' || c = ')' || c = '^'

/-- A lexeme that every pass leaves as it is: no blanks in it, and what a pass looks for is no part
of a longer lexeme. -/
structure Solid (lexeme : List Char) : Prop where
  given : lexeme ≠ []
  compact : ∀ c ∈ lexeme, isBlank c = false
  alone : ∀ c ∈ lexeme, isTight c = true → lexeme = [c]

variable {opens closes : Char → Bool} {glued : List Char → List Char → Bool}
  {lexeme next text : List Char} {lexemes : List (List Char)}
  {shown : Face} {shows found : List Face}
  {line : Int} {code : String} {tokens : List Token}

theorem afterOpening_eq (cs : List Char) :
    afterOpening cs = sweep (· = '(') (fun _ => false) cs := by
  simp only [afterOpening, sweep]
  congr
  funext c rest
  cases rest <;> simp

theorem beforeClosing_eq (cs : List Char) :
    beforeClosing cs = sweep (fun _ => false) (· = ')') cs := by
  simp only [beforeClosing, sweep]
  congr
  funext c rest
  cases rest <;> simp

theorem aroundHat_eq (cs : List Char) : aroundHat cs = sweep (· = '^') (· = '^') cs := by
  simp only [aroundHat, sweep]
  congr
  funext c rest
  cases rest <;> simp

theorem joined_eq (tokens : List Token) :
    joined tokens = weave (fun _ _ => false) (tokens.map (·.lexeme.toList)) := by
  induction tokens with
  | nil => rfl
  | cons token tokens ih =>
    cases tokens with
    | nil => rfl
    | cons next rest =>
      rw [joined, ih]
      · rfl
      · nofun

@[simp] theorem sweep_nil : sweep opens closes [] = [] := rfl

theorem sweep_cons (c : Char) (cs : List Char) : sweep opens closes (c :: cs) =
    if opens c then c :: (sweep opens closes cs).dropWhile isBlank
    else if isBlank c && (sweep opens closes cs).head?.any closes then sweep opens closes cs
    else c :: sweep opens closes cs := rfl

theorem sweep_plain (compact : ∀ c ∈ lexeme, isBlank c = false)
    (plain : ∀ c ∈ lexeme, opens c = false) (rest : List Char) :
    sweep opens closes (lexeme ++ rest) = lexeme ++ sweep opens closes rest := by
  induction lexeme with
  | nil => rfl
  | cons c lexeme ih =>
    have later := ih (fun d member => compact d (by simp [member]))
      fun d member => plain d (by simp [member])
    rw [List.cons_append, sweep_cons, later]
    simp [plain c, compact c]

theorem sweep_lexeme (solid : Solid lexeme) (narrow : ∀ c, opens c = true → isTight c = true)
    (rest : List Char) : sweep opens closes (lexeme ++ rest) =
      lexeme ++ if lexeme.any opens then (sweep opens closes rest).dropWhile isBlank
        else sweep opens closes rest := by
  by_cases opening : lexeme.any opens = true
  · obtain ⟨c, member, opens'⟩ := List.any_eq_true.1 opening
    rw [solid.alone c member (narrow c opens')]
    simp [sweep_cons, opens']
  · rw [if_neg opening]
    exact sweep_plain solid.compact (by simpa using opening) rest

theorem head?_weave (given : lexeme ≠ []) (rest : List (List Char)) :
    (weave glued (lexeme :: rest)).head? = lexeme.head? := by
  obtain ⟨c, cs, rfl⟩ := List.exists_cons_of_ne_nil given
  cases rest <;> rfl

theorem Solid.any_head? (solid : Solid lexeme)
    (narrow : ∀ c, closes c = true → isTight c = true) :
    lexeme.head?.any closes = lexeme.any closes := by
  apply Bool.eq_iff_iff.2
  constructor
  · intro first
    obtain ⟨c, cs, rfl⟩ := List.exists_cons_of_ne_nil solid.given
    exact List.any_eq_true.2 ⟨c, by simp, first⟩
  · intro some
    obtain ⟨c, member, closing⟩ := List.any_eq_true.1 some
    rw [solid.alone c member (narrow c closing)]
    exact closing

theorem isBlank_space : isBlank ' ' = true := by decide

/-- What a pass makes of a gap and of the text after it. -/
theorem sweep_gap (solid : Solid next) (narrow : ∀ c, closes c = true → isTight c = true)
    (blank : opens ' ' = false) (closed : Bool)
    (head : (sweep opens closes text).head? = next.head?) :
    sweep opens closes (gap closed ++ text) =
      gap (closed || next.any closes) ++ sweep opens closes text := by
  cases closed with
  | true => rfl
  | false =>
    rw [← solid.any_head? narrow, ← head]
    simp only [gap, Bool.false_eq_true, reduceIte, List.cons_append, List.nil_append,
      Bool.false_or, sweep_cons, blank, isBlank_space, Bool.true_and]
    split <;> rfl

theorem dropWhile_gap (solid : Solid next) (head : text.head? = next.head?) (closed : Bool) :
    (gap closed ++ text).dropWhile isBlank = text := by
  obtain ⟨c, cs, rfl⟩ := List.exists_cons_of_ne_nil solid.given
  obtain ⟨rest, rfl⟩ := List.head?_eq_some_iff.1 head
  cases closed <;> simp [gap, isBlank_space, solid.compact c]

/-- A pass glues the neighbours that have a character it looks for at the right side. -/
theorem sweep_weave (narrow : ∀ c, opens c = true ∨ closes c = true → isTight c = true)
    (solid : ∀ lexeme ∈ lexemes, Solid lexeme) :
    sweep opens closes (weave glued lexemes) =
      weave (fun a b => glued a b || b.any closes || a.any opens) lexemes := by
  have blank : opens ' ' = false := by
    apply Bool.eq_false_iff.2
    intro opening
    exact absurd (narrow ' ' (.inl opening)) (by decide)
  induction lexemes with
  | nil => rfl
  | cons lexeme rest ih =>
    have here := solid lexeme (by simp)
    have later := ih fun other member => solid other (by simp [member])
    have opening (c) (opens' : opens c = true) : isTight c = true := narrow c (.inl opens')
    have closing (c) (closes' : closes c = true) : isTight c = true := narrow c (.inr closes')
    cases rest with
    | nil =>
      have whole : sweep opens closes (lexeme ++ []) = _ := sweep_lexeme here opening []
      simpa [weave] using whole
    | cons next rest =>
      have beyond := solid next (by simp)
      -- A pass works from the right: whether it drops this gap shows on the rest it has swept.
      have head : (weave (fun a b => glued a b || b.any closes || a.any opens)
          (next :: rest)).head? = next.head? := head?_weave beyond.given rest
      rw [weave, sweep_lexeme here opening, sweep_gap beyond closing blank _ (later ▸ head), later,
        dropWhile_gap beyond head, weave]
      cases lexeme.any opens <;> simp [gap]

/-- The rule for neighbours: no blank inside parentheses and none around a hat. -/
def attached (before after : List Char) : Bool :=
  before = ['('] || before = ['^'] || after = [')'] || after = ['^']

theorem Solid.any_eq (solid : Solid lexeme) (mark : Char) (tight : isTight mark = true) :
    lexeme.any (· = mark) = decide (lexeme = [mark]) := by
  apply Bool.eq_iff_iff.2
  simp only [List.any_eq_true, decide_eq_true_eq, exists_eq_right]
  constructor
  · exact fun member => solid.alone mark member tight
  · rintro rfl
    simp

theorem weave_congr {glued' : List Char → List Char → Bool}
    (same : ∀ before ∈ lexemes, ∀ after ∈ lexemes, glued before after = glued' before after) :
    weave glued lexemes = weave glued' lexemes := by
  induction lexemes with
  | nil => rfl
  | cons lexeme rest ih =>
    have later := ih fun before member after member' =>
      same before (by simp [member]) after (by simp [member'])
    cases rest with
    | nil => rfl
    | cons next rest => rw [weave, weave, later, same lexeme (by simp) next (by simp)]

/-- Rendering puts a blank into each gap between two lexemes or none, by the rule for these two. -/
theorem render_weave {tokens : List Token} (solid : ∀ token ∈ tokens, Solid token.lexeme.toList) :
    (render tokens).toList = weave attached (tokens.map (·.lexeme.toList)) := by
  have solid' : ∀ lexeme ∈ tokens.map (·.lexeme.toList), Solid lexeme := by simpa using solid
  rw [render, String.toList_ofList, joined_eq, afterOpening_eq, sweep_weave _ solid',
    beforeClosing_eq, sweep_weave _ solid', aroundHat_eq, sweep_weave _ solid']
  · apply weave_congr
    intro before member after member'
    have first := (solid' before member).any_eq
    have second := (solid' after member').any_eq
    have never (cs : List Char) : cs.any (fun _ => false) = false := by simp
    simp [attached, never, first, second, isTight, Bool.or_assoc, Bool.or_comm, Bool.or_left_comm]
  all_goals simp +contextual [isTight]

theorem Solid.of_accepted (given : lexeme ≠ [])
    (inside : ∀ c ∈ lexeme, isAccepted c = true ∧ isTight c = false) : Solid lexeme where
  given := given
  compact c member := isBlank_of_isAccepted (inside c member).1
  alone c member tight := by simp [(inside c member).2] at tight

theorem accepted_of_isLetter (letter : Text.isLetter c = true) :
    isAccepted c = true ∧ isTight c = false := by
  refine ⟨isAccepted_iff.2 ⟨.word, letter⟩, Bool.eq_false_iff.2 fun tight => ?_⟩
  simp only [isTight, Bool.or_eq_true, decide_eq_true_eq] at tight
  rcases tight with (rfl | rfl) | rfl <;> revert letter <;> decide +kernel

theorem accepted_of_isMark (mark : Numeral.isMark c = true) :
    isAccepted c = true ∧ isTight c = false := by
  simp only [Numeral.isMark, Bool.or_eq_true, decide_eq_true_eq, List.mem_cons, List.not_mem_nil,
    or_false] at mark
  rcases mark with digit | rfl | rfl | rfl | rfl
  · refine ⟨isAccepted_iff.2 ⟨.number, isNumeric_of_isDigit digit⟩, Bool.eq_false_iff.2 ?_⟩
    simp only [isTight, Bool.or_eq_true, decide_eq_true_eq, ne_eq]
    rintro ((rfl | rfl) | rfl) <;> revert digit <;> decide
  all_goals decide +kernel

theorem accepted_of_text (x : Binary64) :
    ∀ c ∈ x.text.toList, isAccepted c = true ∧ isTight c = false := by
  cases x with
  | finite negative significand exponent canonical =>
    intro c member
    apply accepted_of_isMark
    cases negative with
    | false => exact Numeral.layout_marks _ c (by simpa [Binary64.text] using member)
    | true =>
      rcases List.mem_cons.1 (by simpa [Binary64.text] using member) with rfl | later
      · rfl
      · exact Numeral.layout_marks _ c later
  | infinite negative =>
    have known : (Binary64.infinite negative).text.toList.all
        (fun c => isAccepted c && !isTight c) = true := by cases negative <;> decide +kernel
    simpa using known
  | nan =>
    have known : Binary64.nan.text.toList.all (fun c => isAccepted c && !isTight c) = true := by
      decide +kernel
    simpa using known

theorem Legible.solid (legible : Legible shown) : Solid shown.2.toList := by
  cases legible with
  | @operator c final known =>
    have operator : isOperator c = true := by simp [isOperator, known]
    have accepted : isAccepted c = true := isAccepted_iff.2 ⟨.operator, operator⟩
    exact ⟨by simp, by simpa using isBlank_of_isAccepted accepted, by simp⟩
  | word given letters _ =>
    refine .of_accepted (by simpa using given) fun c member => ?_
    exact accepted_of_isLetter (letters c member)
  | @integer n small =>
    have given : Digits.ofInt n ≠ [] := Numeral.ofNat_ne_nil n
    refine .of_accepted (by simpa using given) fun c member => accepted_of_isMark ?_
    exact Numeral.digit_mark (digits_ofInt n c (by simpa using member))
  | @decimal x unsigned =>
    refine .of_accepted ?_ (accepted_of_text x)
    rcases text_cases unsigned with ⟨_, point⟩ | ⟨front, back, split, _⟩ | special
    · exact List.ne_nil_of_mem point
    · simp [split]
    · obtain ⟨c, member, _⟩ := (readings_special unsigned special).2
      exact List.ne_nil_of_mem member

/-- Where the rule leaves no blank, one of the neighbours is an operator. -/
theorem apart_gap (lexeme next : List Char) (rest : List (List Char)) :
    Apart lexeme (gap (attached lexeme next) ++ weave attached (next :: rest)) := by
  by_cases glue : attached lexeme next = true
  · rw [glue]
    simp only [attached, Bool.or_eq_true, decide_eq_true_eq] at glue
    rcases glue with ((rfl | rfl) | rfl) | rfl
    · exact apart_operator (by decide) _
    · exact apart_operator (by decide) _
    all_goals
      refine apart_of_head fun c head => .inl ?_
      rw [gap, if_pos rfl, List.nil_append, head?_weave (by simp)] at head
      obtain rfl := Option.some.inj head
      decide
  · refine apart_of_head fun c head => .inr ?_
    obtain rfl : ' ' = c := by simpa [gap, glue] using head
    exact not_accepted_space

theorem readings_gap (glued : Bool) (text : List Char) :
    readings (gap glued ++ text) = readings text := by
  cases glued with
  | true => rfl
  | false => exact readings_skipped not_accepted_space text

theorem readings_weave_cons (lexeme : List Char) (rest : List (List Char)) :
    readings (weave attached (lexeme :: rest)) = some found ↔
      ∃ first second, readings lexeme = some first ∧
        readings (weave attached rest) = some second ∧ first ++ second = found := by
  cases rest with
  | nil => simp [weave]
  | cons next rest =>
    rw [weave, readings_append_iff (apart_gap lexeme next rest), readings_gap]

/-- The lexemes of faces, rendered. -/
def woven (faces : List Face) : List Char := weave attached (faces.map (·.2.toList))

theorem readings_woven (legible : ∀ shown ∈ shows, Legible shown)
    (plain : ∀ shown ∈ shows, ¬ Face.Lettered shown) : readings (woven shows) = some shows := by
  induction shows with
  | nil => exact readings_nil
  | cons shown shows ih =>
    have first := (legible shown (by simp)).reads (plain shown (by simp))
    have later := ih (fun other member => legible other (by simp [member]))
      fun other member => plain other (by simp [member])
    exact (readings_weave_cons _ _).2 ⟨_, _, first, later, rfl⟩

/-- Each lexeme gives one token or more, and one with a letter of its own gives more. -/
theorem length_readings_woven (legible : ∀ shown ∈ shows, Legible shown)
    (reads : readings (woven shows) = some found) : shows.length ≤ found.length ∧
      (found.length = shows.length → ∀ shown ∈ shows, ¬ Face.Lettered shown) := by
  induction shows generalizing found with
  | nil => simp
  | cons shown shows ih =>
    obtain ⟨first, second, here, there, rfl⟩ := (readings_weave_cons _ _).1 reads
    obtain ⟨longer, plain⟩ := ih (fun other member => legible other (by simp [member])) there
    simp only [List.length_append, List.length_cons]
    by_cases lettered : shown.Lettered
    -- A lexeme that gives two tokens or more is not made up for: none gives fewer than one.
    · have parts := (legible shown (by simp)).parts lettered here
      exact ⟨by omega, fun same => by omega⟩
    · obtain rfl : [shown] = first := by
        simpa [(legible shown (by simp)).reads lettered] using here
      refine ⟨by simp; omega, fun same => List.forall_mem_cons.2 ⟨lettered, plain ?_⟩⟩
      simp at same
      omega

theorem render_congr {tokens' : List Token} (same : tokens.map face = tokens'.map face) :
    render tokens = render tokens' := by
  have lexemes : tokens.map (·.lexeme.toList) = tokens'.map (·.lexeme.toList) := by
    simpa [Function.comp_def, face] using congrArg (List.map (·.2.toList)) same
  rw [render, render, joined_eq, joined_eq, lexemes]

theorem render_woven (ok : tokenize line code = .ok tokens) :
    (render tokens).toList = woven (tokens.map face) := by
  rw [render_weave fun token member => (tokenize_legible ok token member).solid, woven,
    List.map_map]
  rfl

/-- A rendered line of tokens is read as the same tokens exactly when no decimal among them has a
letter in it, and then it is rendered as itself. -/
theorem tokenize_render_iff (ok : tokenize line code = .ok tokens) (line' : Int) :
    ((∃ again, tokenize line' (render tokens) = .ok again ∧
        again.map face = tokens.map face) ↔
      ∀ token ∈ tokens, token.kind = .decimal →
        ∀ c ∈ token.lexeme.toList, Text.isLetter c = false) ∧
    ∀ again, tokenize line' (render tokens) = .ok again →
      again.map face = tokens.map face → render again = render tokens := by
  have legible : ∀ shown ∈ tokens.map face, Legible shown := by
    simpa using tokenize_legible ok
  have plain_iff : (∀ token ∈ tokens, token.kind = .decimal →
      ∀ c ∈ token.lexeme.toList, Text.isLetter c = false) ↔
        ∀ shown ∈ tokens.map face, ¬ shown.Lettered := by
    simp [Face.Lettered, face]
  refine ⟨?_, fun again _ same => render_congr same⟩
  rw [plain_iff]
  constructor
  · rintro ⟨again, read, same⟩
    -- The same tokens are as many tokens, and a decimal with a letter would add one.
    have reads := readings_of_tokenize read
    rw [render_woven ok, same] at reads
    exact (length_readings_woven legible reads).2 rfl
  · intro plain
    refine tokenize_of_readings ?_ line'
    rw [render_woven ok]
    exact readings_woven legible plain

/-- The tokens of `(SiN 1.50)^2`. -/
def power : List Token := [
  ⟨.leftParen, "(", 1, 0, true⟩, ⟨.sin, "SiN", 1, 1, true⟩, ⟨.decimal, "1.5", 1, 5, true⟩,
  ⟨.rightParen, ")", 1, 9, true⟩, ⟨.hat, "^", 1, 10, true⟩, ⟨.integer, "2", 1, 11, true⟩]

theorem tokenize_render_power : tokenize 1 "(SiN 1.50)^2" = .ok power ∧
    render power = "(SiN 1.5)^2" ∧
    ∃ again, tokenize 1 (render power) = .ok again ∧ again.map face = power.map face := by
  have ok : tokenize 1 "(SiN 1.50)^2" = .ok power := eq_ok_of_toOption (by decide +kernel)
  have plain : "1.5".toList.all (fun c => !Text.isLetter c) = true := by decide +kernel
  refine ⟨ok, by decide +kernel, (tokenize_render_iff ok 1).1.2 ?_⟩
  simpa [power] using plain

end Reckon.Token

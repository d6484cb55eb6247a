import Reckon.Proofs.Spans

/-! What scanning makes of a text, wherever the text stands. A text is scanned piece by piece where
no two neighbours of one class meet between the pieces, and so it is read piece by piece too. -/
namespace Reckon.Token

variable {kind : Kind} {line : Int} {code : String}

/-- A token without its place: the kind and the lexeme. -/
abbrev Face := Kind × String

def face (token : Token) : Face := (token.kind, token.lexeme)

/-- The faces of the tokens that scanning finds in a text. -/
def faces (cs : List Char) : List Face := (scanFrom 1 0 cs).map face

theorem face_scanFrom (line line' : Int) (place place' : Nat) (cs : List Char) :
    (scanFrom line place cs).map face = (scanFrom line' place' cs).map face := by
  fun_induction scanFrom line place cs generalizing place' with
  | case1 => simp [scanFrom]
  | case2 place c cs operator ih =>
    rw [scanFrom]
    simp only [operator, reduceIte, List.map_cons, ih (place' + 1), face]
  | case3 place c cs other numeric run ih =>
    rw [scanFrom]
    simp only [other, numeric, reduceIte, List.map_cons, ih (place' + run.length), face]
    rfl
  | case4 place c cs other other' letter run ih =>
    rw [scanFrom]
    simp only [other, other', letter, reduceIte, List.map_cons, ih (place' + run.length), face]
    rfl
  | case5 place c cs other other' other'' ih =>
    rw [scanFrom]
    simp only [other, other', other'', ih (place' + 1)]
    rfl

theorem face_scan (line : Int) (code : String) : (scan line code).map face = faces code.toList :=
  face_scanFrom ..

@[simp] theorem faces_nil : faces [] = [] := by simp [faces, scanFrom]

theorem faces_operator (operator : isOperator c = true) (cs : List Char) :
    faces (c :: cs) = (.operator, String.ofList [c]) :: faces cs := by
  rw [faces, scanFrom]
  simp only [operator, reduceIte, List.map_cons, face]
  rw [face_scanFrom _ 1 _ 0]
  rfl

theorem faces_skipped (skipped : isAccepted c = false) (cs : List Char) :
    faces (c :: cs) = faces cs := by
  simp only [isAccepted, Bool.or_eq_false_iff] at skipped
  rw [faces, scanFrom]
  simp only [skipped, reduceIte, Bool.false_eq_true]
  exact face_scanFrom ..

/-- A run of one class, operators apart, is one token. -/
theorem faces_run (proper : kind ≠ .operator) (first : Kind.accepts kind c = true)
    (cs : List Char) : faces (c :: cs) =
      (kind, String.ofList (c :: cs.takeWhile kind.accepts)) ::
        faces (cs.dropWhile kind.accepts) := by
  rcases accepts_iff.1 first with ⟨rfl, _⟩ | ⟨rfl, numeric⟩ | ⟨rfl, letter⟩
  · exact absurd rfl proper
  · have other : isOperator c = false := by
      apply Bool.eq_false_iff.2
      intro operator
      simp [(operator_alone operator).1] at numeric
    rw [faces, scanFrom]
    simp only [other, numeric, reduceIte, Bool.false_eq_true, List.map_cons]
    rw [face_scanFrom _ 1 _ 0]
    rfl
  · have other : isOperator c = false := by
      apply Bool.eq_false_iff.2
      intro operator
      simp [(operator_alone operator).2] at letter
    have other' : isNumeric c = false := by
      apply Bool.eq_false_iff.2
      intro numeric
      simp [isLetter_of_isNumeric numeric] at letter
    rw [faces, scanFrom]
    simp only [other, other', letter, reduceIte, Bool.false_eq_true, List.map_cons]
    rw [face_scanFrom _ 1 _ 0]
    rfl

/-- The last character of the one and the first of the other are not of one class, operators
apart. -/
def Apart (before after : List Char) : Prop :=
  ∀ (kind : Kind) (c d : Char), kind ≠ .operator → before.getLast? = some c →
    after.head? = some d → kind.accepts c = true → kind.accepts d = false

theorem Apart.suffix (apart : Apart before after) (suffix : tail <:+ before) :
    Apart tail after := by
  obtain ⟨start, rfl⟩ := suffix
  intro kind c d proper last
  exact apart kind c d proper (by simp [last])

theorem apart_of_head
    (other : ∀ d, after.head? = some d → isOperator d = true ∨ isAccepted d = false) :
    Apart before after := by
  intro kind c d proper _ head _
  apply Bool.eq_false_iff.2
  intro accepts
  rcases other d head with operator | skipped
  · exact proper (accepts_unique accepts (accepts_iff.2 (.inl ⟨rfl, operator⟩)))
  · simp [isAccepted_iff.2 ⟨kind, accepts⟩] at skipped

theorem apart_operator (operator : isOperator c = true) (after : List Char) : Apart [c] after := by
  rintro kind d _ proper ⟨⟩ _ accepts
  exact absurd (accepts_unique accepts (accepts_iff.2 (.inl ⟨rfl, operator⟩))) proper

theorem span_append (proper : kind ≠ .operator) (first : Kind.accepts kind c = true)
    (apart : Apart (c :: cs) after) :
    (cs ++ after).takeWhile kind.accepts = cs.takeWhile kind.accepts ∧
      (cs ++ after).dropWhile kind.accepts = cs.dropWhile kind.accepts ++ after := by
  induction cs generalizing c with
  | nil =>
    cases after with
    | nil => simp
    | cons d after => simp [apart kind c d proper rfl rfl first]
  | cons d cs ih =>
    by_cases within : kind.accepts d = true
    · simpa [within] using ih within (apart.suffix (List.suffix_cons c _))
    · simp [within]

/-- A text is scanned piece by piece where its pieces are apart. -/
theorem faces_append (apart : Apart before after) :
    faces (before ++ after) = faces before ++ faces after := by
  -- A run of numbers or letters is taken off whole, so the induction is on the length of the piece.
  induction size : before.length using Nat.strongRecOn generalizing before with
  | ind n ih =>
    cases before with
    | nil => simp
    | cons c cs =>
      by_cases accepted : isAccepted c = true
      · obtain ⟨kind, first⟩ := isAccepted_iff.1 accepted
        by_cases operator : kind = .operator
        · subst operator
          have later := ih cs.length (by simp [← size]) (apart.suffix (List.suffix_cons c _)) rfl
          rw [List.cons_append, faces_operator first, faces_operator first, later]
          rfl
        · obtain ⟨taken, dropped⟩ := span_append operator first apart
          have suffix : cs.dropWhile kind.accepts <:+ c :: cs :=
            (List.dropWhile_suffix _).trans (List.suffix_cons c cs)
          have fewer := length_dropWhile_lt kind.accepts c cs
          have later := ih _ (size ▸ fewer) (apart.suffix suffix) rfl
          rw [List.cons_append, faces_run operator first, faces_run operator first, taken, dropped,
            later]
          rfl
      · have skipped := Bool.eq_false_iff.2 accepted
        have later := ih cs.length (by simp [← size]) (apart.suffix (List.suffix_cons c _)) rfl
        rw [List.cons_append, faces_skipped skipped, faces_skipped skipped, later]

/-- A text that is one run has one face. -/
theorem faces_whole (kind : Kind) (proper : kind ≠ .operator) (given : cs ≠ [])
    (inside : ∀ c ∈ cs, kind.accepts c = true) : faces cs = [(kind, String.ofList cs)] := by
  obtain ⟨c, cs, rfl⟩ := List.exists_cons_of_ne_nil given
  have rest : ∀ d ∈ cs, kind.accepts d = true := fun d member => inside d (by simp [member])
  rw [faces_run proper (inside c (by simp)), List.takeWhile_eq_self_iff.2 rest,
    List.dropWhile_eq_nil_iff.2 rest, faces_nil]

theorem faces_ne_nil (accepted : isAccepted c = true) (cs : List Char) :
    faces (c :: cs) ≠ [] := by
  obtain ⟨kind, first⟩ := isAccepted_iff.1 accepted
  by_cases operator : kind = .operator
  · subst operator
    simp [faces_operator first]
  · simp [faces_run operator first]

/-- What resolving makes of the face of a scanned token. -/
def Face.settle? : Face → Option Face
  | (.operator, lexeme) => (lexemeOperator? lexeme).map (·, lexeme)
  | (.number, lexeme) => resolveNumber? lexeme
  | (.word, lexeme) => (keyword? lexeme).map (·, lexeme)
  | other => some other

theorem resolve_face (fresh : token.resolved = false) (code : String) :
    (resolve code token).toOption.map face = (face token).settle? := by
  simp only [resolve, fresh, Bool.false_eq_true, reduceIte, face]
  cases kind : token.kind with
  | number =>
    simp only [Face.settle?]
    cases resolveNumber? token.lexeme <;> rfl
  | word =>
    simp only [Face.settle?]
    cases keyword? token.lexeme <;> rfl
  | operator =>
    simp only [Face.settle?]
    cases lexemeOperator? token.lexeme <;> rfl
  | _ => rfl

theorem Scanned.fresh (scanned : Scanned line token) : token.resolved = false := by
  cases scanned <;> rfl

/-- The faces of the tokens of a text, if it has any. -/
def readings (cs : List Char) : Option (List Face) := (faces cs).mapM Face.settle?

theorem resolve_faces {tokens : List Token} (fresh : ∀ token ∈ tokens, token.resolved = false)
    (code : String) : (tokens.mapM (resolve code)).toOption.map (List.map face) =
      (tokens.map face).mapM Face.settle? := by
  induction tokens with
  | nil => rfl
  | cons token tokens ih =>
    have first := resolve_face (fresh token (by simp)) code
    have later := ih fun other member => fresh other (by simp [member])
    rw [List.mapM_cons, List.map_cons, List.mapM_cons, ← first, ← later]
    cases resolve code token with
    | error => rfl
    | ok settled => cases tokens.mapM (resolve code) <;> rfl

theorem tokenize_faces (line : Int) (code : String) :
    (tokenize line code).toOption.map (List.map face) = readings code.toList := by
  rw [tokenize, resolve_faces fun token member => (scan_scanned line code token member).fresh,
    face_scan, readings]

theorem tokenize_of_readings (reads : readings code.toList = some found) (line : Int) :
    ∃ tokens, tokenize line code = .ok tokens ∧ tokens.map face = found := by
  obtain ⟨tokens, ok, same⟩ := Option.map_eq_some_iff.1 ((tokenize_faces line code).trans reads)
  exact ⟨tokens, eq_ok_of_toOption ok, same⟩

theorem readings_of_tokenize (ok : tokenize line code = .ok tokens) :
    readings code.toList = some (tokens.map face) := by
  rw [← tokenize_faces line code, ok]
  rfl

theorem not_accepted_space : isAccepted ' ' = false := by decide +kernel

theorem readings_skipped (skipped : isAccepted c = false) (cs : List Char) :
    readings (c :: cs) = readings cs := by
  rw [readings, faces_skipped skipped, readings]

@[simp] theorem readings_nil : readings [] = some [] := by simp [readings]

theorem readings_append_iff (apart : Apart before after) :
    readings (before ++ after) = some found ↔
      ∃ first second, readings before = some first ∧ readings after = some second ∧
        first ++ second = found := by
  simp only [readings, faces_append apart, List.mapM_append, Option.bind_eq_bind,
    Option.bind_eq_some_iff, Option.pure_def, Option.some.injEq, exists_and_left]

theorem readings_ne_nil (accepted : isAccepted c = true)
    (reads : readings (c :: cs) = some found) : found ≠ [] := by
  obtain ⟨first, others, more⟩ := List.exists_cons_of_ne_nil (faces_ne_nil accepted cs)
  simp only [readings, more, List.mapM_cons, Option.bind_eq_bind, Option.bind_eq_some_iff,
    Option.pure_def, Option.some.injEq] at reads
  obtain ⟨_, _, _, _, rfl⟩ := reads
  simp

end Reckon.Token

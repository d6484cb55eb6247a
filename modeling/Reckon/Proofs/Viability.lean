import Reckon.Proofs.Refit

/-! Where reading stops. Reading looks at the tokens that it takes and at one more, so a list that
begins in the same way goes the same way; and what it has begun can always be completed, with
operands and closing brackets. The token that an error names is therefore the first one that no
accepted list has there. -/
namespace Reckon.Reading
open Grammar
open Token (Settled)

variable {precision : Precision} {tokens : List Token}

/-- The tokens that complete what is begun: an operand, and those that close a bracket. -/
def completions : List Token := [
  ⟨.integer, "0", 1, 0, true⟩, ⟨.rightParen, ")", 1, 0, true⟩, ⟨.bar, "|", 1, 0, true⟩]

theorem completion_settled (member : token ∈ completions) : Settled token := by
  simp only [completions, List.mem_cons, List.not_mem_nil, or_false] at member
  rcases member with rfl | rfl | rfl
  · exact ⟨rfl, fun _ => ⟨0, by decide, rfl⟩, nofun⟩
  · exact ⟨rfl, nofun, nofun⟩
  · exact ⟨rfl, nofun, nofun⟩

theorem ends_completions (completing : more ⊆ completions) (ends : Ends rest) :
    Ends (more ++ rest) := by
  cases more with
  | nil => exact ends
  | cons token more =>
    have member : token ∈ completions := completing (by simp)
    simp only [completions, List.mem_cons, List.not_mem_nil, or_false] at member
    rcases member with rfl | rfl | rfl <;> simp [operators]

theorem ends_append (later : Ends rest → Ends rest') (ends : Ends (stretch ++ rest)) :
    Ends (stretch ++ rest') := by
  cases stretch with
  | nil => exact later ends
  | cons token stretch => exact ends_cons_iff.2 (ends_cons_iff.1 ends)

theorem ends_of_head (same : rest'.head? = rest.head?) (ends : Ends rest) : Ends rest' := by
  intro token operator head
  exact ends token operator (same ▸ head)

/-- What the reading of `tokens` says of other lists. A list with the same tokens taken, and then
nothing that would go on where nothing went on before, is read in the same way; one with the
same tokens taken and the same next one is refused too; and what was taken can be completed. -/
inductive Foreseen (read : List Token → Except Stop (α × List Token)) (tokens : List Token) :
    Except Stop (α × List Token) → Prop where
  | found (stretch : List Token) : tokens = stretch ++ rest →
      (∀ rest', (Ends rest → Ends rest') → read (stretch ++ rest') = .ok (a, rest')) →
      Foreseen read tokens (.ok (a, rest))
  | refused (stretch left : List Token) : tokens = stretch ++ left →
      (∀ left', left'.head? = left.head? → ∃ stop, read (stretch ++ left') = .error stop) →
      more ⊆ completions →
      (∀ rest, Ends rest → ∃ a, read (stretch ++ more ++ rest) = .ok (a, rest)) →
      Foreseen read tokens (.error (.refused cause left.length))
  | fault : Foreseen read tokens (.error (.fault f))

theorem Foreseen.done {read : List Token → Except Stop (α × List Token)} {a : α}
    (same : ∀ rest', (Ends rest → Ends rest') → read rest' = .ok (a, rest')) :
    Foreseen read rest (.ok (a, rest)) := .found [] rfl same

theorem Foreseen.suffix {read : List Token → Except Stop (α × List Token)}
    (foreseen : Foreseen read tokens (.ok (a, rest))) : ∃ stretch, tokens = stretch ++ rest := by
  cases foreseen with
  | found stretch split => exact ⟨stretch, split⟩

theorem Foreseen.cons {read : List Token → Except Stop (α × List Token)}
    (later : Foreseen (fun rest => read (token :: rest)) rest result) :
    Foreseen read (token :: rest) result := by
  cases later with
  | found stretch split same => exact .found (token :: stretch) (by simp [split]) same
  | refused stretch left split refused completing completed =>
    exact .refused (token :: stretch) left (by simp [split]) refused completing completed
  | fault => exact .fault

/-- Readings in sequence: the second begins where the first one ended, and is completed from
nothing where the first has to be. -/
theorem Foreseen.bind {read : List Token → Except Stop (α × List Token)}
    {next : α × List Token → Except Stop (β × List Token)}
    (first : Foreseen read tokens result)
    (second : ∀ a rest, result = .ok (a, rest) →
      Foreseen (fun later => next (a, later)) rest (next (a, rest)))
    (afresh : ∃ more ⊆ completions, ∀ a rest, Ends rest → ∃ b,
      next (a, more ++ rest) = .ok (b, rest)) :
    Foreseen (fun tokens => read tokens >>= next) tokens (result >>= next) := by
  cases first with
  | fault => exact .fault
  | @refused more _ stretch left split refused completing completed =>
    obtain ⟨more', completing', completed'⟩ := afresh
    refine .refused stretch left split ?_ (List.append_subset.2 ⟨completing, completing'⟩) ?_
    · intro left' same
      obtain ⟨stop, refused⟩ := refused left' same
      exact ⟨stop, by simp [refused]⟩
    · intro rest ends
      obtain ⟨a, done⟩ := completed (more' ++ rest) (ends_completions completing' ends)
      obtain ⟨b, done'⟩ := completed' a rest ends
      exact ⟨b, by simpa [done'] using congrArg (· >>= next) done⟩
  | @found rest a stretch split same =>
    have later := second a rest rfl
    simp only [ok_bind]
    generalize next (a, rest) = result at later ⊢
    cases later with
    | fault => exact .fault
    | @found rest' b stretch' split' same' =>
      refine .found (stretch ++ stretch') (by simp [split, split']) ?_
      intro rest'' ends
      have one := same (stretch' ++ rest'') fun h => ends_append ends (split' ▸ h)
      simpa [one] using same' rest'' ends
    | @refused more _ stretch' left split' refused completing completed =>
      refine .refused (stretch ++ stretch') left (by simp [split, split']) ?_ completing ?_
      · intro left' head
        have one := same (stretch' ++ left') fun h => ends_append (ends_of_head head) (split' ▸ h)
        obtain ⟨stop, refused⟩ := refused left' head
        exact ⟨stop, by simpa [one] using refused⟩
      · intro rest'' ends
        have one := same (stretch' ++ (more ++ rest'')) fun h =>
          ends_append (fun _ => ends_completions completing ends) (split' ▸ h)
        obtain ⟨b, done⟩ := completed rest'' ends
        rw [List.append_assoc] at done
        exact ⟨b, by simp only [List.append_assoc, one, ok_bind, done]⟩

theorem close_foreseen (closer : ∃ token ∈ completions, token.kind = kind) (cause : Cause)
    (tree : Expr) (tokens : List Token) :
    Foreseen (close kind cause tree) tokens (close kind cause tree tokens) := by
  obtain ⟨closer, member, closes⟩ := closer
  have completed (rest : List Token) (_ : Ends rest) :
      ∃ a, close kind cause tree ([] ++ [closer] ++ rest) = .ok (a, rest) :=
    ⟨tree, by simp [close, closes]⟩
  cases tokens with
  | nil =>
    refine .refused [] [] rfl ?_ (by simpa using member) completed
    intro left' head
    obtain rfl : left' = [] := by simpa using head
    exact ⟨_, rfl⟩
  | cons token rest =>
    by_cases same : token.kind = kind
    · simp only [close, same, reduceIte]
      exact .found [token] rfl fun rest' _ => by simp [close, same]
    · simp only [close, same, reduceIte]
      refine .refused [] (token :: rest) rfl ?_ (by simpa using member) completed
      intro left' head
      obtain ⟨later, rfl⟩ := List.head?_eq_some_iff.1 head
      exact ⟨_, by simp [close, same]; rfl⟩

theorem readOperand_completion (precision : Precision) (place : Nat) (rest : List Token) :
    readOperand precision (⟨.integer, "0", 1, place, true⟩ :: rest) =
      .ok (.value (.integer 0), rest) := by
  have zero : Literal.integer "0" = .ok 0 := eq_ok_of_toOption (by decide +kernel)
  simp [readOperand_cons, readFrom, opening, integerLiteral, zero, readLiteral]

theorem readChain_completion (precision : Precision) (place : Nat) (ends : Ends rest) :
    readChain precision (⟨.integer, "0", 1, place, true⟩ :: rest) =
      .ok (.value (.integer 0), rest) := by
  rw [readChain_eq, readOperand_completion]
  exact extend_of_ends ends

/-- A reading that ends in its own result adds nothing to be completed. -/
theorem complete_pure (wrap : α → β) : ∃ more ⊆ completions, ∀ a rest, Ends rest →
    ∃ b, (.ok (wrap a, more ++ rest) : Except Stop (β × List Token)) = .ok (b, rest) :=
  ⟨[], List.nil_subset _, fun _ _ _ => ⟨_, rfl⟩⟩

theorem literal_foreseen (result : Except Fault Value) (rest : List Token) :
    Foreseen (fun rest => readLiteral rest result) rest (readLiteral rest result) := by
  cases result with
  | ok v => exact .done fun _ _ => rfl
  | error f => exact .fault

/-- Where no operand begins, reading refuses the token, and an operand may stand instead. -/
theorem operand_refused (left : List Token) (refuses : ∀ left', left'.head? = left.head? →
      ∃ stop, readOperand precision left' = .error stop) :
    Foreseen (readOperand precision) left (.error (.refused cause left.length)) := by
  have operand : [⟨.integer, "0", 1, 0, true⟩] ⊆ completions := by simp [completions]
  refine .refused [] left rfl refuses operand ?_
  intro rest _
  exact ⟨_, readOperand_completion precision 0 rest⟩

/-- A list of the same head, where it decides what the reading refuses. -/
theorem refuses_token (refuses : ∀ rest, readFrom precision token rest =
      .error (.refused cause (rest.length + 1))) (rest : List Token) :
    Foreseen (readOperand precision) (token :: rest)
      (.error (.refused cause (token :: rest).length)) := by
  refine operand_refused _ ?_
  intro left' head
  obtain ⟨later, rfl⟩ := List.head?_eq_some_iff.1 head
  exact ⟨_, (readOperand_cons ..).trans (refuses later)⟩

/-- An operand after its first token. -/
theorem begun_foreseen (begins : opening token.kind ≠ .finish ∧ opening token.kind ≠ .stray)
    (chains : ∀ later, later.length ≤ rest.length →
      Foreseen (readChain precision) later (readChain precision later))
    (operands : Foreseen (readOperand precision) rest (readOperand precision rest)) :
    Foreseen (readFrom precision token) rest (readFrom precision token rest) := by
  have here := chains rest (Nat.le_refl _)
  unfold readFrom
  cases start : opening token.kind with
  | group =>
    refine .bind here (fun tree left _ => close_foreseen ?_ .unclosedParen tree left) ?_
    · exact ⟨⟨.rightParen, ")", 1, 0, true⟩, by simp [completions], rfl⟩
    · exact ⟨[⟨.rightParen, ")", 1, 0, true⟩], by simp [completions], fun _ _ _ => ⟨_, rfl⟩⟩
  | bars =>
    refine .bind here (fun tree left _ => close_foreseen ?_ .unclosedBar (.magnitude tree) left) ?_
    · exact ⟨⟨.bar, "|", 1, 0, true⟩, by simp [completions], rfl⟩
    · exact ⟨[⟨.bar, "|", 1, 0, true⟩], by simp [completions], fun _ _ _ => ⟨_, rfl⟩⟩
  | negation => exact .bind operands (fun _ _ _ => .done fun _ _ => rfl) (complete_pure _)
  | unary name => exact .bind here (fun _ _ _ => .done fun _ _ => rfl) (complete_pure _)
  | function name =>
    refine .bind here ?_ ?_
    · intro first between read
      have more := chains between (Nat.le_of_lt (readChain_shorter read))
      refine .bind more (fun second left _ => .done fun _ _ => rfl) ?_
      exact complete_pure (Expr.function name first)
    · refine ⟨[⟨.integer, "0", 1, 0, true⟩], by simp [completions], ?_⟩
      intro first rest ends
      exact ⟨_, by simp [readChain_completion precision 0 ends]; rfl⟩
  | integer | decimal => exact literal_foreseen _ rest
  | constant name => exact .done fun _ _ => rfl
  | finish => exact absurd start begins.1
  | stray => exact absurd start begins.2

theorem readFrom_foreseen
    (chains : ∀ later, later.length ≤ rest.length →
      Foreseen (readChain precision) later (readChain precision later))
    (operands : Foreseen (readOperand precision) rest (readOperand precision rest)) :
    Foreseen (readOperand precision) (token :: rest) (readFrom precision token rest) := by
  by_cases finish : opening token.kind = .finish
  · have refuses (rest : List Token) : readFrom precision token rest =
        .error (.refused .unexpectedEnd (rest.length + 1)) := by simp [readFrom, finish]
    exact refuses rest ▸ refuses_token refuses rest
  · by_cases stray : opening token.kind = .stray
    · have refuses (rest : List Token) : readFrom precision token rest =
          .error (.refused (.unexpectedToken token.lexeme) (rest.length + 1)) := by
        simp [readFrom, stray]
      exact refuses rest ▸ refuses_token refuses rest
    · refine .cons ?_
      simpa only [readOperand_cons] using begun_foreseen ⟨finish, stray⟩ chains operands

theorem extend_foreseen (first : Expr)
    (chains : ∀ later, later.length < rest.length →
      Foreseen (readChain precision) later (readChain precision later)) :
    Foreseen (extend precision first) rest (extend precision first rest) := by
  by_cases ends : Ends rest
  · rw [extend_of_ends ends]
    exact .done fun rest' same => extend_of_ends (same ends)
  · cases rest with
    | nil => exact absurd ends_nil ends
    | cons sign later =>
      cases known : Operator.ofKind? sign.kind with
      | none =>
        refine absurd (ends_cons_iff.2 fun operator member => ?_) ends
        simp [ofKind_iff.2 member] at known
      | some operator =>
        have more := chains later (by simp)
        refine .cons ?_
        simp only [extend, known]
        exact .bind more (fun second left _ => .done fun _ _ => rfl) (complete_pure _)

/-- Every reading is foreseen from the tokens it takes and the next one. -/
theorem foreseen (precision : Precision) : ∀ tokens,
    Foreseen (readChain precision) tokens (readChain precision tokens) ∧
    Foreseen (readOperand precision) tokens (readOperand precision tokens) := by
  apply reading_induction
  case chain =>
    intro tokens operand shorter
    have split : readChain precision = fun tokens =>
        readOperand precision tokens >>= fun found => extend precision found.1 found.2 :=
      funext (readChain_eq precision)
    rw [split]
    refine .bind operand ?_ ⟨[], List.nil_subset _, fun first rest ends =>
      ⟨first, extend_of_ends ends⟩⟩
    intro first rest read
    obtain ⟨stretch, rfl⟩ := (read ▸ operand).suffix
    refine extend_foreseen first fun later fewer => shorter later ?_
    simp only [List.length_append]
    omega
  case operand =>
    intro tokens shorter
    cases tokens with
    | nil =>
      rw [readOperand_nil]
      refine operand_refused [] ?_
      intro left' head
      obtain rfl : left' = [] := by simpa using head
      exact ⟨_, readOperand_nil precision⟩
    | cons token rest =>
      rw [readOperand_cons]
      refine readFrom_foreseen ?_ (shorter rest (Nat.lt_succ_self _)).2
      exact fun later fewer => (shorter later (Nat.lt_succ_of_le fewer)).1

theorem program_of_chain (read : readChain precision tokens = .ok (tree, rest)) :
    program precision tokens = (program precision rest).map (tree :: ·) := by
  cases tokens with
  | nil => exact absurd (readChain_shorter read) (Nat.not_lt_zero _)
  | cons token later => rw [program_cons, read, ok_bind]

theorem program_of_refused (given : tokens ≠ []) (read : readChain precision tokens = .error stop) :
    program precision tokens = .error stop := by
  cases tokens with
  | nil => exact absurd rfl given
  | cons token later => rw [program_cons, read, error_bind]

/-- The tokens before a refused one can be completed, and no list goes on with it. -/
structure Blocked (precision : Precision) (before left : List Token) : Prop where
  completed : ∃ more ⊆ completions, ∃ trees, program precision (before ++ more) = .ok trees
  refused : ∀ left', left'.head? = left.head? →
    ∃ stop, program precision (before ++ left') = .error stop

theorem Blocked.first (refused : readChain precision (token :: rest) =
      .error (.refused cause remaining)) :
    ∃ before left, token :: rest = before ++ left ∧ left.length = remaining ∧
      Blocked precision before left := by
  have foreseen := (foreseen precision (token :: rest)).1
  rw [refused] at foreseen
  cases foreseen with
  | @refused more _ before left split refuses completing completed =>
    refine ⟨before, left, split, rfl, ⟨more, completing, ?_⟩, ?_⟩
    · obtain ⟨tree, read⟩ := completed [] ends_nil
      rw [List.append_nil] at read
      exact ⟨[tree], by simp [program_of_chain read, program_nil]⟩
    · intro left' head
      obtain ⟨stop, read⟩ := refuses left' head
      refine ⟨stop, program_of_refused ?_ read⟩
      intro empty
      obtain ⟨rfl, rfl⟩ := List.append_eq_nil_iff.1 empty
      rw [List.nil_append] at split
      simp [← split] at head

/-- A chain that was read before stays read, whatever completes the rest. -/
theorem Blocked.later (blocked : Blocked precision before left)
    (read : readChain precision tokens = .ok (tree, before ++ left)) :
    ∃ before', tokens = before' ++ left ∧ Blocked precision before' left := by
  have foreseen := (foreseen precision tokens).1
  rw [read] at foreseen
  cases foreseen with
  | found stretch split same =>
    obtain ⟨⟨more, completing, trees, accepted⟩, refuses⟩ := blocked
    refine ⟨stretch ++ before, by simp [split], ⟨more, completing, tree :: trees, ?_⟩, ?_⟩
    · have chain := same (before ++ more) (ends_append fun _ => ?_)
      · rw [List.append_assoc, program_of_chain chain, accepted, map_ok]
      · simpa using ends_completions completing ends_nil
    · intro left' head
      obtain ⟨stop, refused⟩ := refuses left' head
      have chain := same (before ++ left') (ends_append (ends_of_head head))
      exact ⟨stop, by rw [List.append_assoc, program_of_chain chain, refused, map_error]⟩

theorem program_blocked (refused : program precision tokens = .error (.refused cause remaining)) :
    ∃ before left, tokens = before ++ left ∧ left.length = remaining ∧
      Blocked precision before left := by
  induction size : tokens.length using Nat.strongRecOn generalizing tokens with
  | ind n ih =>
    cases tokens with
    | nil => simp [program_nil] at refused
    | cons token rest =>
      rw [program_cons, bind_eq_error] at refused
      rcases refused with here | ⟨⟨tree, between⟩, read, later⟩
      · exact Blocked.first here
      · rw [map_eq_error] at later
        obtain ⟨before, left, rfl, rfl, blocked⟩ :=
          ih between.length (size ▸ readChain_shorter read) later rfl
        obtain ⟨before', split, blocked⟩ := blocked.later read
        exact ⟨before', left, split, rfl, blocked⟩

theorem Blocked.repaired (blocked : Blocked precision before left)
    (settled : ∀ token ∈ before, Settled token) :
    ∃ more trees, (∀ token ∈ more, Settled token) ∧
      Reading.read precision (before ++ more) = .ok trees := by
  obtain ⟨more, completing, trees, accepted⟩ := blocked.completed
  have settled' (token) (member : token ∈ more) : Settled token :=
    completion_settled (completing member)
  refine ⟨more, trees, settled', ?_⟩
  rw [read_settled precision, accepted, mapError_ok]
  intro token member
  rcases List.mem_append.1 member with member | member
  · exact settled token member
  · exact settled' token member

/-- Whatever follows a refused token, resolved or not, the list is refused. -/
theorem Blocked.beyond (blocked : Blocked precision before (token :: rest))
    (settled : ∀ other ∈ before ++ token :: rest, Settled other) (more : List Token) :
    ∃ failure, Reading.read precision (before ++ token :: more) = .error failure := by
  have same : (before ++ [token]).mapM (Token.resolve "") = .ok (before ++ [token]) := by
    refine mapM_ok_self fun other member => (settled other ?_).resolve ""
    rcases List.mem_append.1 member with member | member
    · simp [member]
    · simp [List.mem_singleton.1 member]
  rw [List.append_cons, Reading.read, List.mapM_append, same]
  cases more.mapM (Token.resolve "") with
  | error failure => exact ⟨failure, rfl⟩
  | ok found =>
    obtain ⟨stop, refused⟩ := blocked.refused (token :: found) rfl
    exact ⟨failure (before ++ token :: found) stop, by simp [refused]⟩

/-- A reading error names the first token that cannot stand where it does: what comes before it
can be completed to a list that is read, and no list that begins with it too is read. So the
error is at the end exactly if tokens are only missing. -/
theorem read_error_earliest (scanned : Token.tokenize line code = .ok tokens)
    (refused : Reading.read precision tokens = .error (.reading e)) :
    e.index ≤ tokens.length ∧
    (∃ more trees, (∀ token ∈ more, Settled token) ∧
      Reading.read precision (tokens.take e.index ++ more) = .ok trees) ∧
    (e.index < tokens.length → ∀ more trees,
      Reading.read precision (tokens.take (e.index + 1) ++ more) ≠ .ok trees) ∧
    (e.index = tokens.length ↔
      ∃ more trees, Reading.read precision (tokens ++ more) = .ok trees) := by
  have settled := Token.tokenize_settled scanned
  rw [read_settled precision settled, mapError_eq_error] at refused
  obtain ⟨stop, refused, same⟩ := refused
  cases stop with
  | fault f => cases same
  | refused cause remaining =>
    cases same
    obtain ⟨before, left, rfl, rfl, blocked⟩ := program_blocked refused
    have index : (before ++ left).length - left.length = before.length := by simp
    have repaired := blocked.repaired fun token member => settled token (by simp [member])
    simp only [index, List.take_left]
    cases left with
    | nil =>
      obtain ⟨more, trees, completing, accepted⟩ := repaired
      refine ⟨by simp, ⟨more, trees, completing, accepted⟩, fun short => by simp at short, ?_⟩
      exact ⟨fun _ => ⟨more, trees, by rwa [List.append_nil]⟩, fun _ => by simp⟩
    | cons token rest =>
      have beyond := blocked.beyond settled
      have begins : (before ++ token :: rest).take (before.length + 1) = before ++ [token] := by
        rw [List.append_cons, List.take_left' (by simp)]
      refine ⟨by simp, repaired, ?_, ?_⟩
      · intro _ more trees accepted
        obtain ⟨failure, refused⟩ := beyond more
        rw [begins, List.append_assoc, List.singleton_append, refused] at accepted
        cases accepted
      · refine ⟨fun same => by simp at same, ?_⟩
        rintro ⟨more, trees, accepted⟩
        obtain ⟨failure, refused⟩ := beyond (rest ++ more)
        rw [List.append_assoc, List.cons_append, refused] at accepted
        cases accepted

def unclosed : List Token := [
  ⟨.bar, "|", 1, 0, true⟩, ⟨.leftParen, "(", 1, 1, true⟩, ⟨.integer, "0", 1, 2, true⟩,
  ⟨.bar, "|", 1, 3, true⟩, ⟨.rightParen, ")", 1, 4, true⟩]

/-- The second bar comes before its time, and a parenthesis may stand instead. -/
theorem read_error_earliest_bar : Token.tokenize 1 "|(0|)" = .ok unclosed ∧
    Reading.read none unclosed = .error (.reading ⟨.unclosedParen, unclosed, 3, 1⟩) ∧
    (∃ more trees, (∀ token ∈ more, Settled token) ∧
      Reading.read none (unclosed.take 3 ++ more) = .ok trees) ∧
    (∀ more trees, Reading.read none (unclosed.take 4 ++ more) ≠ .ok trees) ∧
    ¬ ∃ more trees, Reading.read none (unclosed ++ more) = .ok trees := by
  have scanned : Token.tokenize 1 "|(0|)" = .ok unclosed := eq_ok_of_toOption (by decide +kernel)
  have refused : Reading.read none unclosed =
      .error (.reading ⟨.unclosedParen, unclosed, 3, 1⟩) := by
    have inner : readChain none (unclosed.drop 2) = .ok (.value (.integer 0), unclosed.drop 3) :=
      readChain_completion none 2 (by simp [operators])
    have group : readChain none (unclosed.drop 1) = .error (.refused .unclosedParen 2) := by
      rw [readChain_eq, unclosed, List.drop_one, List.tail_cons, readOperand_cons]
      exact congrArg (· >>= _ >>= _) inner
    have bars : readChain none unclosed = .error (.refused .unclosedParen 2) := by
      rw [readChain_eq, unclosed, readOperand_cons]
      exact congrArg (· >>= _ >>= _) group
    rw [read_settled none (Token.tokenize_settled scanned), program_of_refused (by decide) bars]
    rfl
  obtain ⟨_, repaired, beyond, complete⟩ := read_error_earliest scanned refused
  refine ⟨scanned, refused, repaired, beyond (by decide), ?_⟩
  exact fun found => absurd (complete.2 found) (by decide)

end Reckon.Reading

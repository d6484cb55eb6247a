import Reckon.Proofs.Rendering
import Reckon.Proofs.Viability

/-! How a reading error is shown: a reason that begins with the number of the line, the tokens as
one line of text, and a caret under them. The caret stands one column behind the text of the tokens
taken, so it is under the refused token only where a blank is in front of that token. The number is
that of the last token taken, so it is the number of the input only where a token was taken. -/
namespace Reckon

/-- The last line of an error. -/
theorem toList_caret (column : Nat) :
    (blanks column ++ "^").toList = List.replicate column ' ' ++ ['^'] := by
  simp [blanks]

/-- An error of three lines is shown in no more than these. -/
theorem caret_lines {first shown : String} (unbroken : '\n' ∉ first.toList)
    (plain : '\n' ∉ shown.toList) (column : Nat) :
    ("\n".intercalate [first, shown, blanks column ++ "^"]).toList.splitOn '\n' =
      [first.toList, shown.toList, List.replicate column ' ' ++ ['^']] := by
  have newline : "\n".toList = ['\n'] := by simp
  rw [String.toList_intercalate, newline]
  simp only [List.map_cons, List.map_nil, toList_caret]
  rw [List.splitOn_intercalate]
  · simp [unbroken, plain]
  · simp

namespace Text

theorem mem_toDigits (large : 1 < b) (member : c ∈ Nat.toDigits b n) :
    ∃ d < b, c = Nat.digitChar d := by
  induction n using Nat.strongRecOn with
  | ind n ih =>
    rw [Nat.toDigits_eq_if large] at member
    split at member
    case isTrue small => exact ⟨n, small, by simpa using member⟩
    case isFalse wide =>
      rcases List.mem_append.1 member with front | last
      · exact ih (n / b) (Nat.div_lt_self (by omega) large) front
      · exact ⟨n % b, Nat.mod_lt n (by omega), by simpa using last⟩

theorem newline_not_mem_hexadecimal (width n : Nat) : '\n' ∉ hexadecimal width n := by
  simp only [hexadecimal, List.mem_append, List.mem_replicate, not_or]
  refine ⟨by simp, fun member => ?_⟩
  obtain ⟨d, small, same⟩ := mem_toDigits (by decide) member
  have others : ∀ d < 16, '\n' ≠ Nat.digitChar d := by decide
  exact others d small same

theorem newline_not_mem_escape (other : mark ≠ '\n') (c : Char) : '\n' ∉ escape mark c := by
  unfold escape
  split <;> grind [newline_not_mem_hexadecimal]

theorem newline_not_mem_quoted (text : String) : '\n' ∉ (quoted text).toList := by
  have other : quoteMark text.toList ≠ '\n' := by
    unfold quoteMark
    split <;> decide
  simp [quoted, newline_not_mem_escape other, other.symm]

end Text

namespace Token
open Text (isBlank)

variable {glued : List Char → List Char → Bool} {lexemes before : List (List Char)}

theorem filter_gap (closed : Bool) : (gap closed).filter (!isBlank ·) = [] := by
  cases closed <;> simp [gap, isBlank_space]

theorem length_gap (closed : Bool) : (gap closed).length = if closed then 0 else 1 := by
  cases closed <;> rfl

theorem newline_not_mem_gap (closed : Bool) : '\n' ∉ gap closed := by
  cases closed <;> simp [gap]

theorem filter_weave (solid : ∀ lexeme ∈ lexemes, Solid lexeme) :
    (weave glued lexemes).filter (!isBlank ·) = lexemes.flatten := by
  induction lexemes with
  | nil => rfl
  | cons lexeme rest ih =>
    have here : lexeme.filter (!isBlank ·) = lexeme :=
      List.filter_eq_self.2 fun c member => by simp [(solid lexeme (by simp)).compact c member]
    have later := ih fun other member => solid other (by simp [member])
    cases rest with
    | nil => simpa [weave] using here
    | cons next rest =>
      rw [weave, List.filter_append, List.filter_append, here, filter_gap, later]
      rfl

theorem newline_not_mem_weave (solid : ∀ lexeme ∈ lexemes, Solid lexeme) :
    '\n' ∉ weave glued lexemes := by
  induction lexemes with
  | nil => simp [weave]
  | cons lexeme rest ih =>
    have here : '\n' ∉ lexeme := by
      intro member
      exact absurd ((solid lexeme (by simp)).compact _ member) (by decide)
    have later := ih fun other member => solid other (by simp [member])
    cases rest with
    | nil => exact here
    | cons next rest => simp [weave, here, newline_not_mem_gap, later]

theorem weave_append (given : before ≠ []) (next : List Char) (rest : List (List Char)) :
    weave glued (before ++ next :: rest) =
      weave glued before ++ (gap (glued (before.getLast given) next) ++
        weave glued (next :: rest)) := by
  induction before with
  | nil => exact absurd rfl given
  | cons lexeme before ih =>
    cases before with
    | nil => rfl
    | cons other before =>
      have later := ih (by simp)
      simp only [List.cons_append] at later
      simp only [List.cons_append, weave, later, List.append_assoc]
      rfl

theorem weave_cons (glued : List Char → List Char → Bool) (lexeme : List Char)
    (rest : List (List Char)) : ∃ tail, weave glued (lexeme :: rest) = lexeme ++ tail := by
  cases rest with
  | nil => exact ⟨[], (List.append_nil lexeme).symm⟩
  | cons next rest => exact ⟨_, rfl⟩

/-- A blank is put between the token and the last of those before it. -/
def spaced (before : List Token) (token : Token) : Bool :=
  before.getLast?.any fun last => !attached last.lexeme.toList token.lexeme.toList

/-- The lexeme of the token at `index` begins in the column of the text: ahead of it are the lexemes
of the tokens before, and blanks. -/
structure BeginsAt (text : List Char) (tokens : List Token) (index column : Nat) : Prop where
  ahead : (text.take column).filter (!isBlank ·) =
    (tokens.take index).flatMap (·.lexeme.toList)
  here : ∃ token, tokens[index]? = some token ∧ token.lexeme.toList <+: text.drop column

variable {text : List Char} {tokens : List Token} {index column column' : Nat}

theorem BeginsAt.le (solid : ∀ token ∈ tokens, Solid token.lexeme.toList)
    (begins : BeginsAt text tokens index column) (other : BeginsAt text tokens index column') :
    column' ≤ column := by
  obtain ⟨token, known, tail, shown⟩ := begins.here
  have lexeme := solid token (List.mem_of_getElem? known)
  obtain ⟨c, cs, split⟩ := List.exists_cons_of_ne_nil lexeme.given
  by_contra beyond
  -- The first character of the lexeme would be one more that is no blank before the other column.
  have longer : text.take column' =
      text.take column ++ (text.drop column).take (column' - column) := by
    rw [← List.take_add, Nat.add_sub_cancel' (by omega)]
  have empty : ((text.drop column).take (column' - column)).filter (!isBlank ·) = [] := by
    have same := other.ahead
    rwa [longer, List.filter_append, begins.ahead, List.append_right_eq_self] at same
  have first : c ∈ (text.drop column).take (column' - column) := by
    obtain ⟨n, wide⟩ : ∃ n, column' - column = n + 1 := ⟨column' - column - 1, by omega⟩
    rw [← shown, split, wide]
    simp
  have blank : isBlank c = true := by simpa using List.filter_eq_nil_iff.1 empty c first
  exact absurd (lexeme.compact c (by simp [split])) (by simp [blank])

/-- A rendered list of tokens begins with the rendered tokens before any of them. -/
theorem render_append (front : List Token) (token : Token) (back : List Token)
    (solid : ∀ other ∈ front ++ token :: back, Solid other.lexeme.toList) :
    ∃ tail, (render (front ++ token :: back)).toList = (render front).toList ++
      (gap (!spaced front token) ++ (token.lexeme.toList ++ tail)) := by
  have solid' : ∀ other ∈ front, Solid other.lexeme.toList := by
    intro other member
    exact solid other (by simp [member])
  obtain ⟨tail, shown⟩ := weave_cons attached token.lexeme.toList (back.map (·.lexeme.toList))
  rw [render_weave solid, render_weave solid', List.map_append, List.map_cons]
  by_cases given : front = []
  · subst given
    exact ⟨tail, by simpa [weave, spaced, gap] using shown⟩
  · refine ⟨tail, ?_⟩
    rw [weave_append (by simpa using given), shown, List.getLast_map, spaced,
      List.getLast?_eq_getLast_of_ne_nil given, Option.any_some, Bool.not_not]

theorem render_beginsAt (solid : ∀ token ∈ tokens, Solid token.lexeme.toList)
    (inside : index < tokens.length) :
    BeginsAt (render tokens).toList tokens index ((render (tokens.take index)).length +
      if spaced (tokens.take index) tokens[index] then 1 else 0) := by
  have split : tokens.take index ++ tokens[index] :: tokens.drop (index + 1) = tokens := by simp
  have solid' : ∀ token ∈ tokens.take index, Solid token.lexeme.toList := by
    intro token member
    exact solid token (List.mem_of_mem_take member)
  obtain ⟨tail, shown⟩ := render_append (tokens.take index) tokens[index]
    (tokens.drop (index + 1)) (by simpa using solid)
  rw [split] at shown
  have width : (if spaced (tokens.take index) tokens[index] then 1 else 0) =
      (gap !spaced (tokens.take index) tokens[index]).length := by
    rw [length_gap]
    cases spaced (tokens.take index) tokens[index] <;> rfl
  rw [width, ← String.length_toList, ← List.length_append, shown, ← List.append_assoc]
  constructor
  · rw [List.take_left, List.filter_append, filter_gap, List.append_nil, render_weave solid',
      filter_weave (List.forall_mem_map.2 solid'), List.flatMap]
  · exact ⟨tokens[index], by simp, by rw [List.drop_left]; exact List.prefix_append _ _⟩

variable {line : Int} {code : String} {raw token : Token}

theorem Scanned.line_eq (scanned : Scanned line raw) : raw.line = line := by
  cases scanned <;> rfl

theorem resolve_line (made : resolve code raw = .ok token) : token.line = raw.line := by
  unfold resolve at made
  grind

theorem tokenize_line (ok : tokenize line code = .ok tokens) :
    ∀ token ∈ tokens, token.line = line := by
  intro token member
  obtain ⟨raw, within, made⟩ := mapM_ok_mem ok member
  exact (resolve_line made).trans (scan_scanned line code raw within).line_eq

theorem tokenize_solid (ok : tokenize line code = .ok tokens) :
    ∀ token ∈ tokens, Solid token.lexeme.toList :=
  fun token member => (tokenize_legible ok token member).solid

end Token

namespace Reading
open Token (BeginsAt Solid render spaced)

namespace Error

/-- How an error of the line begins. -/
def heading (line : Int) : String := "Parser error: [" ++ toString line ++ " line]"

theorem newline_not_mem_heading (line : Int) : '\n' ∉ (heading line).toList := by
  have number (n : Nat) : '\n' ∉ Nat.toDigits 10 n := fun member =>
    absurd (Nat.isDigit_of_mem_toDigits (by decide) (by decide) member) (by decide)
  unfold heading
  rw [Int.toString_eq_repr]
  cases line <;> simp [Int.repr, number]

theorem newline_not_mem_reason (e : Error) : '\n' ∉ e.reason.toList := by
  unfold reason
  split <;> simp [Text.newline_not_mem_quoted]

theorem message_eq (e : Error) : e.message = "\n".intercalate [heading e.line ++ " " ++ e.reason,
    render e.tokens, blanks ((render (e.tokens.take e.index)).length + 1) ++ "^"] := by
  have close : " line] " = " line]" ++ " " := by decide
  have front : s!"Parser error: [{e.line} line] " = heading e.line ++ " " := by
    unfold heading
    rw [close]
    exact String.append_assoc.symm
  rw [message, front]

theorem message_heading (e : Error) : ∃ rest, e.message = heading e.line ++ rest := by
  rw [message_eq, String.append_assoc, String.intercalate_cons_append]
  exact ⟨_, rfl⟩

/-- An error has three lines, and the caret is alone in the last. -/
theorem message_lines {e : Error} (solid : ∀ token ∈ e.tokens, Solid token.lexeme.toList) :
    e.message.toList.splitOn '\n' = [(heading e.line ++ " " ++ e.reason).toList,
      (render e.tokens).toList,
      List.replicate ((render (e.tokens.take e.index)).length + 1) ' ' ++ ['^']] := by
  have shown : '\n' ∉ (render e.tokens).toList := by
    rw [Token.render_weave solid]
    exact Token.newline_not_mem_weave (List.forall_mem_map.2 solid)
  rw [message_eq]
  refine caret_lines ?_ shown _
  simp [newline_not_mem_heading, newline_not_mem_reason]

end Error

variable {precision : Precision} {line : Int} {code : String} {tokens : List Token} {e : Error}

/-- A reading error says where the program stopped among the tokens of the line. -/
theorem read_error_iff (scanned : Token.tokenize line code = .ok tokens) :
    Reading.read precision tokens = .error (.reading e) ↔
      ∃ cause remaining, program precision tokens = .error (.refused cause remaining) ∧
        e = ⟨cause, tokens, tokens.length - remaining,
          ((tokens.take (tokens.length - remaining)).getLast?.map Token.line).getD 1⟩ := by
  rw [read_settled precision (Token.tokenize_settled scanned), mapError_eq_error]
  constructor
  · rintro ⟨stop, refused, same⟩
    cases stop with
    | fault f => cases same
    | refused cause remaining =>
      cases same
      exact ⟨cause, remaining, refused, rfl⟩
  · rintro ⟨cause, remaining, refused, rfl⟩
    exact ⟨_, refused, rfl⟩

/-- The caret stands where the lexeme of the refused token begins if a blank is in front of it, and
one column behind if the token is the first or attached to the one before. -/
theorem read_error_caret (scanned : Token.tokenize line code = .ok tokens)
    (refused : Reading.read precision tokens = .error (.reading e))
    (inside : e.index < tokens.length) :
    ∃ first column,
      (∀ place, BeginsAt (render tokens).toList tokens e.index place ↔ place = column) ∧
      e.message.toList.splitOn '\n' = [first, (render tokens).toList,
        List.replicate (if spaced (tokens.take e.index) tokens[e.index] then column
          else column + 1) ' ' ++ ['^']] := by
  have solid := Token.tokenize_solid scanned
  obtain ⟨_, _, _, same⟩ := (read_error_iff scanned).1 refused
  have own : e.tokens = tokens := by rw [same]
  have begins := Token.render_beginsAt solid inside
  have lines := Error.message_lines (own ▸ solid)
  rw [own] at lines
  refine ⟨(Error.heading e.line ++ " " ++ e.reason).toList,
    (render (tokens.take e.index)).length + if spaced (tokens.take e.index) tokens[e.index] then 1
      else 0, fun place => ?_, ?_⟩
  · constructor
    · intro other
      exact Nat.le_antisymm (begins.le solid other) (other.le solid begins)
    · rintro rfl
      exact begins
  · rw [lines]
    split <;> rfl

/-- The tokens of `0 + *`, the last of which cannot stand there. -/
def doubled (line : Int) : List Token := [
  ⟨.integer, "0", line, 0, true⟩, ⟨.plus, "+", line, 2, true⟩, ⟨.star, "*", line, 4, true⟩]

theorem read_doubled (line : Int) : Reading.read none (doubled line) =
    .error (.reading ⟨.unexpectedToken "*", doubled line, 2, line⟩) := by
  have zero : Literal.integer "0" = .ok 0 := eq_ok_of_toOption (by decide +kernel)
  have star : readChain none [⟨.star, "*", line, 4, true⟩] =
      .error (.refused (.unexpectedToken "*") 1) := by
    rw [readChain_eq, readOperand_cons]
    rfl
  have chain : readChain none (doubled line) = .error (.refused (.unexpectedToken "*") 1) := by
    rw [readChain_eq, doubled, readOperand_cons]
    simp [readFrom, opening, integerLiteral, zero, readLiteral, extend, Operator.ofKind?, star]
  rw [read_resolved none (by simp [doubled]), program_of_refused (by simp [doubled]) chain]
  rfl

theorem read_error_caret_doubled : Token.tokenize 1 "0 + *" = .ok (doubled 1) ∧
    Reading.read none (doubled 1) =
      .error (.reading ⟨.unexpectedToken "*", doubled 1, 2, 1⟩) ∧
    2 < (doubled 1).length ∧
    (∀ place, BeginsAt "0 + *".toList (doubled 1) 2 place ↔ place = 4) ∧
    ∃ first, (Error.message ⟨.unexpectedToken "*", doubled 1, 2, 1⟩).toList.splitOn '\n' =
      [first, "0 + *".toList, "    ^".toList] := by
  have scanned : Token.tokenize 1 "0 + *" = .ok (doubled 1) := eq_ok_of_toOption (by decide +kernel)
  have shown : render (doubled 1) = "0 + *" := by decide +kernel
  obtain ⟨first, column, begins, lines⟩ := read_error_caret scanned (read_doubled 1) (by decide)
  rw [shown] at begins lines
  obtain rfl : 4 = column :=
    (begins 4).1 ⟨by decide +kernel, ⟨.star, "*", 1, 4, true⟩, rfl, by decide +kernel⟩
  exact ⟨scanned, read_doubled 1, by decide, begins, first, lines⟩

/-- A line with a token that nothing begins with. -/
def closing (line : Int) : List Token := [⟨.rightParen, ")", line, 0, true⟩]

theorem read_closing (line : Int) : Reading.read none (closing line) =
    .error (.reading ⟨.unexpectedToken ")", closing line, 0, 1⟩) := by
  rw [read_resolved none (by simp [closing]), closing, program_cons, readChain_eq,
    readOperand_cons]
  rfl

/-- The first token begins in the first column, and the caret stands in the second. -/
theorem read_error_caret_aside : Token.tokenize 1 ")" = .ok (closing 1) ∧
    Reading.read none (closing 1) =
      .error (.reading ⟨.unexpectedToken ")", closing 1, 0, 1⟩) ∧
    BeginsAt (render (closing 1)).toList (closing 1) 0 0 ∧
    ¬ BeginsAt (render (closing 1)).toList (closing 1) 0 1 ∧
    Error.message ⟨.unexpectedToken ")", closing 1, 0, 1⟩ =
      "Parser error: [1 line] Unexpected token ')'\n)\n ^" := by
  have scanned : Token.tokenize 1 ")" = .ok (closing 1) := eq_ok_of_toOption (by decide +kernel)
  have begins : BeginsAt (render (closing 1)).toList (closing 1) 0 0 :=
    ⟨by decide +kernel, ⟨.rightParen, ")", 1, 0, true⟩, rfl, by decide +kernel⟩
  refine ⟨scanned, read_closing 1, begins, fun other => ?_, by decide +kernel⟩
  exact absurd (begins.le (Token.tokenize_solid scanned) other) (by decide)

theorem Foreseen.remaining_le {read : List Token → Except Stop (α × List Token)}
    (foreseen : Foreseen read tokens (.error (.refused cause remaining))) :
    remaining ≤ tokens.length := by
  cases foreseen with
  | refused stretch left split => simp [split]

theorem readChain_remaining (begins : opening token.kind ≠ .finish ∧ opening token.kind ≠ .stray)
    (refused : readChain precision (token :: rest) = .error (.refused cause remaining)) :
    remaining ≤ rest.length := by
  have operand := begun_foreseen begins (fun later _ => (foreseen precision later).1)
    (foreseen precision rest).2
  rw [readChain_eq, readOperand_cons, bind_eq_error] at refused
  rcases refused with here | ⟨⟨first, between⟩, read, later⟩
  · exact (here ▸ operand).remaining_le
  · obtain ⟨stretch, rfl⟩ := (read ▸ operand).suffix
    have extended : Foreseen (extend precision first) between (extend precision first between) :=
      extend_foreseen first fun later _ => (foreseen precision later).1
    have fewer : remaining ≤ between.length := (later ▸ extended).remaining_le
    simp only [List.length_append]
    omega

/-- The first token is the one refused exactly if no operand begins with it. -/
theorem program_remaining_iff
    (refused : program precision (token :: rest) = .error (.refused cause remaining)) :
    rest.length < remaining ↔ opening token.kind = .finish ∨ opening token.kind = .stray := by
  constructor
  · intro whole
    by_contra begins
    rw [not_or] at begins
    rw [program_cons, bind_eq_error] at refused
    rcases refused with here | ⟨⟨tree, left⟩, read, later⟩
    · have := readChain_remaining begins here
      omega
    · obtain ⟨before, after, rfl, rfl, _⟩ := program_blocked (map_eq_error.1 later)
      have fewer := readChain_shorter read
      simp only [List.length_append, List.length_cons] at fewer
      omega
  · intro barren
    rw [program_cons, readChain_eq, readOperand_cons, readFrom] at refused
    rcases barren with start | start <;> simp [start] at refused <;> omega

/-- The kinds of tokens that no operand begins with. -/
def barren : List Token.Kind := [.plus, .star, .slash, .hat, .rightParen]

theorem barren_iff (legible : Token.Legible (kind, lexeme)) :
    opening kind = .finish ∨ opening kind = .stray ↔ kind ∈ barren := by
  cases legible with
  | operator known =>
    unfold Token.operator? at known
    split at known <;> cases known <;> simp [opening, barren]
  | word _ _ known =>
    unfold Token.keyword? at known
    split at known <;> cases known <;> simp [opening, barren]
  | integer | decimal => simp [opening, barren]

/-- The number of the last token taken, if any is. -/
theorem last_line (lines : ∀ token ∈ tokens, token.line = line) (given : tokens ≠ [])
    (index : Nat) :
    ((tokens.take index).getLast?.map Token.line).getD 1 = if index = 0 then 1 else line := by
  cases taken : (tokens.take index).getLast? with
  | none =>
    have zero : index = 0 := by simpa [given] using taken
    simp [zero]
  | some last =>
    have member : last ∈ tokens := List.mem_of_mem_take (List.mem_of_getLast? taken)
    have positive : index ≠ 0 := by
      rintro rfl
      simp at taken
    simp [positive, lines last member]

/-- An error has the number of its line if a token was taken before it, and else the number one. No
token is taken where the first is one that no operand begins with. -/
theorem read_error_line (scanned : Token.tokenize line code = .ok tokens)
    (refused : Reading.read precision tokens = .error (.reading e)) :
    e.line = (if e.index = 0 then 1 else line) ∧
      (e.index = 0 ↔ ∃ token, tokens.head? = some token ∧ token.kind ∈ barren) ∧
      ∃ rest, e.message = Error.heading e.line ++ rest := by
  obtain ⟨cause, remaining, stopped, same⟩ := (read_error_iff scanned).1 refused
  have index : e.index = tokens.length - remaining := by rw [same]
  have number : e.line = ((tokens.take e.index).getLast?.map Token.line).getD 1 := by rw [same]
  cases tokens with
  | nil => simp [program_nil] at stopped
  | cons token rest =>
    refine ⟨?_, ?_, Error.message_heading e⟩
    · rw [number]
      exact last_line (Token.tokenize_line scanned) (by simp) e.index
    · have legible := Token.tokenize_legible scanned token (by simp)
      have begun := (program_remaining_iff stopped).trans (barren_iff legible)
      rw [List.length_cons] at index
      simp only [List.head?_cons, Option.some.injEq, exists_eq_left', ← begun]
      omega

theorem read_error_line_doubled : Token.tokenize 7 "0 + *" = .ok (doubled 7) ∧
    Reading.read none (doubled 7) =
      .error (.reading ⟨.unexpectedToken "*", doubled 7, 2, 7⟩) ∧
    ∃ rest, Error.message ⟨.unexpectedToken "*", doubled 7, 2, 7⟩ =
      Error.heading 7 ++ rest := by
  have scanned : Token.tokenize 7 "0 + *" = .ok (doubled 7) := eq_ok_of_toOption (by decide +kernel)
  obtain ⟨_, _, heading⟩ := read_error_line scanned (read_doubled 7)
  exact ⟨scanned, read_doubled 7, heading⟩

/-- On the seventh line the error says that it is on the first. -/
theorem read_error_line_lost : Token.tokenize 7 ")" = .ok (closing 7) ∧
    Reading.read none (closing 7) =
      .error (.reading ⟨.unexpectedToken ")", closing 7, 0, 1⟩) ∧
    Error.message ⟨.unexpectedToken ")", closing 7, 0, 1⟩ =
      "Parser error: [1 line] Unexpected token ')'\n)\n ^" :=
  ⟨eq_ok_of_toOption (by decide +kernel), read_closing 7, by decide +kernel⟩

end Reading
end Reckon

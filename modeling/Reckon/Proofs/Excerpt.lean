import Reckon.Proofs.Report
import Reckon.Proofs.Resolution

/-! How a token error is shown: a reason, the part of the line around the refused token, and a caret
under its first character. Dots stand for what is left out of the line on either side, and those in
front move the caret along with the text. -/
namespace Reckon.Token

/-- What stands for characters that are left out. -/
def dots : List Char → List Char
  | [] => []
  | _ :: _ => ['.', '.', '.']

/-- The text shows the line around the place, up to `reach` characters on either side of it, and the
character at the place stands in the column. -/
structure Shows (code : List Char) (place : Nat) (text : List Char) (column : Nat) : Prop where
  window : text = dots (code.take (place - Error.reach)) ++
    ((code.take (min code.length (place + Error.reach))).drop (place - Error.reach) ++
      dots (code.drop (place + Error.reach)))
  ahead : text.take column =
    dots (code.take (place - Error.reach)) ++ (code.take place).drop (place - Error.reach)
  behind : text.drop column =
    (code.drop place).take Error.reach ++ dots (code.drop (place + Error.reach))

variable {code text : List Char} {place column : Nat}

theorem take_clipped (code : List Char) (stop : Nat) :
    code.take (min code.length stop) = code.take stop :=
  List.take_eq_take_iff.2 (by omega)

/-- The window falls into the characters before the place and those from it on. -/
theorem window_split (inside : place ≤ code.length) :
    (code.take (min code.length (place + Error.reach))).drop (place - Error.reach) =
      (code.take place).drop (place - Error.reach) ++ (code.drop place).take Error.reach := by
  have short : place - Error.reach ≤ (code.take place).length := by
    rw [List.length_take]
    omega
  rw [take_clipped, List.take_add, List.drop_append_of_le_length short]

theorem Shows.here (shows : Shows code place text column) (inside : place < code.length) :
    text[column]? = code[place]? := by
  calc text[column]? = (text.drop column)[0]? := by simp
    _ = (code.drop place)[0]? := by
      rw [shows.behind, List.getElem?_append_left, List.getElem?_take_of_lt (by decide)]
      simp only [List.length_take, List.length_drop, Error.reach]
      omega
    _ = code[place]? := by simp

namespace Error

theorem ofList_dots {hidden : List Char} {cut : Prop} [Decidable cut]
    (left : cut ↔ hidden ≠ []) : (if cut then "..." else "") = String.ofList (dots hidden) := by
  cases hidden <;> simp [left, dots]

/-- An excerpt is a text that shows the line around the place, and a caret in its column. -/
theorem excerpt_shows (inside : place ≤ code.length) :
    ∃ text column, excerpt code place = [String.ofList text, blanks column ++ "^"] ∧
      Shows code place text column := by
  have before : (if 0 < place - reach then "..." else "") =
      String.ofList (dots (code.take (place - reach))) := by
    apply ofList_dots
    rw [← List.length_pos_iff, List.length_take]
    omega
  have after : (if min code.length (place + reach) < code.length then "..." else "") =
      String.ofList (dots (code.drop (place + reach))) := by
    apply ofList_dots
    rw [← List.length_pos_iff, List.length_drop]
    omega
  -- The text up to the column, and from it on.
  have split : dots (code.take (place - reach)) ++
      ((code.take (min code.length (place + reach))).drop (place - reach) ++
        dots (code.drop (place + reach))) =
      (dots (code.take (place - reach)) ++ (code.take place).drop (place - reach)) ++
        ((code.drop place).take reach ++ dots (code.drop (place + reach))) := by
    rw [window_split inside]
    simp only [List.append_assoc]
  have width : place - (place - reach) + (dots (code.take (place - reach))).length =
      (dots (code.take (place - reach)) ++ (code.take place).drop (place - reach)).length := by
    rw [List.length_append, List.length_drop, List.length_take]
    omega
  refine ⟨_, place - (place - reach) + (dots (code.take (place - reach))).length, ?_, rfl, ?_, ?_⟩
  · simp only [excerpt, before, after, String.length_ofList, String.ofList_append,
      String.append_assoc]
  · rw [split, width, List.take_left]
  · rw [split, width, List.drop_left]

theorem newline_not_mem_dots (hidden : List Char) : '\n' ∉ dots hidden := by
  cases hidden <;> simp [dots]

theorem newline_not_mem_reason (e : Error) : '\n' ∉ e.reason.toList := by
  unfold reason
  split <;> simp [Text.newline_not_mem_quoted]

/-- The error of an unbroken line has three lines, and the caret is alone in the last. -/
theorem message_lines {e : Error} (unbroken : '\n' ∉ e.code.toList)
    (inside : e.position ≤ e.code.toList.length) :
    ∃ text column, e.message.toList.splitOn '\n' =
        [("[Tokenizer error] " ++ e.reason).toList, text, List.replicate column ' ' ++ ['^']] ∧
      Shows e.code.toList e.position text column := by
  obtain ⟨text, column, lines, shows⟩ := excerpt_shows inside
  have first : '\n' ∉ ("[Tokenizer error] " ++ e.reason).toList := by
    simp [newline_not_mem_reason]
  have shown : '\n' ∉ (String.ofList text).toList := by
    rw [String.toList_ofList, shows.window]
    simp only [List.mem_append, newline_not_mem_dots, false_or, or_false]
    exact fun member => unbroken (List.mem_of_mem_take (List.mem_of_mem_drop member))
  refine ⟨text, column, ?_, shows⟩
  rw [message, lines, caret_lines first shown, String.toList_ofList]

end Error

/-- The caret of a token error is under the first character of the refused token, which the window
around it shows from there on. -/
theorem tokenize_error_caret {line : Int} {code : String} (unbroken : '\n' ∉ code.toList)
    (refused : tokenize line code = .error (.token e)) :
    ∃ raw ∈ scan line code, ¬ raw.Regular ∧ Offends code raw e ∧
      ∃ text column, e.message.toList.splitOn '\n' =
          [("[Tokenizer error] " ++ e.reason).toList, text, List.replicate column ' ' ++ ['^']] ∧
        Shows code.toList e.position text column ∧
        text[column]? = code.toList[e.position]? ∧
        raw.lexeme.toList.take Error.reach <+: text.drop column := by
  have decided := verdict line code
  rw [refused] at decided
  cases decided with
  | @offended raw _ member irregular _ offends =>
    have stands := (scanFrom_exhausts line code.toList).stands raw member
    obtain ⟨c, first, _⟩ := stands.char stands.covers_position
    have inside : e.position < code.toList.length := by
      rw [offends.position]
      exact (List.getElem?_eq_some_iff.1 first).1
    obtain ⟨text, column, lines, shows⟩ :=
      Error.message_lines (offends.code ▸ unbroken) (offends.code ▸ inside.le)
    rw [offends.code] at shows
    refine ⟨raw, member, irregular, offends, text, column, lines, shows, shows.here inside, ?_⟩
    have start : raw.lexeme.toList.take Error.reach =
        ((code.toList.drop e.position).take Error.reach).take raw.lexeme.length := by
      rw [stands.quoted, ← offends.position, List.take_take, List.take_take, Nat.min_comm]
    rw [start, shows.behind]
    exact (List.take_prefix _ _).trans (List.prefix_append _ _)

/-- A long word far inside a line is shown in part, between dots on both sides. -/
theorem tokenize_error_caret_inside :
    '\n' ∉ "12 + 34 * 5678 - logarithmic 9".toList ∧
    tokenize 1 "12 + 34 * 5678 - logarithmic 9" = .error (.token
      ⟨.unknownWord "logarithmic", "12 + 34 * 5678 - logarithmic 9", 17⟩) ∧
    ∃ first, (Error.message
        ⟨.unknownWord "logarithmic", "12 + 34 * 5678 - logarithmic 9", 17⟩).toList.splitOn '\n' =
      [first, "... * 5678 - logarithmi...".toList, List.replicate 13 ' ' ++ ['^']] := by
  have unbroken : '\n' ∉ "12 + 34 * 5678 - logarithmic 9".toList := by decide
  have refused : tokenize 1 "12 + 34 * 5678 - logarithmic 9" = .error (.token
      ⟨.unknownWord "logarithmic", "12 + 34 * 5678 - logarithmic 9", 17⟩) := by decide +kernel
  obtain ⟨_, _, _, _, text, column, lines, shows, _⟩ := tokenize_error_caret unbroken refused
  obtain rfl : text = "... * 5678 - logarithmi...".toList := shows.window.trans (by decide)
  obtain rfl : column = 13 := by
    have width : ("... * 5678 - logarithmi...".toList.take column).length = 13 := by
      rw [shows.ahead]
      decide
    have known : ("... * 5678 - logarithmi...".toList).length = 26 := by decide
    rw [List.length_take] at width
    omega
  exact ⟨unbroken, refused, _, lines⟩

end Reckon.Token

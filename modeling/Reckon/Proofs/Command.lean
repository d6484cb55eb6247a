import Reckon.Proofs.Lexemes
import Reckon.Proofs.Precision
import Reckon.Session

/-! Command lines taken apart. The first word behind `fp=` ends at a blank or with the line, so
there is one way to divide what follows the sign. What is left behind the word begins with a blank
and so is no command itself: the line comes to what its two parts come to one after the other. -/
namespace Reckon

theorem Literal.integer_empty : Literal.integer "" = .error (.invalidInteger "") := rfl

namespace Command
open Text (isBlank)

/-- The line asks for so many digits: blanks behind the sign, then a word that is read as their
number, and what is left begins with a blank if there is any of it. -/
structure Asks (line gap word left : String) (digits : Int) : Prop where
  whole : line = "fp=" ++ gap ++ word ++ left
  gap : ∀ c ∈ gap.toList, isBlank c = true
  given : word ≠ ""
  solid : ∀ c ∈ word.toList, isBlank c = false
  apart : ∀ c, left.toList.head? = some c → isBlank c = true
  number : Literal.integer word = .ok digits
  positive : 1 ≤ digits

/-- What a command line comes to while a precision is in force. -/
inductive Decoded (current : Precision) (line : String) : Command → Prop where
  | set : Asks line gap word left digits → Decoded current line {
      precision := some digits
      messages := ["Setting precision to " ++ String.ofList (Digits.ofInt digits)]
      rest := if left.toList.all isBlank then none else some left }
  | reset : (∀ gap word left digits, ¬ Asks line gap word left digits) → Decoded current line {
      precision := none
      messages := "Couldn't find valid fixed precision value" ::
        if current.isSome then ["Resetting precision"] else []
      rest := none }

variable {current : Precision} {line gap word left : String} {digits : Int}

theorem read?_of_begins {argument : List Char} (begins : line.toList = "fp=".toList ++ argument)
    (current : Precision) : read? current line = some (ofArgument current argument) := by
  simp [read?, begins]

/-- The pieces of a line that asks for digits are the ones that the command goes by. -/
theorem Asks.read (asks : Asks line gap word left digits) (current : Precision) :
    read? current line = some (set digits left.toList) := by
  have begins : line.toList = "fp=".toList ++ (gap.toList ++ (word.toList ++ left.toList)) := by
    simp [asks.whole]
  have first : ∀ c, (word.toList ++ left.toList).head? = some c → isBlank c = false := by
    have given : word.toList ≠ [] := by simpa using asks.given
    obtain ⟨c, cs, split⟩ := List.exists_cons_of_ne_nil given
    intro d head
    obtain rfl : c = d := by simpa [split] using head
    exact asks.solid c (by simp [split])
  have start := (Numeral.span_run asks.gap first).2
  obtain ⟨taken, dropped⟩ :
      (word.toList ++ left.toList).takeWhile (!isBlank ·) = word.toList ∧
        (word.toList ++ left.toList).dropWhile (!isBlank ·) = left.toList :=
    Numeral.span_run (by simpa using asks.solid) (by simpa using asks.apart)
  have number : Precision.read word = some digits :=
    Precision.read_eq_some_iff.2 ⟨asks.number, asks.positive⟩
  rw [read?_of_begins begins, ofArgument]
  simp only [start, taken, dropped, String.ofList_toList, number]

/-- Where the first word of the argument is read as a number of digits, the line asks for it. -/
theorem asks_of_read {argument : List Char} (begins : line.toList = "fp=".toList ++ argument)
    (asked : Precision.read (String.ofList
      ((argument.dropWhile isBlank).takeWhile (!isBlank ·))) = some digits) :
    Asks line (String.ofList (argument.takeWhile isBlank))
      (String.ofList ((argument.dropWhile isBlank).takeWhile (!isBlank ·)))
      (String.ofList ((argument.dropWhile isBlank).dropWhile (!isBlank ·))) digits := by
  obtain ⟨number, positive⟩ := Precision.read_eq_some_iff.1 asked
  refine ⟨?_, ?_, ?_, ?_, ?_, number, positive⟩
  · apply String.toList_injective
    simp [begins]
  · simpa using Token.takeWhile_all isBlank argument
  · intro empty
    rw [empty, Literal.integer_empty] at number
    cases number
  · simpa using Token.takeWhile_all (!isBlank ·) (argument.dropWhile isBlank)
  · simpa using Token.head_dropWhile (!isBlank ·) (argument.dropWhile isBlank)

theorem ofArgument_decoded {argument : List Char}
    (begins : line.toList = "fp=".toList ++ argument) (current : Precision) :
    Decoded current line (ofArgument current argument) := by
  rw [ofArgument]
  split
  case h_1 digits asked =>
    have asks := asks_of_read begins asked
    have decoded : Decoded current line _ := .set asks
    simpa [set] using decoded
  case h_2 refused =>
    refine .reset fun gap word left digits asks => ?_
    have same := (read?_of_begins begins current).symm.trans (asks.read current)
    have asked := congrArg (Option.map Command.precision) same
    simp [ofArgument, refused, reset, set] at asked

theorem written_unsigned (positive : 1 ≤ digits) :
    Digits.ofInt digits = Digits.ofNat digits.natAbs := by
  rw [Digits.ofInt, if_neg (by omega)]

theorem written_solid (positive : 1 ≤ digits) :
    ∀ c ∈ Digits.ofInt digits, isBlank c = false := by
  intro c member
  rw [written_unsigned positive] at member
  have digit := Numeral.ofNat_digits digits.natAbs c member
  have numeric := Token.isNumeric_of_isDigit digit
  exact Token.isBlank_of_isAccepted (Token.isAccepted_iff.2 ⟨.number, numeric⟩)

/-- A number in its written form is asked for, as long as its digits are no more than are read. -/
theorem asks_written (positive : 1 ≤ digits)
    (short : (Digits.ofInt digits).length ≤ maxIntegerDigits)
    (blank : ∀ c ∈ gap.toList, isBlank c = true)
    (apart : ∀ c, left.toList.head? = some c → isBlank c = true) :
    Asks ("fp=" ++ gap ++ String.ofList (Digits.ofInt digits) ++ left) gap
      (String.ofList (Digits.ofInt digits)) left digits where
  whole := rfl
  gap := blank
  given := by simp [written_unsigned positive, Numeral.ofNat_ne_nil]
  solid := by simpa using written_solid positive
  apart := apart
  number := Numeral.integer_ofInt (written_unsigned positive ▸ short)
  positive := positive

/-- A number of digits written behind `fp=` comes into force, and every line with `fp=` in front of
it comes to what it asks for, or resets the precision if it asks for nothing. -/
theorem read?_decodes (current : Precision) :
    (∀ (digits : Int) (gap left : String), 1 ≤ digits →
      (Digits.ofInt digits).length ≤ maxIntegerDigits →
      (∀ c ∈ gap.toList, isBlank c = true) →
      (∀ c, left.toList.head? = some c → isBlank c = true) →
      read? current ("fp=" ++ gap ++ String.ofList (Digits.ofInt digits) ++ left) = some {
        precision := some digits
        messages := ["Setting precision to " ++ String.ofList (Digits.ofInt digits)]
        rest := if left.toList.all isBlank then none else some left }) ∧
    ∀ line : String, "fp=".toList <+: line.toList →
      ∃ command, read? current line = some command ∧ Decoded current line command := by
  constructor
  · intro digits gap left positive short blank apart
    rw [(asks_written positive short blank apart).read current, set, String.ofList_toList]
  · rintro line ⟨argument, whole⟩
    exact ⟨_, read?_of_begins whole.symm current, ofArgument_decoded whole.symm current⟩

/-- What is left of the first line is kept with its blank, and the second has no number for a first
word. -/
theorem read?_decodes_glued :
    read? none "fp=\t12 1.5" = some {
      precision := some 12
      messages := ["Setting precision to 12"]
      rest := some " 1.5" } ∧
    ∃ command, read? (some 2) "fp=3+1" = some command ∧ Decoded (some 2) "fp=3+1" command ∧
      command = {
        precision := none
        messages := ["Couldn't find valid fixed precision value", "Resetting precision"]
        rest := none } := by
  obtain ⟨encodes, _⟩ := read?_decodes none
  obtain ⟨_, decodes⟩ := read?_decodes (some 2)
  have tab : ∀ c ∈ "\t".toList, isBlank c = true := List.forall_mem_singleton.2 (by decide)
  have space : ∀ c, " 1.5".toList.head? = some c → isBlank c = true := by
    rintro _ ⟨⟩
    decide
  have twelve := encodes 12 "\t" " 1.5" (by decide) (by decide) tab space
  obtain ⟨command, read, decoded⟩ := decodes "fp=3+1" (by decide)
  have known : read? (some 2) "fp=3+1" = some {
      precision := none
      messages := ["Couldn't find valid fixed precision value", "Resetting precision"]
      rest := none } := by decide +kernel
  exact ⟨twelve, command, read, decoded, Option.some.inj (read.symm.trans known)⟩

theorem decoded_of_read? (read : read? current line = some command) :
    Decoded current line command := by
  rw [read?] at read
  split at read
  case h_1 argument begins =>
    obtain rfl := Option.some.inj read
    exact ofArgument_decoded (by simpa using begins) current
  case h_2 => cases read

/-- The line without what is left behind its word asks for the same. -/
theorem Asks.head (asks : Asks line gap word left digits) :
    Asks ("fp=" ++ gap ++ word) gap word "" digits :=
  { asks with whole := by simp, apart := by simp }

/-- A blank is in front of what is left, so it is no command. -/
theorem read?_left (apart : ∀ c, left.toList.head? = some c → isBlank c = true)
    (current : Precision) : read? current left = none := by
  rw [read?]
  split
  case h_1 argument begins =>
    have blank : isBlank 'f' = true := apart 'f' (by simp [begins])
    exact absurd blank (by decide)
  case h_2 => rfl

end Command

namespace Session

/-- A line with something left behind its command comes to what the command and then the rest of
the line come to as two lines, and that rest is never taken as a command. -/
theorem handle_resumed (read : Command.read? precision line = some command)
    (resumes : command.rest = some code) :
    ∃ head first second, line = head ++ code ∧ run precision [head, code] = [first, second] ∧
      (handle precision line).precision = second.precision ∧
      first.output = .ok command.messages ∧
      (handle precision line).output = second.output.map (command.messages ++ ·) ∧
      ∀ current, Command.read? current code = none := by
  cases Command.decoded_of_read? read with
  | reset => cases resumes
  | @set gap word left digits asks =>
    obtain ⟨more, rfl⟩ : left.toList.all Text.isBlank ≠ true ∧ left = code := by simpa using resumes
    have plain := Command.read?_left asks.apart
    have first : handle precision ("fp=" ++ gap ++ word) =
        ⟨some digits, .ok ["Setting precision to " ++ String.ofList (Digits.ofInt digits)]⟩ := by
      rw [handle, asks.head.read]
      rfl
    have second : handle (some digits) left = ⟨some digits, answer (some digits) left⟩ := by
      rw [handle, plain]
    have both : handle precision line = ⟨some digits, (answer (some digits) left).map
        (["Setting precision to " ++ String.ofList (Digits.ofInt digits)] ++ ·)⟩ := by
      simp only [handle, read, if_neg more]
    refine ⟨"fp=" ++ gap ++ word, _, _, asks.whole, rfl, ?_, ?_, ?_, plain⟩
    · rw [first, second, both]
    · rw [first]
    · rw [first, second, both]

/-- The second command is no command any more, and its word is refused. -/
theorem handle_resumed_twice :
    Command.read? none "fp=2 fp=3 1" =
      some ⟨some 2, ["Setting precision to 2"], some " fp=3 1"⟩ ∧
    ∃ head first second, "fp=2 fp=3 1" = head ++ " fp=3 1" ∧
      run none [head, " fp=3 1"] = [first, second] ∧
      (handle none "fp=2 fp=3 1").precision = second.precision ∧
      first.output = .ok ["Setting precision to 2"] ∧
      (handle none "fp=2 fp=3 1").output =
        second.output.map (["Setting precision to 2"] ++ ·) ∧
      ∀ current, Command.read? current " fp=3 1" = none := by
  have read : Command.read? none "fp=2 fp=3 1" =
      some ⟨some 2, ["Setting precision to 2"], some " fp=3 1"⟩ := by decide +kernel
  exact ⟨read, handle_resumed read rfl⟩

end Session
end Reckon

import Reckon.Options
import Reckon.Session

/-! The interactive program as a function from its arguments, its environment and its input to
what it prints. -/
namespace Reckon.Console

def banner : String :=
  "Set floating point precision by writing 'fp=\x7binteger\x7d' at the start of the line"

def prompt : String := "> "

/-- The parts of the environment that the program looks at. -/
structure Environment where
  precision : Option String := none
  logLevel : Option String := none

/-- The precision that the environment asks for; a text that is no precision counts for nothing. -/
def Environment.initial (environment : Environment) : Precision :=
  environment.precision.bind Precision.read

def knownLevels : List String :=
  ["CRITICAL", "FATAL", "ERROR", "WARN", "WARNING", "INFO", "DEBUG", "NOTSET"]

inductive Opening where
  | session (precision : Precision) (quiet : Bool)
  | help
  | misuse
  deriving DecidableEq

/-- How the program starts. The option for the precision outweighs the environment. -/
def start (arguments : List String) (environment : Environment) : Except Fault Opening :=
  match Options.read { logLevel := environment.logLevel.getD "WARNING" } arguments with
  | .help => .ok .help
  | .misuse => .ok .misuse
  | .start options =>
    if !knownLevels.contains options.logLevel then .error (.unknownLogLevel options.logLevel)
    else match options.digits with
      | none => .ok (.session environment.initial options.quiet)
      | some digits =>
        if digits ≤ 0 then .ok .misuse else .ok (.session (some digits) options.quiet)

structure Transcript where
  output : String
  exitCode : Nat
  deriving DecidableEq

def isInLine (c : Char) : Bool := c != '\n'

/-- The lines of a text; the last one need not be ended. -/
def lines (cs : List Char) : List String :=
  match cs with
  | [] => []
  | c :: rest =>
    String.ofList ((c :: rest).takeWhile isInLine) ::
      lines (((c :: rest).dropWhile isInLine).drop 1)
termination_by cs.length
decreasing_by
  have := (List.dropWhile_sublist isInLine (l := c :: rest)).length_le
  simp only [List.length_drop, List.length_cons] at this ⊢
  omega

def block (texts : List String) : String := String.join (texts.map (· ++ "\n"))

/-- Prompts and outputs for the lines of input, up to the prompt that the end of input answers. -/
def converse (precision : Precision) : List String → Except Fault String
  | [] => .ok (prompt ++ "\n")
  | line :: rest => do
    let turn := Session.handle precision line
    let output ← turn.output
    return prompt ++ block output ++ (← converse turn.precision rest)

def run (arguments : List String) (environment : Environment) (input : String) :
    Except Fault Transcript := do
  match ← start arguments environment with
  | .help => return ⟨Options.help, 0⟩
  | .misuse => return ⟨"", 2⟩
  | .session precision quiet =>
    let conversation ← converse precision (lines input.toList)
    return ⟨(if quiet then "" else banner ++ "\n") ++ conversation, 0⟩

end Reckon.Console

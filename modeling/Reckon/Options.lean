import Reckon.Literal
import Reckon.Text.Digit

/-! Command-line options. Long names may be cut short where that leaves no doubt, a value follows
its setting or an equals sign, and short switches may be written together. -/
namespace Reckon

structure Options where
  digits : Option Int := none
  logLevel : String := "WARNING"
  quiet : Bool := false
  deriving DecidableEq

namespace Options

inductive Switch where
  | help
  | quiet
  deriving DecidableEq

inductive Setting where
  | digits
  | logLevel
  deriving DecidableEq

inductive Name where
  | switch (switch : Switch)
  | setting (setting : Setting)
  deriving DecidableEq

def names : List (String × Name) := [
  ("-h", .switch .help), ("--help", .switch .help), ("--fp", .setting .digits),
  ("--log-level", .setting .logLevel), ("-q", .switch .quiet), ("--quiet", .switch .quiet)]

def named? (name : String) : Option Name := names.lookup name

/-- One argument by its looks. Switches written together may run into a `stray` one that has no
name; a switch with a value of its own is `refused`. -/
inductive Piece where
  | switches (switches : List Switch) (stray : Bool)
  | setting (setting : Setting) (attached : Option String)
  | refused
  | value (text : String)
  | separator
  | unknown
  | ambiguous

/-- A name written in full or cut short, with the text after its equals sign. -/
def Piece.ofName (name : Name) (attached : Option String) : Piece :=
  match name, attached with
  | .switch one, none => .switches [one] false
  | .switch _, some _ => .refused
  | .setting one, attached => .setting one attached

/-- Digits with a point before the last of them at most, and perhaps a line end. -/
def isNumber (text : List Char) : Bool :=
  let cs := if text.getLast? = some '\n' then text.dropLast else text
  let whole := cs.takeWhile Text.isDecimal
  match cs.dropWhile Text.isDecimal with
  | [] => !whole.isEmpty
  | '.' :: fraction => !fraction.isEmpty && fraction.all Text.isDecimal
  | _ => false

/-- What looks like an option and is none: a negative number and a text with a blank are values. -/
def unnamed (cs : List Char) : Piece :=
  if isNumber (cs.drop 1) || cs.contains ' ' then .value (String.ofList cs) else .unknown

/-- A long name cut short, if only one begins so. -/
def abbreviated (cs name : List Char) (attached : Option String) : Piece :=
  match names.filter fun known => name.isPrefixOf known.1.toList with
  | [] => unnamed cs
  | [(_, found)] => .ofName found attached
  | _ => .ambiguous

/-- The switches of one letter each that follow a switch, up to a letter without a meaning. -/
def together : List Char → Option (List Switch × Bool)
  | [] => some ([], false)
  | c :: cs =>
    if c = '-' || c = '=' then none
    else match named? (String.ofList ['-', c]) with
      | some (.switch switch) => (together cs).map fun found => (switch :: found.1, found.2)
      | _ => some ([], true)

def clustered (cs : List Char) : Piece :=
  match cs with
  | '-' :: letter :: rest =>
    match named? (String.ofList ['-', letter]), together rest with
    | some (.switch switch), some (switches, stray) => .switches (switch :: switches) stray
    | some _, _ => .refused
    | none, _ => unnamed cs
  | _ => unnamed cs

def classify (argument : String) : Piece :=
  let cs := argument.toList
  match cs with
  | '-' :: second :: _ =>
    let name := cs.takeWhile (· != '=')
    let attached : Option String := match cs.dropWhile (· != '=') with
      | _ :: text => some (String.ofList text)
      | [] => none
    match named? (String.ofList name) with
    | some found => .ofName found attached
    | none => if second = '-' then abbreviated cs name attached else clustered cs
  | _ => .value argument

/-- After a separator everything is a value. -/
def pieces : List String → List Piece
  | [] => []
  | "--" :: arguments => .separator :: arguments.map .value
  | argument :: arguments => classify argument :: pieces arguments

inductive Outcome where
  | start (options : Options)
  | help
  | misuse
  deriving DecidableEq

def logLevels : List String := ["DEBUG", "INFO", "WARNING", "ERROR"]

/-- The options with the value of a setting, unless it cannot be its value. -/
def assign? (options : Options) (text : String) : Setting → Option Options
  | .digits =>
    match Literal.integer text with
    | .ok n => some { options with digits := some n }
    | .error _ => none
  | .logLevel => if logLevels.contains text then some { options with logLevel := text } else none

/-- Reads the pieces in order; `stray` tells that one was no part of any option. A setting takes
its value from the piece right behind it, and no separator belongs to an option. Help is given as
soon as it is asked for. -/
def interpret (options : Options) (stray : Bool) : List Piece → Outcome
  | [] => if stray then .misuse else .start options
  | .value _ :: rest => interpret options true rest
  | .separator :: rest => interpret options true rest
  | .unknown :: rest => interpret options true rest
  | .ambiguous :: _ => .misuse
  | .refused :: _ => .misuse
  | .switches switches more :: rest =>
    if switches.contains .help then .help
    else interpret { options with quiet := true } (stray || more) rest
  | .setting setting (some text) :: rest =>
    match assign? options text setting with
    | some options => interpret options stray rest
    | none => .misuse
  | .setting setting none :: .value text :: rest =>
    match assign? options text setting with
    | some options => interpret options stray rest
    | none => .misuse
  | .setting _ none :: _ => .misuse

/-- A doubtful abbreviation is misuse wherever it stands. -/
def read (defaults : Options) (arguments : List String) : Outcome :=
  let all := pieces arguments
  if all.any fun | .ambiguous => true | _ => false then .misuse
  else interpret defaults false all

/-- A piece that is no part of an option is remembered to the end, where it is misuse. -/
theorem interpret_start {options : Options} {stray : Bool} {all : List Piece}
    (started : interpret options stray all = .start chosen) :
    stray = false ∧ .separator ∉ all := by
  -- Over the pieces: where reading goes on after a stray one, the rest cannot start the program.
  fun_induction interpret with
  | case2 _ _ settled => simpa using settled
  | case3 _ _ _ rest ih | case4 _ _ rest ih | case5 _ _ rest ih => cases (ih started).1
  | case9 _ stray switches more rest _ ih =>
    obtain ⟨clean, absent⟩ := ih started
    exact ⟨(Bool.or_eq_false_iff.1 clean).1, by simp [absent]⟩
  | case10 _ stray setting text rest options assigned ih
  | case12 _ stray setting text rest options assigned ih =>
    obtain ⟨clean, absent⟩ := ih started
    simp [clean, absent]
  | _ => cases started

theorem separator_mem_pieces {arguments : List String} (separated : "--" ∈ arguments) :
    .separator ∈ pieces arguments := by
  fun_induction pieces with
  | case1 => cases separated
  | case2 arguments => exact List.mem_cons_self
  | case3 argument arguments other ih =>
    refine List.mem_cons_of_mem _ (ih ?_)
    simpa [Ne.symm other] using separated

/-- A program that starts was given no separator, neither between its options nor beside a value. -/
theorem read_start (started : read defaults arguments = .start chosen) : "--" ∉ arguments := by
  intro separated
  simp only [read] at started
  split at started
  · cases started
  · exact (interpret_start started).2 (separator_mem_pieces separated)

/-- What `--help` shows. -/
def help : String := "\n".intercalate [
  "usage: calculator [-h] [--fp FP] [--log-level \x7bDEBUG,INFO,WARNING,ERROR\x7d] [-q]",
  "",
  "arithmetic expression evaluator",
  "",
  "options:",
  "  -h, --help            show this help message and exit",
  "  --fp FP               initial fixed decimal precision",
  "  --log-level \x7bDEBUG,INFO,WARNING,ERROR\x7d",
  "                        logging verbosity",
  "  -q, --quiet           don't print initial banner",
  ""]

end Options
end Reckon

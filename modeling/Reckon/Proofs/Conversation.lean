import Reckon.Console
import Reckon.Proofs.Modular
import Reckon.Proofs.Survival

/-! The conversation as a function of its lines. All that a line leaves to the next ones is the
precision, and only a command changes it, so the last command before a line decides under which
precision the line is answered. -/
namespace Reckon

namespace Command
open Text (isBlank)

/-- The first word of what follows `fp=`. -/
def word (line : String) : String :=
  String.ofList (((line.toList.drop 3).dropWhile isBlank).takeWhile (!isBlank ·))

/-- The precision that a command asks for: a positive integer, or none if its first word says no
such number. Other lines ask for nothing. -/
def asked? (line : String) : Option Precision :=
  if line.toList.take 3 = ['f', 'p', '='] then some (Precision.read (word line)) else none

end Command

namespace Session
open Command (asked?)

/-- The precision that the last command among the lines asks for, or the one before them all. -/
def decided (initial : Precision) (lines : List String) : Precision :=
  (lines.filterMap asked?).getLastD initial

end Session

namespace Console
open Command (asked?)
open Session (handle decided)

end Console
end Reckon

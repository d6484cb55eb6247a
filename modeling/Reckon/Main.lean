import Reckon.Console

/-! The command line. -/
namespace Reckon.Main

partial def converse (precision : Precision) : IO UInt32 := do
  let input ← IO.getStdin
  let output ← IO.getStdout
  output.putStr Console.prompt
  output.flush
  let line ← input.getLine
  if line.isEmpty then
    output.putStrLn ""
    return 0
  let turn := Session.handle precision (String.ofList (line.toList.takeWhile Console.isInLine))
  match turn.output with
  | .error f =>
    (← IO.getStderr).putStrLn f.message
    return 1
  | .ok texts =>
    output.putStr (Console.block texts)
    converse turn.precision

end Reckon.Main

def main (arguments : List String) : IO UInt32 := do
  let environment : Reckon.Console.Environment :=
    ⟨← IO.getEnv "CALCULATOR_PRECISION", ← IO.getEnv "CALCULATOR_LOG_LEVEL"⟩
  match Reckon.Console.start arguments environment with
  | .error f =>
    (← IO.getStderr).putStrLn f.message
    return 1
  | .ok .help =>
    IO.print Reckon.Options.help
    return 0
  | .ok .misuse =>
    (← IO.getStderr).putStr Reckon.Options.help
    return 2
  | .ok (.session precision quiet) =>
    unless quiet do IO.println Reckon.Console.banner
    Reckon.Main.converse precision

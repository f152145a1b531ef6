import MathMarkup.CommandLine

/-!
# The program
-/

def main (arguments : List String) : IO UInt32 := do
  let outcome := MathMarkup.CommandLine.run arguments
  IO.print outcome.output
  IO.eprint outcome.errors
  return outcome.exitCode.toUInt32

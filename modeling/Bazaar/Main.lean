import Bazaar.Cli.Schema

/-!
# The schema tool's entry point

Prints what the schema tool writes and ends with its exit status.
-/

/-- Runs the schema tool on the process arguments. -/
def main (args : List String) : IO UInt32 := do
  let outcome := Bazaar.Cli.runSchemaTool args
  IO.print outcome.stdout
  IO.eprint outcome.stderr
  return outcome.exitCode.toUInt32

import Bazaar.Cli.Arguments

/-!
# The schema tool

The database schema tool creates or drops the marketplace's tables. The store keeps everything in
memory, where there are no tables, so each command reports its progress and is done.
-/

namespace Bazaar

namespace Cli

/-- The schema tool's interface. -/
def schemaTool : Interface :=
  { prog := "manage.py", description := "Marketplace database management", dest := "command",
    subcommands := [⟨"setup-db", "Create all database tables"⟩, ⟨"drop-db", "Drop all database tables"⟩] }

/-- The progress lines of a command. -/
def progress (command : String) : String :=
  let action := if command == "drop-db" then "Dropping" else "Creating"
  "Initializing marketplace domain...\n" ++ action ++ " marketplace database schema...\nDone.\n"

/-- Runs the schema tool on its arguments. -/
def runSchemaTool (args : List String) : Outcome :=
  let reading := schemaTool.read args
  match schemaTool.stopOutcome reading with
  | some outcome => outcome
  | none =>
    match reading with
    | .run command => ⟨0, progress command, ""⟩
    | _ => ⟨1, "", ""⟩

end Cli

end Bazaar

import Bazaar.Json.Writer

/-!
# Reading a command line

A command-line interface with a help flag (`-h`, `--help`) and one required subcommand, each
subcommand having only its own help flag. Reading follows the usual rules of such tools:

* an argument starting with `-` is an option, unless it is `-` alone, looks like a negative number,
  or holds a space; `--help` may be shortened to any prefix of at least `--`, and `-h` may carry more
  single-letter flags (`-hh`); any other value given to the help flag, glued or with `=`, is an
  error, found before the help is printed;
* everything after `--` is positional; the first positional names the subcommand, which takes every
  argument after it;
* options that are not known are collected, as are arguments that nothing takes, and reported
  together once the subcommand is read;
* the help flag prints help at once and ends with success; an error prints the usage line and the
  message to the error stream and ends with status 2.
-/

namespace Bazaar

namespace Cli

/-- The result of running a command line: exit status and the texts written to the two streams. -/
structure Outcome where
  exitCode : Nat
  stdout : String
  stderr : String

/-- A subcommand, with the line that describes it in help. -/
structure Subcommand where
  name : String
  help : String

/-- A command-line interface: program name, description, the name under which the subcommand is
reported, and the subcommands. -/
structure Interface where
  prog : String
  description : String
  dest : String
  subcommands : List Subcommand

/-- How one argument reads. -/
inductive Token where
  | positional
  /-- The help flag, under the option string that matched, with its `=` or glued value. -/
  | helpFlag (optionString : String) (explicit : Option String)
  | unknownOption

/-- Whether an argument looks like a negative number: `-` and digits, possibly with a point. -/
def looksNegative (arg : String) : Bool :=
  match arg.toList with
  | '-' :: rest =>
    let intPart := rest.takeWhile Char.isDigit
    let after := rest.dropWhile Char.isDigit
    match after with
    | [] => !intPart.isEmpty
    | '.' :: frac => !frac.isEmpty && frac.all Char.isDigit
    | _ => false
  | _ => false

/-- Reads one argument (before any `--`). -/
def classify (arg : String) : Token :=
  let cs := arg.toList
  match cs with
  | [] => .positional
  | c :: _ =>
    if c != '-' then .positional
    else if arg == "-h" || arg == "--help" then .helpFlag arg none
    else if cs.length == 1 then .positional
    else
      let before := String.ofList (cs.takeWhile (· != '='))
      let hasEq := cs.contains '='
      let after := String.ofList ((cs.dropWhile (· != '=')).drop 1)
      if hasEq && (before == "-h" || before == "--help") then .helpFlag before (some after)
      else
        match cs with
        | '-' :: '-' :: _ =>
          if ("--help".toList).take before.length == before.toList then
            .helpFlag "--help" (if hasEq then some after else none)
          else if looksNegative arg then .positional
          else if cs.contains ' ' then .positional
          else .unknownOption
        | _ =>
          if cs.take 2 == ['-', 'h'] then .helpFlag "-h" (some (String.ofList (cs.drop 2)))
          else if looksNegative arg then .positional
          else if cs.contains ' ' then .positional
          else .unknownOption

/-- The arguments with their readings; after `--` every argument is positional, and the `--`
itself is marked as a separator. -/
inductive Slot where
  | separator
  | arg (token : Token)

/-- Reads all arguments. -/
def slots : List String → List Slot
  | [] => []
  | a :: rest =>
    if a == "--" then .separator :: rest.map (fun _ => .arg .positional)
    else .arg (classify a) :: slots rest

/-- Why reading stopped early. -/
inductive Stop where
  /-- Help was asked for: print it and succeed. -/
  | help
  /-- An error with its message. -/
  | error (msg : String)

/-- The error for a value given to the help flag. -/
def ignoredExplicit (explicit : String) : Stop :=
  .error ("argument -h/--help: ignored explicit argument " ++ Json.literalString explicit)

/-- Reads a help flag with a glued or `=` value. A value given to `--help` is an error. After
`-h`, the value is read as more single-letter flags: each further `h` is the help flag again, and
the first other letter is an error that names the whole value still unread. Reading ends in help
or an error, before any help is printed. -/
def helpWithValue (optionString : String) (explicit : String) : Stop :=
  if (optionString.toList.drop 1).head? == some '-' then ignoredExplicit explicit
  else go explicit.toList
where
  go : List Char → Stop
    | 'h' :: [] => .help
    | 'h' :: rest => go rest
    | ex => ignoredExplicit (String.ofList ex)

/-- What reading a subcommand's arguments gives: help, an error, or the arguments it did not
take. -/
def readSubcommand (args : List String) : Except Stop (List String) :=
  go args (slots args) []
where
  go : List String → List Slot → List String → Except Stop (List String)
    | _ :: _, .arg (.helpFlag opt explicit) :: _, _ =>
      match explicit with
      | none => .error .help
      | some ex =>
        .error (helpWithValue opt ex)
    | a :: rest, .arg .unknownOption :: more, extras => go rest more (extras ++ [a])
    | a :: rest, _ :: more, extras => go rest more (extras ++ [a])
    | _, _, extras => .ok extras

/-- What the reading of a whole command line gives. -/
inductive Reading where
  /-- Print the help of the interface, or of the named subcommand. -/
  | help (subcommand : Option String)
  /-- An error, reported by the interface or by the named subcommand. -/
  | error (subcommand : Option String) (msg : String)
  /-- Run the subcommand. -/
  | run (subcommand : String)

/-- Reads a command line: options before the subcommand, then the subcommand with the rest. -/
def Interface.read (ui : Interface) (args : List String) : Reading :=
  go args (slots args) []
where
  choices : String :=
    ", ".intercalate (ui.subcommands.map (fun s => Json.literalString s.name))
  missing : Reading :=
    .error none ("the following arguments are required: " ++ ui.dest)
  go : List String → List Slot → List String → Reading
    | [], _, _ => missing
    | _ :: _, .arg (.helpFlag opt explicit) :: _, _ =>
      match explicit with
      | none => .help none
      | some ex =>
        match helpWithValue opt ex with
        | .help => .help none
        | .error m => .error none m
    | a :: rest, .arg .unknownOption :: more, extras => go rest more (extras ++ [a])
    | [_], .separator :: _, _ => missing
    | a :: rest, _ :: _, extras =>
      -- the subcommand takes this argument and all after it
      if ui.subcommands.any (fun s => s.name == a) then
        match readSubcommand rest with
        | .error .help => .help (some a)
        | .error (.error m) => .error (some a) m
        | .ok subExtras =>
          let all := extras ++ subExtras
          if all.isEmpty then .run a
          else .error none ("unrecognized arguments: " ++ " ".intercalate all)
      else
        .error none ("argument " ++ ui.dest ++ ": invalid choice: " ++ Json.literalString a ++
          " (choose from " ++ choices ++ ")")
    | _ :: _, [], _ => missing

/-- The usage line of the interface, or of one subcommand. -/
def Interface.usage (ui : Interface) (subcommand : Option String) : String :=
  match subcommand with
  | some s => "usage: " ++ ui.prog ++ " " ++ s ++ " [-h]\n"
  | none =>
    "usage: " ++ ui.prog ++ " [-h] \x7b" ++ ",".intercalate (ui.subcommands.map (·.name)) ++ "\x7d ...\n"

/-- Pads a text with spaces to a width. -/
def padRight (s : String) (width : Nat) : String :=
  s ++ String.ofList (List.replicate (width - s.length) ' ')

/-- The help text. Help lines start in the column two past the longest indented invocation. -/
def Interface.help (ui : Interface) (subcommand : Option String) : String :=
  let flag := "-h, --help"
  let flagHelp := "show this help message and exit"
  match subcommand with
  | some _ =>
    let col := 2 + flag.length + 2
    ui.usage subcommand ++ "\noptions:\n  " ++ padRight flag (col - 2) ++ flagHelp ++ "\n"
  | none =>
    let choiceList := "\x7b" ++ ",".intercalate (ui.subcommands.map (·.name)) ++ "\x7d"
    let widest := ((2 + flag.length) :: (2 + choiceList.length) ::
      ui.subcommands.map (fun s => 4 + s.name.length)).foldl max 0
    let col := min (widest + 2) 24
    let subLines := ui.subcommands.map fun s =>
      "    " ++ padRight s.name (col - 4) ++ s.help ++ "\n"
    ui.usage none ++ "\n" ++ ui.description ++ "\n\npositional arguments:\n  " ++ choiceList ++ "\n" ++
      String.join subLines ++ "\noptions:\n  " ++ padRight flag (col - 2) ++ flagHelp ++ "\n"

/-- The outcome of a reading that does not run a subcommand. -/
def Interface.stopOutcome (ui : Interface) : Reading → Option Outcome
  | .help s => some ⟨0, ui.help s, ""⟩
  | .error s msg =>
    let prog := match s with
      | some name => ui.prog ++ " " ++ name
      | none => ui.prog
    some ⟨2, "", ui.usage s ++ prog ++ ": error: " ++ msg ++ "\n"⟩
  | .run _ => none

end Cli

end Bazaar

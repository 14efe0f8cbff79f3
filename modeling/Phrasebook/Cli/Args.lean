import Phrasebook.Text.Integer
import Phrasebook.Text.Quoted

/-! # The command line

The program takes a command and its arguments: `check` and `report` a workspace root (the
current directory when none is given) and `--json`; `tr` a catalog file or workspace root, a
context and a source text, then the arguments of the text, with `-n`/`--count`,
`--disambiguation`, `--language` and `--unfinished`; `normalize` a file and `--output`. `help`,
no command, or `-h`/`--help` anywhere asks for the usage text; `--log-file` may be given with
any command.

Options are taken out of the arguments first, wherever they stand: a flag by its first
occurrence, an option together with the argument after it (whatever that argument looks
like). `--key=value` is not an option: it stays a free argument. What is left is read
in order as the free arguments, and a command that has no more free arguments refuses what
is left.
-/

namespace Phrasebook.Cli

/-- The usage text. -/
def usage : String :=
  "Usage:
    ts-catalog check     [ROOT] [--json]
    ts-catalog report    [ROOT] [--json]
    ts-catalog tr        FILE|ROOT CONTEXT SOURCE [-n|--count N] [--disambiguation D]
                         [--language L] [--unfinished] [ARGS...]
    ts-catalog normalize FILE [--output FILE]

Options:
    --log-file FILE    Write logs to FILE instead of stderr
    -h, --help         Print this help
"

/-- What `tr` is asked. -/
structure LookupRequest where
  /-- A catalog file, or a workspace root. -/
  target : String
  context : String
  source : String
  count : Option Int := none
  disambiguation : Option String := none
  language : Option String := none
  includeUnfinished : Bool := false
  args : List String := []
  deriving Repr, DecidableEq

/-- A command of the program. -/
inductive Command where
  | help
  | check (root : String) (json : Bool)
  | report (root : String) (json : Bool)
  | lookup (request : LookupRequest)
  | normalize (file : String) (output : Option String)
  deriving Repr, DecidableEq

/-- A command with the options that go with any command. -/
structure Invocation where
  command : Command
  logFile : Option String
  deriving Repr, DecidableEq

/-- Why an argument could not be taken. -/
inductive ArgFault where
  | missingArgument
  | optionWithoutValue (key : String)
  | parseFailed (value cause : String)
  deriving Repr, DecidableEq

namespace ArgFault

/-- The sentence for the fault. -/
def message : ArgFault → String
  | .missingArgument => "free-standing argument is missing"
  | .optionWithoutValue k => "the '" ++ k ++ "' option doesn't have an associated value"
  | .parseFailed v c => "failed to parse '" ++ v ++ "': " ++ c

end ArgFault

/-- Why the command line could not be read. -/
inductive UsageError where
  | args (fault : ArgFault)
  | unknownCommand (name : String)
  | unexpectedArguments (rest : List String)
  deriving Repr, DecidableEq

namespace UsageError

/-- The sentence for the error. -/
def message : UsageError → String
  | .args f => f.message
  | .unknownCommand n => "Unknown command '" ++ n ++ "'"
  | .unexpectedArguments rest => "Unexpected arguments: " ++ Text.quoteList rest

/-- The sentence for the error, then the usage text. -/
def withUsage (e : UsageError) : String :=
  e.message ++ "\n\n" ++ usage.trimAsciiEnd.toString

end UsageError

/-- The place of the first argument equal to a key, keys tried in order, with the key. -/
def findKey (keys : List String) (args : List String) : Option (Nat × String) :=
  keys.findSome? fun k => (args.idxOf? k).map fun i => (i, k)

/-- Takes out the first occurrence of a flag. -/
def takeFlag (keys : List String) (args : List String) : Bool × List String :=
  match findKey keys args with
  | some (i, _) => (true, args.eraseIdx i)
  | none => (false, args)

/-- Takes out an option and the argument after it, read by `parse`. -/
def takeValue {α} (keys : List String) (parse : String → Except String α) (args : List String) :
    Except ArgFault (Option α × List String) :=
  match findKey keys args with
  | some (i, k) =>
    match args[i + 1]? with
    | none => .error (.optionWithoutValue k)
    | some v =>
      match parse v with
      | .ok x => .ok (some x, (args.eraseIdx i).eraseIdx i)
      | .error cause => .error (.parseFailed v cause)
  | none => .ok (none, args)

/-- Takes out the first free argument. -/
def takeFree (args : List String) : Option String × List String :=
  match args with
  | [] => (none, [])
  | a :: rest => (some a, rest)

/-- Takes out a required free argument. -/
def takeRequired (args : List String) : Except UsageError (String × List String) :=
  match takeFree args with
  | (some a, rest) => .ok (a, rest)
  | (none, _) => .error (.args .missingArgument)

/-- Refuses arguments that are left. -/
def rejectRest (args : List String) : Except UsageError Unit :=
  if args.isEmpty then .ok () else .error (.unexpectedArguments args)

/-- A text taken as it is. -/
def asText (s : String) : Except String String := .ok s

/-- A count of 64 bits with sign. -/
def asCount (s : String) : Except String Int :=
  match IntegerRange.int64.read s with
  | .ok n => .ok n
  | .error e => .error e.message

/-- Takes an option's value, a fault of it being a usage error. -/
def option {α} (keys : List String) (parse : String → Except String α) (args : List String) :
    Except UsageError (Option α × List String) :=
  match takeValue keys parse args with
  | .ok r => .ok r
  | .error f => .error (.args f)

/-- The root argument of `check` and `report`, and nothing after it. -/
def rootArgument (args : List String) : Except UsageError String := do
  let (root, rest) := takeFree args
  rejectRest rest
  pure (root.getD ".")

/-- Reads the command line. -/
def parse (argv : List String) : Except UsageError Invocation := do
  let (sub, args) := match argv with
    | a :: rest => if a.startsWith "-" then (none, argv) else (some a, rest)
    | [] => (none, [])
  let (help, args) := takeFlag ["-h", "--help"] args
  let (logFile, args) ← option ["--log-file"] asText args
  if help then return ⟨.help, logFile⟩
  let command ← match sub with
    | none => pure Command.help
    | some "help" => pure .help
    | some "check" =>
      let (json, args) := takeFlag ["--json"] args
      pure (.check (← rootArgument args) json)
    | some "report" =>
      let (json, args) := takeFlag ["--json"] args
      pure (.report (← rootArgument args) json)
    | some "tr" => do
      let (count, args) ← option ["-n", "--count"] asCount args
      let (disambiguation, args) ← option ["--disambiguation"] asText args
      let (language, args) ← option ["--language"] asText args
      let (includeUnfinished, args) := takeFlag ["--unfinished"] args
      let (target, args) ← takeRequired args
      let (context, args) ← takeRequired args
      let (source, args) ← takeRequired args
      pure (.lookup { target, context, source, count, disambiguation, language,
                      includeUnfinished, args })
    | some "normalize" => do
      let (output, args) ← option ["--output"] asText args
      let (file, args) ← takeRequired args
      rejectRest args
      pure (.normalize file output)
    | some other => throw (.unknownCommand other)
  return ⟨command, logFile⟩

end Phrasebook.Cli

import Stencil.Engine
import Stencil.Report
import Stencil.Json.Reader
/-! The command line, with what it needs from outside (files, standard input, a clock) passed in as
an `Environment`. -/

namespace Stencil.Cli

/-- What a run needs from outside. -/
structure Environment (m : Type → Type) where
  fileText : String → m (Except String String)
  inputText : m (Except String String)
  stdoutIsTerminal : Bool
  clock : m Nat

/-- What a run prints and its exit code. -/
structure Outcome where
  code : Nat
  stdout : String
  stderr : String
deriving Repr, DecidableEq

/-- Why the arguments cannot be carried out: a usage error (exit code 2) or unreadable input (exit
code 1). -/
inductive Failure where
  | usage (message : String)
  | internal (message : String)
deriving Repr, DecidableEq

structure Settings where
  template : Option String := none
  data : Option Json := none
  options : Options := {}
  aliases : List (String × String) := []
  verbose : Bool := false
  color : Bool
deriving Repr

inductive Request where
  | help
  | version
  | run (settings : Settings)
deriving Repr

def versionText : String := "interpolator 0.1.0"

def helpText : String :=
  versionText ++ "\n\n" ++
  "Substitute \x7bkey[:alternative][|modifier,...]\x7d placeholders from JSON data.\n\n" ++
  "Usage:\n" ++
  "  interpolator [OPTIONS] [--] <template...>\n" ++
  "  interpolator [OPTIONS] --template <text>\n\n" ++
  "Options:\n" ++
  "  -t, --template <text>      Template to render. If omitted, reads remaining args\n" ++
  "                             or stdin when no args are provided.\n" ++
  "  -d, --data <json>          Data object as inline JSON. Default: \x7b\x7d\n" ++
  "  --data-file <path>         Read the data object from a JSON file.\n" ++
  "  --open <marker>            Open delimiter. Default: \x7b\n" ++
  "  --close <marker>           Close delimiter. Default: \x7d\n" ++
  "  -a, --alias <key=path>     Register an alias (repeatable).\n" ++
  "  -v, --verbose              Print a per-placeholder report instead of the output.\n" ++
  "  --color                    Force ANSI color output.\n" ++
  "  --no-color                 Disable ANSI color output.\n" ++
  "  -h, --help                 Show this help message.\n" ++
  "  -V, --version              Print version information.\n\n" ++
  "Environment:\n" ++
  "  INTERPOLATOR_LOG=<filter>   Log filter for engine traces (e.g. trace). Default: warn\n\n" ++
  "Exit codes:\n" ++
  "  0  Success.\n" ++
  "  1  Internal error.\n" ++
  "  2  Invalid arguments, malformed data or missing template.\n"

/-- `s` with every leading copy of `pre` removed. -/
def dropPrefixes (pre : List Char) (s : List Char) : List Char :=
  go s.length s
where
  go : Nat → List Char → List Char
    | 0, s => s
    | fuel + 1, s => if pre ≠ [] ∧ pre.isPrefixOf s then go fuel (s.drop pre.length) else s

def parseData (raw : String) : Except Failure Json :=
  (Json.read raw).mapError fun e => .usage ("error: invalid --data JSON: " ++ e.describe raw)

/-- An alias argument `KEY=PATH`, both parts non-empty. -/
def parseAlias (raw : String) : Except Failure (String × String) :=
  match raw.splitOn "=" with
  | key :: rest@(_ :: _) =>
    let path := "=".intercalate rest
    if key.isEmpty ∨ path.isEmpty then .error (.usage ("error: invalid --alias '" ++ raw ++ "' (expected KEY=PATH)"))
    else .ok (key, path)
  | _ => .error (.usage ("error: invalid --alias '" ++ raw ++ "' (expected KEY=PATH)"))

def Settings.setTemplate (s : Settings) (t : String) : Except Failure Settings :=
  if s.template.isSome then .error (.usage "error: template provided multiple times")
  else .ok { s with template := some t }

def Settings.setData (s : Settings) (d : Json) : Except Failure Settings :=
  if s.data.isSome then .error (.usage "error: data provided multiple times")
  else .ok { s with data := some d }

def missingValue (flag : String) : Failure := .usage ("error: " ++ flag ++ " expects a value")

variable {m : Type → Type} [Monad m]

def readDataFile (env : Environment m) (path : String) : m (Except Failure Json) := do
  match ← env.fileText path with
  | .error e => pure (.error (.internal ("error: failed to read data file '" ++ path ++ "': " ++ e)))
  | .ok text =>
    pure ((Json.read text).mapError fun e =>
      .usage ("error: invalid JSON in '" ++ path ++ "': " ++ e.describe text))

/-- Reads the arguments left to right into settings. -/
def readArgs (env : Environment m) (s : Settings) : List String → m (Except Failure Request)
  | [] => pure (.ok (.run s))
  | arg :: rest =>
    match arg with
    | "-h" | "--help" => pure (.ok .help)
    | "-V" | "--version" => pure (.ok .version)
    | "-v" | "--verbose" => readArgs env { s with verbose := true } rest
    | "--color" => readArgs env { s with color := true } rest
    | "--no-color" => readArgs env { s with color := false } rest
    | "--open" =>
      match rest with
      | v :: more => readArgs env { s with options := { s.options with opening := v } } more
      | [] => pure (.error (missingValue "--open"))
    | "--close" =>
      match rest with
      | v :: more => readArgs env { s with options := { s.options with closing := v } } more
      | [] => pure (.error (missingValue "--close"))
    | "--data" | "-d" =>
      match rest with
      | v :: more =>
        match parseData v >>= s.setData with
        | .ok next => readArgs env next more
        | .error e => pure (.error e)
      | [] => pure (.error (missingValue "--data"))
    | "--data-file" =>
      match rest with
      | path :: more => do
        match ← readDataFile env path with
        | .ok d =>
          match s.setData d with
          | .ok next => readArgs env next more
          | .error e => pure (.error e)
        | .error e => pure (.error e)
      | [] => pure (.error (missingValue "--data-file"))
    | "--alias" | "-a" =>
      match rest with
      | v :: more =>
        match parseAlias v with
        | .ok a => readArgs env { s with aliases := s.aliases ++ [a] } more
        | .error e => pure (.error e)
      | [] => pure (.error (missingValue "--alias"))
    | "--template" | "-t" =>
      match rest with
      | v :: more =>
        match s.setTemplate v with
        | .ok next => readArgs env next more
        | .error e => pure (.error e)
      | [] => pure (.error (missingValue "--template"))
    | "--" =>
      let joined := " ".intercalate rest
      if joined.isEmpty then pure (.ok (.run s))
      else pure ((s.setTemplate joined).map .run)
    | _ =>
      if "--data=".isPrefixOf arg then
        match parseData (String.ofList (dropPrefixes "--data=".toList arg.toList)) >>= s.setData with
        | .ok next => readArgs env next rest
        | .error e => pure (.error e)
      else if "--template=".isPrefixOf arg then
        match s.setTemplate (String.ofList (dropPrefixes "--template=".toList arg.toList)) with
        | .ok next => readArgs env next rest
        | .error e => pure (.error e)
      else if "-".isPrefixOf arg then
        pure (.error (.usage ("error: unknown option '" ++ arg ++ "'")))
      else pure ((s.setTemplate (" ".intercalate (arg :: rest))).map .run)

/-- Standard input less one final line break (a newline, with a carriage return before it). -/
def dropFinalNewline (text : String) : String :=
  match text.toList.reverse with
  | '\n' :: '\r' :: rest => String.ofList rest.reverse
  | '\n' :: rest => String.ofList rest.reverse
  | _ => text

def Failure.outcome : Failure → Outcome
  | .usage message => ⟨2, "", message ++ "\n"⟩
  | .internal message => ⟨1, "", message ++ "\n"⟩

def render (env : Environment m) (s : Settings) (template : String) : m Outcome := do
  match Engine.withOptions s.options with
  | .error e => pure ⟨2, "", "error: " ++ e.message ++ "\n"⟩
  | .ok engine =>
    let engine := s.aliases.foldl (fun e (key, path) => e.addAlias key (.path path)) engine
    let data := s.data.getD Json.empty
    if s.verbose then
      let start ← env.clock
      let found := Template.placeholders engine.opening engine.closing template
      let extracted ← env.clock
      let r := fillFound engine.registry engine.aliases template found data
      let finish ← env.clock
      let timings : Report.Timings := ⟨finish - start, extracted - start, finish - extracted⟩
      pure ⟨0, Report.render s.color template r timings, ""⟩
    else pure ⟨0, engine.parse template data ++ "\n", ""⟩

/-- A run of the command with the given arguments. -/
def run (env : Environment m) (args : List String) : m Outcome := do
  match ← readArgs env { color := env.stdoutIsTerminal } args with
  | .error e => pure e.outcome
  | .ok .help => pure ⟨0, helpText ++ "\n", ""⟩
  | .ok .version => pure ⟨0, versionText ++ "\n", ""⟩
  | .ok (.run s) =>
    let template : Except Failure String ← match s.template with
      | some t => pure (.ok t)
      | none => do
        match ← env.inputText with
        | .ok text => pure (.ok (dropFinalNewline text))
        | .error e => pure (.error (Failure.internal ("error: failed to read stdin: " ++ e)))
    match template with
    | .error e => pure e.outcome
    | .ok template =>
      if template.isEmpty then
        pure (Failure.usage ("error: no template provided\n\n" ++ helpText)).outcome
      else render env s template

end Stencil.Cli

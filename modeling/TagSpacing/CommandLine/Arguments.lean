import TagSpacing.CommandLine.SelectionText

/-! The arguments of the command. Options may stand on either side of the file; short ones may be
bundled, and their values attached; behind `--` there are no options. -/
namespace TagSpacing.CommandLine

inductive Switch
  | verbose
  | log
  | config
  | select
  | change
  | inPlace
  | help
  | version
deriving DecidableEq

namespace Switch

def ofLong? : String → Option Switch
  | "log" => some log
  | "config" => some config
  | "select" => some select
  | "change" => some change
  | "in-place" => some inPlace
  | "help" => some help
  | "version" => some version
  | _ => none

def ofShort? : Char → Option Switch
  | 'v' => some verbose
  | 'c' => some config
  | 's' => some select
  | 'i' => some inPlace
  | 'h' => some help
  | 'V' => some version
  | _ => none

def takesValue : Switch → Bool
  | log | config | select | change => true
  | verbose | inPlace | help | version => false

/-- How messages name an option. -/
def display : Switch → String
  | verbose => "-v..."
  | log => "--log <FILE>"
  | config => "--config <FILE>"
  | select => "--select <SELECTION>"
  | change => "--change <TEXT>"
  | inPlace => "--in-place"
  | help => "--help"
  | version => "--version"

end Switch

/-- Why the command does not run. -/
inductive UsageError
  | missingFile
  | emptyFile
  | unexpectedArgument (argument : String)
  | missingValue (option : Switch)
  | invalidSelection (value : String) (fault : SelectionFault)
  | repeated (option : Switch)
  | unexpectedValue (value : String) (option : Switch)
deriving DecidableEq

def UsageError.message : UsageError → String
  | missingFile => "the following required arguments were not provided:"
  | emptyFile => "a value is required for '<FILE>' but none was supplied"
  | unexpectedArgument argument => s!"unexpected argument '{argument}' found"
  | missingValue option => s!"a value is required for '{option.display}' but none was supplied"
  | invalidSelection value fault =>
    s!"invalid value '{value}' for '{Switch.select.display}': {fault.message}"
  | repeated option => s!"the argument '{option.display}' cannot be used multiple times"
  | unexpectedValue value option =>
    s!"unexpected value '{value}' for '{option.display}' found; no more were expected"

/-- Why reading of arguments ends before their end. -/
inductive Stop
  | usage (e : UsageError)
  | help
  | version
deriving DecidableEq

/-- What was read so far. -/
structure Options where
  verbosity : Nat := 0
  log : Option String := none
  config : Option String := none
  selections : List Selection := []
  changes : List String := []
  inPlace : Bool := false
  file : Option String := none
deriving DecidableEq

/-- An argument whose value is not looked at before the next one is known to be in order. -/
inductive Pending
  | nothing
  /-- An option whose value comes next. -/
  | option (s : Switch)
  | value (s : Switch) (text : String)
  | file (path : String)

namespace Options

/-- Notes an option without a value. -/
def flag (o : Options) : Switch → Except Stop Options
  | .help => .error .help
  | .version => .error .version
  | .inPlace =>
    if o.inPlace then .error (.usage (.repeated .inPlace)) else .ok { o with inPlace := true }
  | .verbose => .ok { o with verbosity := o.verbosity + 1 }
  | _ => .ok o

/-- A path for an option that may be given once. -/
def path (s : Switch) (old : Option String) (text : String) : Except Stop String :=
  if old.isSome then .error (.usage (.repeated s))
  else if text.isEmpty then .error (.usage (.missingValue s))
  else .ok text

/-- Notes an option with its value. -/
def value (o : Options) (s : Switch) (text : String) : Except Stop Options :=
  match s with
  | .log => do return { o with log := some (← path s o.log text) }
  | .config => do return { o with config := some (← path s o.config text) }
  | .select =>
    match Selection.read text.toList with
    | .ok selection => .ok { o with selections := o.selections ++ [selection] }
    | .error fault => .error (.usage (.invalidSelection text fault))
  | .change => .ok { o with changes := o.changes ++ [text] }
  | _ => .ok o

/-- Notes what was pending. -/
def settle (o : Options) : Pending → Except Stop Options
  | .nothing => .ok o
  | .option s => .error (.usage (.missingValue s))
  | .value s text => o.value s text
  | .file path => if path.isEmpty then .error (.usage .emptyFile) else .ok { o with file := some path }

/-- Whether a file was named. -/
def hasFile (o : Options) : Pending → Bool
  | .file _ => true
  | _ => o.file.isSome

/-- Notes a file. -/
def positional (o : Options) (pending : Pending) (text : String) : Except Stop (Options × Pending) :=
  if o.hasFile pending then .error (.usage (.unexpectedArgument text))
  else do return (← o.settle pending, .file text)

/-- Reads the letters of bundled short options. What follows an option that takes a value is that
value, with or without an equals sign in front. -/
def short (o : Options) (pending : Pending) : Text → Except Stop (Options × Pending)
  | [] => .ok (o, pending)
  | c :: rest =>
    match Switch.ofShort? c with
    | none => .error (.usage (.unexpectedArgument (String.ofList ['-', c])))
    | some s =>
      if s.takesValue then do
        let o ← o.settle pending
        match rest with
        | [] => return (o, .option s)
        | '=' :: value => return (← o.value s (String.ofList value), .nothing)
        | value => return (← o.value s (String.ofList value), .nothing)
      else do
        let o ← (← o.settle pending).flag s
        short o .nothing rest

/-- Reads a long option, the two hyphens in front being consumed. -/
def long (o : Options) (pending : Pending) (t : Text) : Except Stop (Options × Pending) :=
  let (name, value?) :=
    match Selection.cut? '=' t with
    | some (name, value) => (name, some (String.ofList value))
    | none => (t, none)
  match Switch.ofLong? (String.ofList name) with
  | none => .error (.usage (.unexpectedArgument ("--" ++ String.ofList name)))
  | some s =>
    match s.takesValue, value? with
    | true, some value => do return (← (← o.settle pending).value s value, .nothing)
    | true, none => do return (← o.settle pending, .option s)
    | false, some value => .error (.usage (.unexpectedValue value s))
    | false, none => do return (← (← o.settle pending).flag s, .nothing)

/-- Reads one argument in front of `--`. A lone hyphen is no option. -/
def argument (o : Options) (pending : Pending) (text : String) : Except Stop (Options × Pending) :=
  match text.toList with
  | '-' :: '-' :: t => o.long pending t
  | '-' :: c :: t => o.short pending (c :: t)
  | _ =>
    match pending with
    | .option s => .ok (o, .value s text)
    | _ => o.positional pending text

/-- Reads all arguments; behind `--` each is a file. -/
def read (o : Options) (pending : Pending) : Bool → List String → Except Stop Options
  | _, [] => o.settle pending
  | true, text :: rest => do
    let (o, pending) ← o.positional pending text
    read o pending true rest
  | false, text :: rest => do
    if text = "--" then read o pending true rest
    else
      let (o, pending) ← o.argument pending text
      read o pending false rest

end Options

/-- The arguments of a run. -/
structure Arguments where
  file : String
  verbosity : Nat
  log : Option String
  config : Option String
  selections : List Selection
  /-- The texts that were typed. -/
  changes : List String
  /-- Whether the file is replaced by the result, which is not printed then. -/
  inPlace : Bool
deriving DecidableEq

/-- What was typed if nothing else is said. -/
def defaultChange : String := "\x7b"

/-- The arguments that a list of texts gives. -/
def Arguments.parse (texts : List String) : Except Stop Arguments := do
  let o ← Options.read {} .nothing false texts
  match o.file with
  | none => .error (.usage .missingFile)
  | some file =>
    return {
      file, verbosity := o.verbosity, log := o.log, config := o.config, selections := o.selections
      changes := if o.changes = [] then [defaultChange] else o.changes, inPlace := o.inPlace }

end TagSpacing.CommandLine

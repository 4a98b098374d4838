import TagSpacing.CommandLine.Arguments
import TagSpacing.Config.Reader
import TagSpacing.Workspace

/-! A run of the command: a file goes through the expansion as if the given texts had just been typed
into it. The run itself is a function of the arguments and of the files it reads. -/
namespace TagSpacing.CommandLine

/-- What a path leads to. -/
inductive FileEntry
  | file (t : Text)
  /-- Nothing, but a file could be made there. -/
  | missing
  /-- Nothing, and the directory for it is missing too. -/
  | unreachable
  | directory
  /-- A file that is no text or must not be read. -/
  | unreadable
deriving DecidableEq

abbrev Files := String → FileEntry

/-- The variables of the environment that say where the configuration is. -/
structure Environment where
  /-- A directory for this command alone. -/
  configDirectory : Option String := none
  /-- A directory for the configurations of all programs. -/
  configHome : Option String := none
  home : String
deriving DecidableEq

/-- The configuration file of a user; the first variable that is set decides. -/
def Environment.configFile (e : Environment) : String :=
  match e.configDirectory, e.configHome with
  | some directory, _ => directory ++ "/config.toml"
  | none, some directory => directory ++ "/spacer/config.toml"
  | none, none => e.home ++ "/.config/spacer/config.toml"

/-- How urgent a log line is. -/
inductive Level
  | warn
  | info
deriving DecidableEq

structure LogLine where
  target : String
  level : Level
  text : String
deriving DecidableEq

def LogLine.write (l : LogLine) : String :=
  let level := match l.level with
    | .warn => "WARN"
    | .info => "INFO"
  s!"{l.target} [{level}] {l.text}"

/-- What a run leaves behind. -/
structure Result where
  exitCode : Nat
  output : Text := []
  /-- The lines that are logged. -/
  log : List LogLine := []
  /-- The file that the lines go to, if any; it exists then. -/
  logFile : Option String := none
  /-- The file that is replaced, if one is, and its new text. -/
  written : Option (String × Text) := none
  /-- What went wrong. -/
  message : Option String := none
deriving DecidableEq

/-- The name and version of the command. -/
def versionText : String := "spacer 0.1.0\n"

def helpText : String := "Space out template tags the way an editor would while typing

Usage: spacer [OPTIONS] <FILE>

Arguments:
  <FILE>  Document that already contains the typed text

Options:
  -v...                     Increase logging verbosity (repeat for more detail)
      --log <FILE>          Save logs to a specific file
  -c, --config <FILE>       Load configuration from a specific file
  -s, --select <SELECTION>  Selection as LINE:COL or LINE:COL-LINE:COL, 1-based (repeat for more cursors)
      --change <TEXT>       Text the editor just inserted (repeat for several changes)
  -i, --in-place            Write the result back to FILE instead of printing it
  -h, --help                Print help
  -V, --version             Print version
"

/-- The line for a run of the expansion that an editor refused. -/
def Outcome.logLines : Outcome → List LogLine
  | .refused tag e =>
    [⟨"spacer_lib::spacer", .warn, s!"failed to expand tag err={e.message} tag_type={tag}"⟩]
  | _ => []

/-- Puts a text through the expansion; gives the buffer afterwards and how each run ended. All typed
texts are reported at the first caret, for the text holds them already. -/
def expand (config : Config) (selections : List Selection) (changes : List String) (t : Text) :
    Buffer × List Outcome :=
  let buffer := Buffer.ofText t
  let buffer := if selections = [] then buffer else buffer.select selections
  let caret := (buffer.selections.head?.map Selection.active).getD .zero
  let changes := changes.map fun s => (⟨.point caret, 0, s.toList⟩ : Change)
  let (workspace, outcomes) := config.notify (Workspace.empty.openBuffer buffer) changes
  (workspace.active?.getD buffer, outcomes)

/-- The configuration in a file; without the file it is the default one. -/
def loadConfig : FileEntry → Option Config
  | .file t => (Config.ofToml t).toOption
  | .missing | .unreachable => some {}
  | .directory | .unreadable => none

/-- Why a file cannot be opened for log lines. -/
def logFault? : FileEntry → Option String
  | .directory => some "Is a directory (os error 21)"
  | .unreachable => some "No such file or directory (os error 2)"
  | .unreadable => some "Permission denied (os error 13)"
  | .file _ | .missing => none

/-- The files after one was opened for log lines, which makes it. -/
def Files.touch (files : Files) (path : String) : Files := fun p =>
  if p = path ∧ files p = .missing then .file [] else files p

/-- The files after a run, apart from the lines in the log. -/
def Result.filesAfter (r : Result) (files : Files) : Files := fun p =>
  match r.written, r.logFile with
  | some (path, t), log => if p = path then .file t else (log.elim files files.touch) p
  | none, log => (log.elim files files.touch) p

/-- The work behind the opening of the log: load the configuration, read the file, expand. -/
def Arguments.run (a : Arguments) (e : Environment) (files : Files) : Result :=
  let configFile := a.config.getD e.configFile
  match loadConfig (files configFile) with
  | none => { exitCode := 1, logFile := a.log, message := some s!"failed to load config {configFile}" }
  | some config =>
    match files a.file with
    | .file t =>
      let (buffer, outcomes) := expand config a.selections a.changes t
      let info (text : String) : LogLine := ⟨"spacer", .info, text⟩
      let lines := outcomes.flatMap Outcome.logLines ++
        if a.verbosity = 0 then []
        else info s!"expander ran {outcomes.length} time(s)" ::
          buffer.selections.map fun s => info s!"selection {s.write}"
      if a.inPlace then
        { exitCode := 0, log := lines, logFile := a.log, written := some (a.file, buffer.text) }
      else { exitCode := 0, log := lines, logFile := a.log, output := buffer.text }
    | _ => { exitCode := 1, logFile := a.log, message := some s!"failed to read {a.file}" }

/-- Runs the command on a list of arguments. -/
def run (texts : List String) (e : Environment) (files : Files) : Result :=
  match Arguments.parse texts with
  | .error .version => { exitCode := 0, output := versionText.toList }
  | .error .help => { exitCode := 0, output := helpText.toList }
  | .error (.usage e) => { exitCode := 2, message := some e.message }
  | .ok a =>
    match a.log with
    | none => a.run e files
    | some log =>
      match logFault? (files log) with
      | some fault => { exitCode := 1, message := some fault }
      | none => a.run e (files.touch log)

end TagSpacing.CommandLine

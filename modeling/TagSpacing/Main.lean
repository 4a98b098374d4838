import TagSpacing.CommandLine.Session

/-! The command. It looks at the files that a run may read, and does what the result of the run says. -/
namespace TagSpacing.CommandLine

/-- What a path leads to at this time. -/
def entryAt (path : String) : IO FileEntry := do
  try return .file (← IO.FS.readFile path).toList
  catch
    | .noFileOrDirectory .. => return .missing
    | _ => return .unreadable

/-- What a path leads to that log lines go to. It is made if it can be. -/
def logEntryAt (path : String) : IO FileEntry := do
  try
    let _ ← IO.FS.Handle.mk path .append
    entryAt path
  catch
    | .noFileOrDirectory .. => return .unreachable
    | .permissionDenied .. => return .unreadable
    | _ => return .directory

/-- The files that a run with some arguments may look at. -/
def filesFor (texts : List String) (e : Environment) : IO Files := do
  match Arguments.parse texts with
  | .error _ => return fun _ => .missing
  | .ok a =>
    let logs ← a.log.toList.mapM fun path => return (path, ← logEntryAt path)
    let others ← [a.config.getD e.configFile, a.file].mapM fun path => return (path, ← entryAt path)
    return fun path => ((logs ++ others).lookup path).getD .missing

def environment : IO Environment := do
  -- Only an absolute path counts as the home of configurations.
  let configHome := (← IO.getEnv "XDG_CONFIG_HOME").filter (·.startsWith "/")
  return {
    configDirectory := ← IO.getEnv "SPACER_CONFIG_DIR"
    configHome, home := (← IO.getEnv "HOME").getD "" }

end TagSpacing.CommandLine

open TagSpacing.CommandLine in
def main (texts : List String) : IO UInt32 := do
  let e ← environment
  let result := run texts e (← filesFor texts e)
  match result.logFile with
  | some path =>
    let log ← IO.FS.Handle.mk path .append
    for line in result.log do log.putStrLn line.write
  | none => for line in result.log do IO.eprintln line.write
  IO.print (String.ofList result.output)
  if let some (path, t) := result.written then IO.FS.writeFile path (String.ofList t)
  if let some message := result.message then
    IO.eprintln ((if result.exitCode = 2 then "error: " else "Error: ") ++ message)
  return result.exitCode.toUInt32

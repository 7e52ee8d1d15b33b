import TaskEndpoints.Log.Output
import TaskEndpoints.Service.Exchange
import TaskEndpoints.Startup

/-!
# The program as it is run

The program starts up with the environment and the metadata files, and then answers the lines of a
gateway on the standard input until the input ends. Its argument is the time of the start in seconds from
the Unix epoch. Log lines go to the standard error, so that the standard output holds answers alone.
-/

namespace TaskEndpoints.Main

/-- The variables that the program reads. -/
def variableNames : List String := bindings.map (·.source) ++ ["DOCKER_API_VERSION", "DOCKER_HOST"]

/-- The variables that are set. -/
def readEnvironment : IO Environment :=
  variableNames.filterMapM fun name => do
    return (← IO.getEnv name).map fun text => (name, text)

/-- The paths of the log files, the archived ones included. -/
def logPaths (env : Environment) : List String :=
  let directory := env.read "ECS_LOCAL_LOG_DIR"
  let name := directory ++ "/" ++ LogConfig.initial.fileName
  if directory.isEmpty then []
  else name :: (List.range LogConfig.initial.archives).map fun n => name ++ "." ++ toString (n + 1)

/-- The files that the program works with, as far as they can be read. -/
def readFiles (env : Environment) : IO FileTree :=
  let paths := [env.read "ECS_LOCAL_TASK_METADATA", env.read "ECS_LOCAL_CONTAINER_METADATA"]
  (paths ++ logPaths env).foldlM (fun tree (path : String) => do
    try
      let bytes ← IO.FS.readBinFile path
      return tree.plant (FilePath.ofString path).names (.file bytes.toList)
    catch _ => return tree) FileTree.empty

/-- Write what a log has gathered, and go on with an empty log. -/
def flushLog (o : LogOutput) : IO LogOutput := do
  (← IO.getStderr).putStr o.written.output
  if let some f := o.sink.file then
    IO.FS.createDirAll ("/".intercalate f.place.dropLast)
    for n in List.range (f.archives + 1) do
      let place := f.archivePlace n
      if let some (.file bytes) := o.written.files.node? place then
        IO.FS.writeBinFile ("/".intercalate place) ⟨bytes.toArray⟩
  return { o with written := { o.written with output := "" } }

/-- The answer to a line, and the events of answering. -/
def answerLine (p : Prepared) (line : String) : String × List Event × Int :=
  match Json.read line with
  | .error e => (e.message, [], 0)
  | .ok v => match Exchange.ofValue p.limit v with
    | .error e => (e.message, [], 0)
    | .ok x =>
      let run : Run Unit Http.Answer := p.service.answer x.surroundings x.request
      let text := match run.outcome with
        | .ok a => match Json.write a.toValue with
          | .ok text => text
          | .error e => e.message
        | .error () => ""
      (text, run.events, x.seconds)

/-- Answer lines until the input ends. -/
partial def serve (p : Prepared) (log : LogOutput) : IO Unit := do
  let line ← (← IO.getStdin).getLine
  if line.isEmpty then return
  let (text, events, seconds) := answerLine p line
  let log ← flushLog (log.recordAll (logTimeText seconds) events)
  let out ← IO.getStdout
  out.putStrLn text
  out.flush
  serve p log

end TaskEndpoints.Main

open TaskEndpoints TaskEndpoints.Main in
/-- Start up, serve, and end with the exit code. -/
def main (args : List String) : IO UInt32 := do
  let env ← readEnvironment
  let files ← readFiles env
  let time := logTimeText ((args.head?.bind String.toInt?).getD 0)
  let host : Host := ⟨env, files, fun _ => none, none, none⟩
  let start := LogOutput.ofFiles files
  match (Startup.prepare host).outcome with
  | .ok p =>
    let log ← flushLog (start.recordAll time (Startup.prepare host).events)
    serve p log
    return 0
  | .error stop =>
    let _ ← flushLog (start.recordAll time (Startup.prepare host).events)
    match stop with
    | .exit code => return code.toUInt32
    | .escape e =>
      (← IO.getStderr).putStrLn e.message
      return 1

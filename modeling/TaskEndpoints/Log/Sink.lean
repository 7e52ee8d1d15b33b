import TaskEndpoints.Files.Tree
import TaskEndpoints.Log.Level

/-!
# Where log lines go

Log lines go to the standard output and, where a directory is configured, to a file in it. The file
makes room for a line that would fill it: it becomes the first archived file, each archived file moves
up by one, and the oldest is dropped.

## Implementation notes

Sizes count octets and lines count characters, as the rule for making room compares the two. A sink
without archived files never makes room.
-/

namespace TaskEndpoints

/-- One line of a log. -/
structure LogLine where
  logger : String
  level : Int
  text : String
deriving DecidableEq, Repr

/-- The text of a line, with the time at which it is written. -/
def LogLine.render (line : LogLine) (time : String) : String :=
  time ++ " | " ++ levelText line.level ++ " | " ++ line.logger ++ " | " ++ line.text ++ "\n"

/-- A log file with its limits. -/
structure LogFile where
  place : List String
  /-- The size that the file stays below; zero for none. -/
  maxBytes : Int
  archives : Nat
deriving DecidableEq, Repr

/-- What writes log lines. -/
structure LogSink where
  /-- The level number below which lines are dropped. -/
  threshold : Int
  /-- The log file, if there is one. -/
  file : Option LogFile
deriving DecidableEq, Repr

/-- What has been written: the standard output and the files. -/
structure Written where
  output : String
  files : FileTree
deriving DecidableEq, Repr

namespace LogFile

/-- The place of an archived file; number zero is the log file itself. -/
def archivePlace (f : LogFile) (number : Nat) : List String :=
  if number = 0 then f.place
  else match f.place.getLast? with
    | none => f.place
    | some name => f.place.dropLast ++ [name ++ "." ++ toString number]

/-- Move one file, if it is there, to the place of another. -/
def moveFile (t : FileTree) (source target : List String) : FileTree :=
  match t.node? source with
  | none => t
  | some node => (t.remove source).put target node

/-- Make room: move the files to the next higher numbers, the oldest first. -/
def makeRoom (f : LogFile) (t : FileTree) : FileTree :=
  if f.archives = 0 then t
  else
    let moved := (List.range f.archives).reverse.foldl
      (fun tree number => moveFile tree (f.archivePlace number) (f.archivePlace (number + 1))) t
    moved.put f.place (.file [])

/-- The content of the log file. -/
def content (f : LogFile) (t : FileTree) : List UInt8 :=
  match t.node? f.place with
  | some (.file octets) => octets
  | _ => []

/-- Decide whether a line would fill the file. -/
def isFilledBy (f : LogFile) (t : FileTree) (line : String) : Bool :=
  0 < f.maxBytes && f.maxBytes ≤ (f.content t).length + line.length

/-- Write a line at the end of the file, after making room where needed. -/
def append (f : LogFile) (t : FileTree) (line : String) : FileTree :=
  let ready := if f.isFilledBy t line then f.makeRoom t else t
  ready.put f.place (.file (f.content ready ++ Text.encodeUtf8 line))

end LogFile

namespace LogSink

/-- Decide whether a line of a level is written; a line without a positive level never is. -/
def admits (s : LogSink) (level : Int) : Bool := 0 < level && s.threshold ≤ level

/-- Write one line. -/
def write (s : LogSink) (time : String) (w : Written) (line : LogLine) : Written :=
  if s.admits line.level then
    let text := line.render time
    ⟨w.output ++ text, match s.file with
      | none => w.files
      | some f => f.append w.files text⟩
  else w

/-- Write lines one after another. -/
def writeAll (s : LogSink) (time : String) (w : Written) (lines : List LogLine) : Written :=
  lines.foldl (s.write time) w

end LogSink

/-- The configuration of a log. -/
structure LogConfig where
  /-- The directory of the log file, if there is one. -/
  directory : Option FilePath
  fileName : String
  /-- The name of the lowest level written. -/
  levelName : String
  /-- The size that the file stays below. -/
  maxBytes : Int
  archives : Nat
deriving DecidableEq, Repr

/-- The configuration before any setting is known. -/
def LogConfig.initial : LogConfig :=
  ⟨none, "ecs-local-endpoints.log", "INFO", 10 * 1024 * 1024, 5⟩

/-- Why a log cannot be set up. -/
inductive LogError where
  | level (e : UnknownLevel)
  /-- The directory or the file cannot be made. -/
  | file (e : FileError)
deriving DecidableEq, Repr

/-- The wording of each cause. -/
def LogError.message : LogError → String
  | .level e => e.message
  | .file e => e.message

/-- Set up a log: the level is read first, then the directory and the file are made. What was made
before a failure stays. -/
def LogConfig.openSink (c : LogConfig) (t : FileTree) : Except LogError LogSink × FileTree :=
  match levelNumber c.levelName with
  | .error e => (.error (.level e), t)
  | .ok threshold => match c.directory with
    | none => (.ok ⟨threshold, none⟩, t)
    | some directory => match t.ensureDirectories directory directory.names.length with
      | .error e => (.error (.file e), t)
      | .ok made => match made.openAppend (directory.child c.fileName) with
        | .error e => (.error (.file e), made)
        | .ok (opened, place) => (.ok ⟨threshold, some ⟨place, c.maxBytes, c.archives⟩⟩, opened)

end TaskEndpoints

import TaskEndpoints.Journal

/-!
# The written log

What the log records of a journal come to on the standard output and in the files. A record goes where
the log was last set up to write; a set-up that fails changes nothing but the files.
-/

namespace TaskEndpoints

/-- The time of a log line, for a count of seconds from the Unix epoch. -/
def logTimeText (seconds : Int) : String :=
  let r := ClockReading.ofSeconds (epochClock + seconds)
  String.ofList <|
    padZeros 4 (decimalDigits r.date.year.natAbs) ++ '-' :: twoDigits r.date.month
      ++ '-' :: twoDigits r.date.day ++ ' ' :: twoDigits r.hour ++ ':' :: twoDigits r.minute
      ++ ':' :: twoDigits r.second ++ ",000".toList

/-- A log in use. -/
structure LogOutput where
  sink : LogSink
  written : Written
deriving DecidableEq, Repr

namespace LogOutput

/-- A log that has written nothing, beside the given files. -/
def ofFiles (files : FileTree) : LogOutput := ⟨⟨Level.info.number, none⟩, ⟨"", files⟩⟩

/-- What an event adds to a log. -/
def record (time : String) (o : LogOutput) : Event → LogOutput
  | .logged r => { o with written := o.sink.write time o.written r.line }
  | .logConfigured config =>
    let (opened, files) := config.openSink o.written.files
    let written := { o.written with files := files }
    match opened with
    | .ok sink => ⟨sink, written⟩
    | .error _ => ⟨o.sink, written⟩
  | _ => o

/-- What the events of a journal add to a log. -/
def recordAll (time : String) (o : LogOutput) (events : List Event) : LogOutput :=
  events.foldl (record time) o

end LogOutput

end TaskEndpoints

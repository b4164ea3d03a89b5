import Spreadsheet.CommandLine.Response
import Spreadsheet.Journal
import Std.Time

/-
  The program.

  The program reads what its arguments name, responds, writes
  the response and appends the events to the log.

  Key definitions include:
    * `main`
-/

------------------------------------------------------------
-- Surroundings
------------------------------------------------------------

namespace Spreadsheet

namespace Program

/- Random numbers below one, in the order they are drawn. -/
def randomFrom
    (seed : Nat)
    (index : Nat) :
    Float :=
  let generator := (List.range index).foldl
    (fun generator _ => (stdNext generator).2)
    (mkStdGen seed)
  let (low, high) := stdRange
  Number.ofInt ((stdNext generator).1 - low) /
    Number.ofInt (high - low + 1)

/- The time that it is here. -/
def localTime : IO Moment := do
  let time ← Std.Time.PlainDateTime.now
  return {
    date := {
      year := Int.toNat time.date.year
      month := time.date.month.val.toNat
      day := time.date.day.val.toNat
    }
    hour := time.hour.val.toNat
    minute := time.minute.val.toNat
    second := time.second.val.toNat
  }

/- Random numbers and the time that it is. -/
def surroundings : IO Surroundings := do
  let seed ← IO.rand 0 (Nat.pow 2 31)
  let now ← localTime
  return { random := randomFrom seed, clock := fun _ => now }

/- The number of the day with which the count of seconds starts. -/
def firstDay : Nat := 719163

/- The universal time that it is, as the log writes it. -/
def universalTime : IO String := do
  let time ← Std.Time.Timestamp.now
  let micros :=
    (time.toNanosecondsSinceUnixEpoch.val / 1000).toNat
  let seconds := micros / 1000000
  let date := Date.ofOrdinal (firstDay + seconds / 86400)
  return String.ofList (date.dashed 4 ++
    'T' :: padded 2 (seconds / 3600 % 24) ++
    ':' :: padded 2 (seconds / 60 % 60) ++
    ':' :: padded 2 (seconds % 60) ++
    '.' :: padded 6 (micros % 1000000) ++ ['Z'])

end Program

end Spreadsheet

------------------------------------------------------------
-- Files
------------------------------------------------------------

namespace Spreadsheet

namespace Program

/- What a path leads to; nothing if it cannot be read. -/
def placeOf
    (path : String) :
    IO Place := do
  if path.isEmpty then
    return .missing
  try
    let found ← IO.FS.realPath path
    if ← found.isDir then
      return .directory
    let bytes ← IO.FS.readBinFile found
    return .ofBytes bytes.toList
  catch _ =>
    return .missing

/- What the path of a command line and those in it lead to. -/
def filesFor
    (arguments : List String) :
    IO Files := do
  match CommandLine.Command.ofArguments? arguments with
  | some (.evaluate request) =>
      match request.configuration with
      | some given => do
          let path := Configuration.plainPath given
          let inside := Configuration.pathInside path
            Configuration.fileName
          let place ← placeOf given
          let placeInside ← placeOf inside
          return fun name =>
            if name = inside then placeInside else place
      | none => return fun _ => .missing
  | _ => return fun _ => .missing

/- The directory of the log that arguments name. -/
def logDirectory
    (arguments : List String) :
    Option String :=
  match CommandLine.Command.ofArguments? arguments with
  | some (.evaluate request) => request.logDirectory
  | _ => none

/- Append events to the log in a directory. -/
def appendEvents
    (directory : String)
    (events : List Event) :
    IO Unit := do
  IO.FS.createDirAll directory
  let path := Configuration.pathInside directory "events.ndjson"
  let log ← IO.FS.Handle.mk path .append
  for event in events do
    let time ← universalTime
    log.putStr (String.ofList (Log.line time event.prepared))

/- The word for a fault that nothing tells. -/
def escapeWord :
    CommandLine.Escape → String
  | .unreadableConfiguration => "unreadable configuration"
  | .rowTooLong => "row number too long"
  | .tooManyColumns => "too many columns"
  | .noMemory => "out of memory"

/- Respond to arguments, with the exit code as the result. -/
def run
    (arguments : List String) :
    IO UInt32 := do
  let files ← filesFor arguments
  let response :=
    CommandLine.respond files (← surroundings) arguments
  match logDirectory arguments with
  | some directory =>
      if response.exit = 0 && !directory.isEmpty then
        appendEvents directory response.events
  | none => pure ()
  IO.print response.output
  IO.eprint response.errorOutput
  match response.escape with
  | some escape => IO.eprintln (escapeWord escape)
  | none => pure ()
  return response.exit.toUInt32

end Program

end Spreadsheet

/- The program. -/
def main
    (arguments : List String) :
    IO UInt32 :=
  Spreadsheet.Program.run arguments

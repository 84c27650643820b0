/-
# `Signoff.Main` — the commands on real files

The program goes by two names: under the name of the tool it checks and shows views, and under
`xtask` it does the tasks of `Signoff.Command.Upkeep`.  All it adds to them are the files of the
machine and the time.  The texts of the schemas are no part of it: the tasks that publish and compare
schemas have their names in place of the texts.
-/
import Signoff.Command.Tool
import Signoff.Command.Upkeep
import Std.Time

namespace Signoff.Main

/-! ## Files -/

def faultOf : IO.Error → DiskFault
  | .noFileOrDirectory .. => .notFound
  | .alreadyExists .. => .alreadyExists
  | e => .other e.toString

def attempt (act : IO α) : IO (Except DiskFault α) := do
  return (← act.toBaseIO).mapError faultOf

/-- The names of the directories in a directory. -/
def directoriesIn (path : String) : IO (List String) := do
  let entries ← (IO.FS.DirEntry.mk "." path).path.readDir
  let directories ← entries.toList.filterM fun e => e.path.isDir
  return directories.map (·.fileName)

def disk : Disk IO where
  read path := attempt (IO.FS.readFile path)
  write path text := attempt (IO.FS.writeFile path text)
  makeDirs path := attempt (IO.FS.createDirAll path)
  isThere path := (IO.FS.DirEntry.mk "." path).path.pathExists
  directories path := attempt (directoriesIn path)

/-! ## Time -/

/-- A point in time of the machine's clock, told in UTC. -/
def reading (t : Std.Time.Timestamp) : ClockReading :=
  let d := Std.Time.PlainDateTime.ofWallTime (t.toWallTime .zero)
  { year := d.date.year.toInt.toNat
    month := d.date.month.val.toNat
    day := d.date.day.val.toNat
    hour := d.time.hour.val.toNat
    minute := d.time.minute.val.toNat
    second := d.time.second.val.toNat
    nanosecond := d.time.nanosecond.val.toNat
    west := false
    offsetHour := 0
    offsetMinute := 0 }

def stampNow : IO Run.Stamp := do
  let now := (Timestamp.ofReading? (reading (← Std.Time.Timestamp.now))).getD .epoch
  return { version := "0.1.0", startedAt := now, finishedAt := now }

/-! ## Commands -/

/-- Shows what a command leaves behind, and ends with its code. -/
def finish (o : Command.Outcome) : IO UInt32 := do
  IO.print o.stdout
  IO.eprint o.stderr
  return UInt32.ofNat o.code

def calledName : IO String := return ((← IO.appPath).fileStem).getD toolName

/-- Runs the command that the program was called as. -/
def run (args : List String) : IO UInt32 := do
  let stamp ← stampNow
  if (← calledName) == "xtask" then
    let tasks := (← IO.getEnv "CARGO_MANIFEST_DIR").getD "."
    finish (← Command.Upkeep.call disk stamp tasks args)
  else
    finish (← Command.Tool.call disk stamp args)

end Signoff.Main

def main (args : List String) : IO UInt32 := Signoff.Main.run args

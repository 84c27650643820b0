/-
# `Signoff.Command.Tool` — what the tool does on request

A check reads its two files, runs, and writes the report and the views that are wanted; it ends with
0 for a PASS and with 2 for a FAIL.  A problem with its input is neither: nothing is written, and the
code is 1.  A view is made from a report that is read back.  The engine behind a check is one that
refuses no glob (`Run.run`); any other may stop the tool, but only before something is written.
-/
import Signoff.Failure
import Signoff.Command.Request
import Signoff.Disk
import Signoff.Report.Codec
import Signoff.Run

namespace Signoff.Command

/-- An action that may fail, and what is left of a failure by its surroundings. -/
abbrev Attempt (m : Type → Type) := ExceptT Failure m

namespace Tool

variable {m : Type → Type} [Monad m]

/-! ## Files -/

/-- An action on a file, as a step of a command. -/
def diskStep (context : String) (act : m (Except DiskFault α)) : Attempt m α :=
  ExceptT.mk do
    return (← act).mapError fun e => ⟨[context], .disk e⟩

/-- A step with what happens in it. -/
def within (context : String) (act : Attempt m α) : Attempt m α :=
  ExceptT.mk do
    return (← act.run).mapError (Failure.within context)

def readFile (disk : Disk m) (what path : String) : Attempt m String :=
  diskStep (what ++ ": " ++ path) (disk.read path)

/-- Writes a file, with the directories around it. -/
def writeFile (disk : Disk m) (path text : String) : Attempt m Unit := do
  match PathText.parent? path with
  | some directory =>
    if !directory.isEmpty then
      diskStep ("create directory: " ++ directory) (disk.makeDirs directory)
  | none => pure ()
  diskStep ("write file: " ++ path) (disk.write path text)

/-! ## The check -/

/-- The views that are wanted, in order. -/
def wantedViews (files : CheckFiles) : List (View × String) :=
  [(View.log, files.log), (View.rpt, files.rpt), (View.markdown, files.markdown)].filterMap
    fun w => w.2.map fun path => (w.1, path)

/-- Runs the check and writes its report and views; gives the exit code. -/
def check (disk : Disk m) (stamp : Run.Stamp) (files : CheckFiles) : Attempt m Nat := do
  let config ← readFile disk "read check configuration" files.config
  let evidence ← readFile disk "read evidence" files.evidence
  let report ← ExceptT.mk (pure (Run.run stamp config evidence))
  within "write result json" (writeFile disk files.report report.serialize)
  for (v, path) in wantedViews files do
    within ("write " ++ v.title ++ " view") (writeFile disk path (report.render v))
  return report.result.status.exitCode

/-! ## Views -/

def viewText (disk : Disk m) (v : View) (path : String) : Attempt m String := do
  let text ← readFile disk "read report" path
  let report ← ExceptT.mk (pure (Report.parse text))
  return report.render v

/-- Shows a view; gives what goes to the standard output. -/
def view (disk : Disk m) (v : View) (path : String) : Option String → Attempt m String
  | none => viewText disk v path
  | some output => do
    within "write rendered output" (writeFile disk output (← viewText disk v path))
    return ""

/-! ## Requests -/

/-- Does what is asked for. -/
def serve (disk : Disk m) (stamp : Run.Stamp) : Request → m Outcome
  | .check files => do
    match ← (check disk stamp files).run with
    | .ok code => return { code := code }
    | .error f => return { code := 1, stderr := toolName ++ " error: " ++ f.message ++ "\n" }
  | .view v path output => do
    match ← (view disk v path output).run with
    | .ok text => return { stdout := text }
    | .error f => return .failed f.chain
  | .explain text => return { stdout := text }
  | .refuse text => return { code := 2, stderr := text }

/-- Does what the words of a command line ask for. -/
def call (disk : Disk m) (stamp : Run.Stamp) (words : List String) : m Outcome :=
  serve disk stamp (.ofArgs stamp.version words)

end Tool

end Signoff.Command

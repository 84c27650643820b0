/-
# `Signoff.Command.Upkeep` — keeping schemas and fixtures in step with the tool

The schemas of the tool's documents are published as files, and fixtures show what it makes of known
input: a configuration, evidence, and the report that is expected, which is missing where the
configuration has to be refused.  The tasks here write the schemas, examine whether they are up to
date, hold the expected reports against their schema, and run every fixture again.  What a schema
reads like is not decided here: the texts are a parameter of the tasks that write and compare them.

A task tells what it does on the way, and what it told stays told when it fails (`Task`).
-/
import Signoff.Failure
import Signoff.Conformance
import Signoff.Disk
import Signoff.Golden
import Signoff.Json.Reader
import Signoff.Report.Codec
import Signoff.Run

namespace Signoff.Command

open Signoff.Conformance (structuralErrors reportShape)

/-- A task: it tells things and may fail for a chain of reasons. -/
abbrev Task (m : Type → Type) := ExceptT (List String) (StateT Outcome m)

namespace Upkeep

variable {m : Type → Type} [Monad m]

/-! ## Steps of a task -/

/-- Tells a line on the standard output. -/
def tell (line : String) : Task m Unit :=
  modify fun o => { o with stdout := o.stdout ++ line ++ "\n" }

/-- Tells lines on the standard error. -/
def warn (ls : List String) : Task m Unit :=
  modify fun o => { o with stderr := o.stderr ++ lines ls }

def fail (reason : String) : Task m α := throw [reason]

def diskStep (context : String) (act : m (Except DiskFault α)) : Task m α :=
  ExceptT.mk do
    return (← StateT.lift act).mapError fun e => [context, e.message]

/-- An action that cannot fail. -/
def look (act : m α) : Task m α := ExceptT.mk do
  return .ok (← StateT.lift act)

/-- Fails if there are faults, which are listed first. -/
def reportFaults (what : String) (faults : List String) : Task m Unit := do
  if faults ≠ [] then
    warn (faults.map ("  - " ++ ·))
    fail (what ++ " failed with " ++ Text.decimal faults.length ++ " errors")

/-! ## Places -/

/-- The directory of the project: that of the tasks itself, or the one around it. -/
def projectRoot (tasks : String) : String :=
  if PathText.lastName tasks == "xtask" then (PathText.parent? tasks).getD tasks else tasks

def schemasDir (root : String) : String := PathText.join root "schemas"

def fixturesDir (root : String) : String := PathText.join (PathText.join root "tests") "fixtures"

/-- The names of the fixtures, in order. -/
def fixtureNames (disk : Disk m) (root : String) : Task m (List String) := do
  let names ← diskStep ("Failed to read " ++ fixturesDir root) (disk.directories (fixturesDir root))
  return names.mergeSort fun a b => decide (a ≤ b)

def fixtureFile (root name file : String) : String :=
  PathText.join (PathText.join (fixturesDir root) name) file

def expectedName : String := "expected.result.json"

def readJson (disk : Disk m) (path : String) : Task m Json.Value := do
  let text ← diskStep ("Failed to read " ++ path) (disk.read path)
  match Json.Value.ofText? text with
  | some v => return v
  | none => fail ("Failed to parse " ++ path)

/-! ## Schemas -/

/-- The names of the schemas that are published, in order. -/
def schemaNames : List String := [Report.schemaName, Config.schemaName]

def schemaFile (name : String) : String := name ++ ".json"

section Schemas

variable (disk : Disk m) (schemaText : String → String) (root : String)

def emitSchemas : Task m Unit := do
  let directory := schemasDir root
  diskStep "Failed to create schemas directory" (disk.makeDirs directory)
  for name in schemaNames do
    let path := PathText.join directory (schemaFile name)
    diskStep ("Failed to write schema to " ++ path) (disk.write path (schemaText name))
    tell ("Wrote " ++ path)
  tell "\nSchemas emitted successfully."

/-- How a published schema compares with what would be written. -/
inductive SchemaState where
  | current
  | missing
  | outdated
  deriving DecidableEq, Repr

def schemaState (name : String) : Task m SchemaState := do
  let path := PathText.join (schemasDir root) (schemaFile name)
  if ← look (disk.isThere path) then
    let text ← diskStep ("Failed to read " ++ path) (disk.read path)
    return if text == schemaText name then .current else .outdated
  else return .missing

/-- A list of files under a heading, if there are any. -/
def fileList (heading : String) (names : List String) : List String :=
  if names = [] then [] else heading :: names.map ("  - " ++ ·)

def validateSchemas : Task m Unit := do
  let states ← schemaNames.mapM fun name =>
    return (schemaFile name, ← schemaState disk schemaText root name)
  let inState := fun state => (states.filter (·.2 == state)).map Prod.fst
  if states.all (·.2 == .current) then tell "All schemas are up to date."
  else
    warn (fileList "Missing schemas:" (inState .missing) ++
      fileList "Schemas out of date:" (inState .outdated) ++
      ["\nRun \x60cargo xtask emit-schemas\x60 to regenerate."])
    fail "Schema validation failed"

end Schemas

def printSchemaIds : Task m Unit := schemaNames.forM tell

/-! ## Expected reports -/

/-- Everything that is wrong with an expected report. -/
def reportErrors (v : Json.Value) : List String :=
  List.replicate (reportShape.faults v) "schema validation" ++ structuralErrors v

/-- What is wrong with the expected report of a fixture; `none` if it has none. -/
def expectedErrors (disk : Disk m) (root name : String) : Task m (Option (List String)) := do
  let path := fixtureFile root name expectedName
  if ← look (disk.isThere path) then
    let errors := reportErrors (← readJson disk path)
    return some (errors.map fun e => name ++ ": " ++ e)
  else return none

/-- Holds the expected reports against their schema. -/
def conform (disk : Disk m) (root : String) : Task m Unit := do
  tell ("✓ " ++ Report.schemaName ++ " schema compiles")
  let errors ← (← fixtureNames disk root).mapM (expectedErrors disk root)
  let examined := errors.filterMap id
  reportFaults "Conformance validation" examined.flatten
  tell ("✓ " ++ Text.decimal examined.length ++ " golden results conform")

/-! ## Fixtures -/

/-- Is the report the expected one, but for what changes from run to run? -/
def isExpected (r : Report) (expected : Json.Value) : Bool :=
  Golden.normalize r.toJson.canonical == Golden.normalize expected

/-- Runs a fixture; gives what is wrong with what it does. -/
def runFixture (disk : Disk m) (stamp : Run.Stamp) (root name : String) :
    Task m (Option String) := do
  let input := fun file =>
    diskStep (name ++ ": read " ++ file) (disk.read (fixtureFile root name file))
  let config ← input "check.toml"
  let evidence ← input "evidence.json"
  let path := fixtureFile root name expectedName
  match Run.run stamp config evidence, ← look (disk.isThere path) with
  | .ok r, true =>
    if isExpected r (← readJson disk path) then
      tell ("✓ " ++ name)
      return none
    else return some (name ++ ": output differs from " ++ expectedName)
  | .ok _, false => return some (name ++ ": expected a configuration error, got a result")
  | .error f, true => return some (name ++ ": " ++ f.message)
  | .error _, false =>
    tell ("✓ " ++ name ++ " (configuration error)")
    return none

def conformFull (disk : Disk m) (stamp : Run.Stamp) (root : String) : Task m Unit := do
  let faults ← (← fixtureNames disk root).mapM (runFixture disk stamp root)
  reportFaults "Full conformance" (faults.filterMap id)
  tell "\n✓ Full conformance checks passed!"

/-! ## Tasks by name -/

def helpLines : List String :=
  ["xtask commands:",
   "  help              Show this message",
   "  emit-schemas      Write JSON schemas to schemas/",
   "  validate-schemas  Check schemas/ matches the Rust types",
   "  print-schema-ids  Print known schema IDs",
   "  conform           Validate golden results against the result schema",
   "  conform-full      Re-run every fixture and compare with its golden result"]

def task? (disk : Disk m) (stamp : Run.Stamp) (schemaText : String → String)
    (root name : String) : Option (Task m Unit) :=
  match name with
  | "help" | "--help" | "-h" => some (warn helpLines)
  | "emit-schemas" => some (emitSchemas disk schemaText root)
  | "validate-schemas" => some (validateSchemas disk schemaText root)
  | "conform" => some (conform disk root)
  | "conform-full" => some (conformFull disk stamp root)
  | "print-schema-ids" => some printSchemaIds
  | _ => none

def outcome (t : Task m Unit) : m Outcome := do
  match ← t.run.run {} with
  | (.ok _, o) => return o
  | (.error chain, o) =>
    return { o with code := 1, stderr := o.stderr ++ failureText ("xtask failed" :: chain) }

/-- Does the task that the first word names; without a word, tells about the tasks.  Where no texts
of the schemas are given, a schema is nothing but its name. -/
def call (disk : Disk m) (stamp : Run.Stamp) (tasks : String) (words : List String)
    (schemaText : String → String := id) : m Outcome :=
  let name := words.head?.getD "help"
  match task? disk stamp schemaText (projectRoot tasks) name with
  | some t => outcome t
  | none =>
    return .failed ["unknown xtask command: " ++ name ++
      "\n\nRun \x60cargo xtask help\x60 for usage."]

end Upkeep

end Signoff.Command

/-
# `Signoff.Report.Codec` — reports as JSON documents

A report is written with its fields in a fixed order and the parts of its result among them; what is
empty or unknown is left out.  Reading accepts every order, passes over unknown fields, and takes a
record as the array of its fields too, for the report itself excepted.  A report that has the right
shape is accepted only if its groups and items agree.
-/
import Signoff.Failure
import Signoff.Json.Value
import Signoff.Json.Printer
import Signoff.Json.Reader
import Signoff.Report

namespace Signoff

open Signoff.Json (Value)
open Signoff.Json.Value (optionMember)

/-! ## Writing -/

def DetailItem.toJson (d : DetailItem) : Value :=
  .object <|
    [("name", .string d.name), ("severity", .string d.severity.word), ("group", .string d.group),
     ("reason", .string d.reason)] ++
    optionMember "line_number" Value.ofCount d.line ++
    optionMember "source_path" (fun p => Value.string p.text) d.path ++
    optionMember "detail" Value.string d.detail ++
    (if d.fingerprint.isEmpty then [] else [("fingerprint", .string d.fingerprint)])

def ResultGroup.toJson (g : ResultGroup) : Value :=
  .object
    [("label", .string g.label), ("severity", .string g.severity.word),
     ("description", .string g.description), ("items", .ofStrings g.items)]

def CheckResult.members (r : CheckResult) : List (String × Value) :=
  [("status", .string r.status.word), ("waived", .bool r.waived),
   ("groups", .array (r.groups.map ResultGroup.toJson)),
   ("details", .array (r.details.map DetailItem.toJson))]

def CheckResult.toJson (r : CheckResult) : Value := .object r.members

def BucketCounts.toJson (c : BucketCounts) : Value :=
  .object
    [("found", .ofCount c.found), ("missing", .ofCount c.missing),
     ("violations", .ofCount c.violations), ("extra", .ofCount c.extra),
     ("waived", .ofCount c.waived), ("unwaived", .ofCount c.unwaived),
     ("unused_waivers", .ofCount c.unusedWaivers), ("waive_comments", .ofCount c.waiveComments)]

def ToolMeta.toJson (t : ToolMeta) : Value :=
  .object [("name", .string t.name), ("version", .string t.version)]

def CheckMeta.toJson (c : CheckMeta) : Value :=
  .object
    [("id", .string c.id), ("description", .string c.description),
     ("check_type", .number (.integer c.type.number))]

def Report.toJson (r : Report) : Value :=
  .object <|
    [("schema", .string r.schema), ("tool", r.tool.toJson),
     ("started_at", .string r.startedAt.text), ("finished_at", .string r.finishedAt.text),
     ("check", r.check.toJson)] ++ r.result.members ++ [("summary", r.summary.toJson)] ++
    (if r.warnings.isEmpty then [] else [("config_warnings", .ofStrings r.warnings)])

/-- The text of a report, one item or member a line. -/
def Report.serialize (r : Report) : String := r.toJson.pretty

/-! ## Reading results

In a report the parts of the result lie among its other fields.  There, and only there, a word that
is written as the key of an object may have an empty object as its value as well as null. -/

/-- Where a result is read from. -/
inductive ResultPlace where
  | alone
  | inReport
  deriving DecidableEq, Repr

/-- A word, plain or as the only key of an object. -/
def word? (place : ResultPlace) : Value → Option String
  | .string s => some s
  | .object [(s, .null)] => some s
  | .object [(s, .object [])] => if place = .inReport then some s else none
  | _ => none

def Severity.ofJson? (place : ResultPlace) (v : Value) : Option Severity :=
  (word? place v).bind Severity.ofWord?

def Status.ofJson? (place : ResultPlace) (v : Value) : Option Status :=
  (word? place v).bind Status.ofWord?

/-- A path, in the spelling that is written. -/
def SourcePath.ofJson? (v : Value) : Option SourcePath := v.string?.map SourcePath.mk

def DetailItem.ofJson? (place : ResultPlace) (v : Value) : Option DetailItem := do
  let field ← v.record?
    ["name", "severity", "group", "reason", "line_number", "source_path", "detail", "fingerprint"]
  return {
    name := ← Json.Field.required Value.string? (field "name")
    severity := ← Json.Field.required (Severity.ofJson? place) (field "severity")
    group := ← Json.Field.required Value.string? (field "group")
    reason := ← Json.Field.required Value.string? (field "reason")
    line := ← Value.optional Value.count? (field "line_number")
    path := ← Value.optional SourcePath.ofJson? (field "source_path")
    detail := ← Value.optional Value.string? (field "detail")
    fingerprint := ← Json.Field.orElse "" Value.string? (field "fingerprint") }

def ResultGroup.ofJson? (place : ResultPlace) (v : Value) : Option ResultGroup := do
  let field ← v.record? ["label", "severity", "description", "items"]
  return {
    label := ← Json.Field.required Value.string? (field "label")
    severity := ← Json.Field.required (Severity.ofJson? place) (field "severity")
    description := ← Json.Field.required Value.string? (field "description")
    items := ← Json.Field.required Value.strings? (field "items") }

def listOfJson? (read : Value → Option β) (v : Value) : Option (List β) :=
  v.items?.bind (·.mapM read)

def CheckResult.fieldNames : List String := ["status", "waived", "groups", "details"]

/-- A result, given its fields; not yet checked. -/
def CheckResult.ofFields? (place : ResultPlace) (field : String → Option Value) :
    Option CheckResult := do
  return {
    status := ← Json.Field.required (Status.ofJson? place) (field "status")
    waived := ← Json.Field.required Value.bool? (field "waived")
    groups := ← Json.Field.required (listOfJson? (ResultGroup.ofJson? place)) (field "groups")
    details := ← Json.Field.required (listOfJson? (DetailItem.ofJson? place)) (field "details") }

/-- A result with parts that agree. -/
def CheckResult.check (r : CheckResult) : Except Cause CheckResult :=
  match r.checked with
  | .ok r => .ok r
  | .error e => .error (.inconsistent e)

/-- The value, or the cause that there is none. -/
def orMalformed : Option α → Except Cause α
  | some v => .ok v
  | none => .error .malformed

/-- A result on its own. -/
def CheckResult.ofJson (v : Value) : Except Cause CheckResult := do
  let field ← orMalformed (v.record? CheckResult.fieldNames)
  (← orMalformed (CheckResult.ofFields? .alone field)).check

/-! ## Reading reports -/

/-- A check type: a number below 256, which then has to be one of the four. -/
def CheckType.ofJson (v : Value) : Except Cause CheckType :=
  match v with
  | .number (.integer n) =>
    if 0 ≤ n ∧ n < 256 then
      match CheckType.ofNumber? n.toNat with
      | some t => .ok t
      | none => .error (.checkType n.toNat)
    else .error .malformed
  | _ => .error .malformed

/-- What was checked.  Fields are read in the order they are met: by name in the order of the keys,
else as they stand. -/
def CheckMeta.ofJson (v : Value) : Except Cause CheckMeta :=
  let text := fun (field : Option Value) => orMalformed (Json.Field.required Value.string? field)
  match v with
  | .object members => do
    let type ← CheckType.ofJson (← orMalformed (members.lookup "check_type"))
    let description ← text (members.lookup "description")
    let id ← text (members.lookup "id")
    return ⟨id, description, type⟩
  | .array items => do
    let id ← text items[0]?
    let description ← text items[1]?
    let type ← CheckType.ofJson (← orMalformed items[2]?)
    if 3 < items.length then .error .malformed else return ⟨id, description, type⟩
  | _ => .error .malformed

def ToolMeta.ofJson? (v : Value) : Option ToolMeta := do
  let field ← v.record? ["name", "version"]
  return {
    name := ← Json.Field.required Value.string? (field "name")
    version := ← Json.Field.required Value.string? (field "version") }

def BucketCounts.ofJson? (v : Value) : Option BucketCounts := do
  let field ← v.record?
    ["found", "missing", "violations", "extra", "waived", "unwaived", "unused_waivers",
     "waive_comments"]
  let count := fun name => Json.Field.required Value.count? (field name)
  return {
    found := ← count "found"
    missing := ← count "missing"
    violations := ← count "violations"
    extra := ← count "extra"
    waived := ← count "waived"
    unwaived := ← count "unwaived"
    unusedWaivers := ← count "unused_waivers"
    waiveComments := ← count "waive_comments" }

def Timestamp.ofJson? (v : Value) : Option Timestamp := v.string?.bind Timestamp.ofText?

/-- A report, given its fields and what was checked; its result is not yet checked. -/
def Report.ofFields? (field : String → Option Value) (check : CheckMeta) : Option Report := do
  return {
    schema := ← Json.Field.required Value.string? (field "schema")
    tool := ← Json.Field.required ToolMeta.ofJson? (field "tool")
    startedAt := ← Json.Field.required Timestamp.ofJson? (field "started_at")
    finishedAt := ← Json.Field.required Timestamp.ofJson? (field "finished_at")
    check := check
    result := ← CheckResult.ofFields? .inReport field
    summary := ← Json.Field.required BucketCounts.ofJson? (field "summary")
    warnings := ← Json.Field.orElse [] Value.strings? (field "config_warnings") }

/-- A report.  What was checked is read first, and the result is checked last. -/
def Report.ofJson (v : Value) : Except Cause Report :=
  match v with
  | .object members => do
    let check ← CheckMeta.ofJson (← orMalformed (members.lookup "check"))
    let r ← orMalformed (Report.ofFields? (fun name => members.lookup name) check)
    let result ← r.result.check
    return { r with result := result }
  | _ => .error .malformed

/-- The schema that a value says it is written by. -/
def declaredSchema (v : Value) : String := ((v.get? "schema").bind Value.string?).getD ""

/-- The report that a text holds. -/
def Report.parse (text : String) : Except Failure Report :=
  match Value.ofText? text with
  | none => .error { contexts := ["parse report json"], cause := .malformed }
  | some v =>
    if declaredSchema v ≠ Report.schemaName then
      .error { cause := .schema "report" (declaredSchema v) Report.schemaName }
    else
      match Report.ofJson v with
      | .ok r => .ok r
      | .error e => .error { contexts := ["parse chkgate result"], cause := e }

end Signoff

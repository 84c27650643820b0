/-
# `Signoff.Report` — the report of a check and its views

A report is what is kept of a run: when and by what it was made, what was checked, the result and a
summary of it, and what was odd about the configuration.

Three texts show a report: the log lists the names group by group, the rpt view numbers the items of
each severity with their places, and the Markdown view is a page with both.  A view is made from what
is to be shown alone (`Shown`).
-/
import Signoff.Result
import Signoff.Timestamp
import Signoff.Verdict

namespace Signoff

structure ToolMeta where
  name : String
  version : String
  deriving DecidableEq, Repr

/-- What was checked. -/
structure CheckMeta where
  id : String
  description : String
  type : CheckType
  deriving DecidableEq, Repr

structure Report where
  schema : String
  tool : ToolMeta
  startedAt : Timestamp
  finishedAt : Timestamp
  check : CheckMeta
  result : CheckResult
  summary : BucketCounts
  /-- What was odd about the configuration. -/
  warnings : List String := []
  deriving DecidableEq

def Report.schemaName : String := "chkgate.result.v1"

def toolName : String := "chkgate"

/-! ## Views -/

/-- An item as it is shown. -/
structure ShownItem where
  severity : Severity
  name : String
  reason : String
  line : Option UInt32 := none
  path : Option String := none
  deriving DecidableEq, Repr

/-- What a view shows. -/
structure Shown where
  checkId : String
  description : String
  /-- The label of the verdict. -/
  status : String
  groups : List ResultGroup
  items : List ShownItem
  warnings : List String := []
  deriving DecidableEq, Repr

def DetailItem.shown (d : DetailItem) : ShownItem :=
  ⟨d.severity, d.name, d.reason, d.line, d.path.map SourcePath.text⟩

def Report.shown (r : Report) : Shown where
  checkId := r.check.id
  description := r.check.description
  status := r.result.statusLabel
  groups := r.result.groups
  items := r.result.details.map DetailItem.shown
  warnings := r.warnings

inductive View where
  | log
  | rpt
  | markdown
  deriving DecidableEq, Repr

def View.title : View → String
  | log => "Log"
  | rpt => "Rpt"
  | markdown => "Markdown"

namespace Shown

def lines (f : α → String) (xs : List α) : String := String.join (xs.map f)

def itemsOf (c : Shown) (s : Severity) : List ShownItem := c.items.filter (·.severity == s)

/-! ## Log -/

def logGroup (checkId : String) (g : ResultGroup) : String :=
  checkId ++ "-" ++ g.label ++ ":\n  " ++ g.description ++ ":\n" ++
    lines (fun name => "    " ++ name ++ "\n") g.items

/-- The verdict, then every group with its description and its names. -/
def log (c : Shown) : String :=
  c.status ++ ":" ++ c.checkId ++ ":" ++ c.description ++ "\n" ++ lines (logGroup c.checkId) c.groups

/-! ## Rpt -/

/-- The place of an item, as far as it is known. -/
def rptPlace (i : ShownItem) : String :=
  match i.line, i.path with
  | some line, some path => ". In line " ++ Text.decimal line.toNat ++ ", " ++ path
  | none, some path => ". In " ++ path
  | some line, none => ". In line " ++ Text.decimal line.toNat
  | none, none => ""

/-- The `k`-th item of a severity. -/
def rptItem (s : Severity) (i : ShownItem) (k : Nat) : String :=
  Text.decimal k ++ ": " ++ s.title ++ ": " ++ i.name ++ rptPlace i ++ ": " ++ i.reason ++ "\n"

/-- The items of a severity, if there are any. -/
def rptSection (c : Shown) (s : Severity) : String :=
  let items := c.itemsOf s
  if items.isEmpty then ""
  else
    s.title ++ " Occurrence: " ++ Text.decimal items.length ++ "\n" ++
      lines (fun i => rptItem s i.1 i.2) (items.zipIdx 1)

/-- The verdict, then the items of every severity. -/
def rpt (c : Shown) : String :=
  c.checkId ++ ": " ++ c.status ++ "\n" ++ lines c.rptSection Severity.all

/-! ## Markdown -/

/-- The place of an item; a line without a path is not shown. -/
def bulletPlace (i : ShownItem) : String :=
  match i.path, i.line with
  | some path, some line => " (\x60" ++ path ++ "\x60:" ++ Text.decimal line.toNat ++ ")"
  | some path, none => " (\x60" ++ path ++ "\x60)"
  | none, _ => ""

def bullet (i : ShownItem) : String :=
  "- \x60" ++ i.name ++ "\x60: " ++ i.reason ++ bulletPlace i ++ "\n"

def countLine (c : Shown) (s : Severity) : String :=
  "- " ++ s.title ++ ": " ++ Text.decimal (c.itemsOf s).length ++ "\n"

def warningBlock (c : Shown) : String :=
  if c.warnings.isEmpty then ""
  else "## Configuration warnings\n\n" ++ lines (fun w => "> " ++ w ++ "\n") c.warnings ++ "\n"

/-- The groups one after the other; each takes as many items as it lists names. -/
def markdownGroups : List ShownItem → List ResultGroup → String
  | _, [] => ""
  | items, g :: gs =>
    "## " ++ g.label ++ ": " ++ g.description ++ "\n\n" ++
      lines bullet (items.take g.items.length) ++ "\n" ++
      markdownGroups (items.drop g.items.length) gs

/-- A page with the verdict, the counts, the warnings and the groups with their items. -/
def markdown (c : Shown) : String :=
  "# chkgate report\n\n- Check: \x60" ++ c.checkId ++ "\x60 " ++ c.description ++
    "\n- Status: **" ++ c.status ++ "**\n" ++ lines c.countLine Severity.all ++ "\n" ++
    c.warningBlock ++
    (if c.groups.isEmpty then "No items.\n" else markdownGroups c.items c.groups)

def render (c : Shown) : View → String
  | .log => c.log
  | .rpt => c.rpt
  | .markdown => c.markdown

end Shown

def Report.render (r : Report) (v : View) : String := r.shown.render v

end Signoff

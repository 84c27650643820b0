/-
# `Signoff.Result` — the result of a check

A result lists the same items twice: grouped by name for the log, and one by one with everything
that is known of them.  A group is known by its label, and an item names the label of its group.

When a result is laid out (`ResultBuilder`), groups are opened in any order and filled in any order;
empty groups disappear, the others are put in the order of the severities and numbered, and every
item is written to the group and to the details by one rule.

A result that was read from a file is accepted only if its labels are distinct, every group lists
the names of its items in order and shares their severity, every item has a group, and there is a
group of errors exactly when the status is FAIL (`CheckResult.checked`).  The groups are examined one
after the other, and the first disagreement is the one reported.
-/
import Signoff.Finding
import Signoff.Severity
import Signoff.Text.Basic
import Signoff.Text.Quoted

namespace Signoff

/-- Everything known of one item. -/
structure DetailItem where
  /-- As listed in the item's group. -/
  name : String
  severity : Severity
  /-- Label of the group that lists the item. -/
  group : String
  /-- Why the item is listed there, tags included. -/
  reason : String
  line : Option UInt32 := none
  path : Option SourcePath := none
  /-- What the parser or the waiver had to add. -/
  detail : Option String := none
  /-- Identifies the item across runs. -/
  fingerprint : String := ""
  deriving DecidableEq, Repr

/-- The names listed under one label. -/
structure ResultGroup where
  label : String
  severity : Severity
  description : String
  items : List String
  deriving DecidableEq, Repr

/-- The verdict with its groups and items. -/
structure CheckResult where
  status : Status
  /-- Was a PASS reached through waivers? -/
  waived : Bool
  groups : List ResultGroup
  details : List DetailItem
  deriving DecidableEq, Repr

namespace CheckResult

def isSuccess (r : CheckResult) : Bool := r.status == .pass

def statusLabel (r : CheckResult) : String := r.status.label r.waived

def group? (r : CheckResult) (label : String) : Option ResultGroup :=
  r.groups.find? (·.label == label)

def detailsIn (r : CheckResult) (label : String) : List DetailItem :=
  r.details.filter (·.group == label)

def hasErrorGroup (r : CheckResult) : Bool := r.groups.any (·.severity == .error)

end CheckResult

/-! ## Laying a result out -/

/-- An item before the label of its group is known. -/
structure ItemDraft where
  name : String
  reason : String
  line : Option UInt32 := none
  path : Option SourcePath := none
  detail : Option String := none
  fingerprint : String := ""
  deriving DecidableEq, Repr

/-- A group before it has a label. -/
structure GroupDraft where
  severity : Severity
  description : String
  items : List ItemDraft := []
  deriving DecidableEq, Repr

/-- A group of a builder, known by its place in the order of opening. -/
structure GroupHandle where
  index : Nat
  deriving DecidableEq, Repr

/-- The groups opened so far, in order. -/
structure ResultBuilder where
  groups : List GroupDraft := []
  deriving DecidableEq, Repr

/-- A group with its label. -/
structure LabelledGroup where
  label : String
  draft : GroupDraft
  deriving DecidableEq, Repr

namespace LabelledGroup

def number (d : GroupDraft) (k : Nat) : LabelledGroup := ⟨d.severity.tag ++ Text.twoDigits k, d⟩

def group (g : LabelledGroup) : ResultGroup :=
  ⟨g.label, g.draft.severity, g.draft.description, g.draft.items.map ItemDraft.name⟩

def item (g : LabelledGroup) (d : ItemDraft) : DetailItem :=
  ⟨d.name, g.draft.severity, g.label, d.reason, d.line, d.path, d.detail, d.fingerprint⟩

def details (g : LabelledGroup) : List DetailItem := g.draft.items.map g.item

end LabelledGroup

namespace ResultBuilder

def openGroup (b : ResultBuilder) (severity : Severity) (description : String) :
    ResultBuilder × GroupHandle :=
  (⟨b.groups ++ [⟨severity, description, []⟩]⟩, ⟨b.groups.length⟩)

/-- The severity of a group; a handle of another builder may point at none. -/
def severityOf? (b : ResultBuilder) (g : GroupHandle) : Option Severity :=
  b.groups[g.index]?.map GroupDraft.severity

/-- One more item in a group; nothing happens if the handle points at none. -/
def push (b : ResultBuilder) (g : GroupHandle) (d : ItemDraft) : ResultBuilder :=
  ⟨b.groups.modify g.index fun x => { x with items := x.items ++ [d] }⟩

/-- The groups of a severity that have items, in the order of opening. -/
def filled (b : ResultBuilder) (s : Severity) : List GroupDraft :=
  b.groups.filter fun g => g.severity == s && !g.items.isEmpty

/-- The groups of a severity with their labels. -/
def labelled (b : ResultBuilder) (s : Severity) : List LabelledGroup :=
  ((b.filled s).zipIdx 1).map fun g => LabelledGroup.number g.1 g.2

/-- The groups in the order of the output. -/
def layout (b : ResultBuilder) : List LabelledGroup := Severity.all.flatMap b.labelled

/-- The result with the given verdict. -/
def finish (b : ResultBuilder) (status : Status) (waived : Bool) : CheckResult :=
  ⟨status, waived, b.layout.map LabelledGroup.group, b.layout.flatMap LabelledGroup.details⟩

end ResultBuilder

/-! ## Do groups and items agree? -/

/-- How the parts of a result disagree. -/
inductive Inconsistency where
  | repeatedLabel (label : String)
  | itemsDiffer (label : String) (items names : List String)
  | severityDiffers (name label : String)
  | missingGroup (name label : String)
  | statusDisagrees (status : Status) (hasErrorGroup : Bool)
  deriving DecidableEq, Repr

namespace Inconsistency

def message : Inconsistency → String
  | repeatedLabel label => "group " ++ label ++ " appears twice"
  | itemsDiffer label items names =>
    "group " ++ label ++ " lists " ++ Text.quotedList items ++ " but its detail items are " ++
      Text.quotedList names
  | severityDiffers name label =>
    "detail item " ++ name ++ " has a different severity than group " ++ label
  | missingGroup name label => "detail item " ++ name ++ " refers to missing group " ++ label
  | statusDisagrees status hasErrorGroup =>
    "status " ++ status.title ++ " does not agree with the groups (error group present: " ++
      (if hasErrorGroup then "true" else "false") ++ ")"

end Inconsistency

namespace CheckResult

/-- What is wrong with a group, the labels before it given. -/
def groupFault? (r : CheckResult) (before : List String) (g : ResultGroup) : Option Inconsistency :=
  let details := r.detailsIn g.label
  let names := details.map DetailItem.name
  if before.contains g.label then some (.repeatedLabel g.label)
  else if names != g.items then some (.itemsDiffer g.label g.items names)
  else (details.find? (·.severity != g.severity)).map fun d => .severityDiffers d.name g.label

/-- What is wrong with the first faulty group, the labels before it given. -/
def groupsFault? (r : CheckResult) (before : List String) : List ResultGroup → Option Inconsistency
  | [] => none
  | g :: gs => (r.groupFault? before g).or (r.groupsFault? (g.label :: before) gs)

/-- The first item without a group. -/
def orphan? (r : CheckResult) : Option Inconsistency :=
  (r.details.find? fun d => !(r.groups.map ResultGroup.label).contains d.group).map fun d =>
    .missingGroup d.name d.group

/-- A status that the groups speak against. -/
def statusFault? (r : CheckResult) : Option Inconsistency :=
  if r.hasErrorGroup == (r.status == .fail) then none
  else some (.statusDisagrees r.status r.hasErrorGroup)

/-- The first disagreement between the parts of the result. -/
def inconsistency? (r : CheckResult) : Option Inconsistency :=
  (r.groupsFault? [] r.groups).or (r.orphan?.or r.statusFault?)

/-- The result, if its parts agree. -/
def checked (r : CheckResult) : Except Inconsistency CheckResult :=
  match r.inconsistency? with
  | some e => .error e
  | none => .ok r

end CheckResult

end Signoff

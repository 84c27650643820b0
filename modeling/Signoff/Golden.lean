/-
# `Signoff.Golden` — reports without what changes from run to run

Two reports of the same check differ in the version of the tool and in the points in time.  Before
they are compared, these are replaced by placeholders: the version where a report has it, points in
time wherever they are.
-/
import Signoff.Json.Value

namespace Signoff.Golden

open Signoff.Json (Value)

/-- What stands for a version. -/
def versionPlaceholder : Value := .string "__VERSION__"

def timePlaceholder : Value := .string "__TIMESTAMP__"

def isTimeKey (key : String) : Bool := key == "started_at" || key == "finished_at"

mutual

/-- The value with placeholders for the points in time at any depth. -/
def maskTimes : Value → Value
  | .array items => .array (maskItems items)
  | .object members => .object (maskMembers members)
  | v => v

def maskItems : List Value → List Value
  | [] => []
  | v :: vs => maskTimes v :: maskItems vs

def maskMembers : List (String × Value) → List (String × Value)
  | [] => []
  | (k, v) :: ms => (k, if isTimeKey k then timePlaceholder else maskTimes v) :: maskMembers ms

end

/-- The keys by which a report is recognised. -/
def envelopeKeys : List String := ["schema", "tool", "check", "status", "groups"]

/-- The members of a tool, its version replaced. -/
def maskVersion (members : List (String × Value)) : List (String × Value) :=
  members.map fun m => if m.1 == "version" then (m.1, versionPlaceholder) else m

/-- The members of a report, the version of its tool replaced. -/
def maskTool (members : List (String × Value)) : List (String × Value) :=
  members.map fun m =>
    match m with
    | (k, .object tool) => (k, .object (if k == "tool" then maskVersion tool else tool))
    | m => m

/-- The value with placeholders: for the version if it is a report, and for points in time. -/
def normalize : Value → Value
  | .object members =>
    maskTimes <| .object <|
      if envelopeKeys.all fun k => (members.lookup k).isSome then maskTool members else members
  | v => maskTimes v

end Signoff.Golden

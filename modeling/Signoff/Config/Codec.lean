/-
# `Signoff.Config.Codec` — a check configuration as its author writes it

The form of a configuration file, before anything is resolved.  Counts may be numbers or texts,
waive items texts or tables, and nearly everything may be left out, so that resolution can say
precisely what is wrong.

As a JSON value a configuration is written with all its tables and without the options that were
left out.  It is read by name or as the array of its fields; everything may be left out, options may
be null, and what is unknown is passed over.

A configuration file is a TOML document.  Its settings are read from the JSON value of the same
shape; no setting is a float or a moment, and a moment has no parts that a setting could be read
from.  Here a record that is written as an array may go on after its last field, and what follows is
not looked at.
-/
import Signoff.CheckModel
import Signoff.CheckType
import Signoff.Json.Value
import Signoff.Text.Basic
import Signoff.Toml.Reader
import Signoff.Toml.Scalar

namespace Signoff

namespace Config

/-! ## Documents -/

/-- A count as written; only resolution decides whether it is one. -/
inductive CountValue where
  | number (n : Int64)
  | text (s : String)
  deriving DecidableEq, Repr

/-- An entry of the waive list: a bare text, or a name with a reason. -/
inductive WaiveItem where
  | text (s : String)
  | entry (name reason : String)
  deriving DecidableEq, Repr

/-- What a configuration says about its checker. -/
structure Checker where
  id : Option String := none
  description : Option String := none
  /-- How found patterns are judged. -/
  mode : Option String := none
  /-- The kind of matcher. -/
  waiverMatch : Option String := none
  /-- The character between a view and what lies below it. -/
  viewSeparator : Option String := none
  descriptions : DescriptionOverrides := {}
  deriving DecidableEq, Repr

structure RequirementsTable where
  value : Option CountValue := none
  patternItems : List String := []
  deriving DecidableEq, Repr

structure WaiversTable where
  value : Option CountValue := none
  waiveItems : List WaiveItem := []
  deriving DecidableEq, Repr

structure Document where
  schema : Option String := none
  checker : Checker := {}
  requirements : RequirementsTable := {}
  waivers : WaiversTable := {}
  deriving DecidableEq, Repr

def schemaName : String := "chkgate.check.v1"

open Signoff.Json (Value)
open Signoff.Json.Value (optionMember)

/-! ## Fields -/

/-- The fields of a configuration, in order. -/
def documentNames : List String := ["schema", "checker", "requirements", "waivers"]

def checkerNames : List String :=
  ["id", "description", "mode", "waiver_match", "view_separator", "descriptions"]

def requirementsNames : List String := ["value", "pattern_items"]

def waiversNames : List String := ["value", "waive_items"]

/-- The texts that can be replaced, in order. -/
def descriptionNames : List String :=
  ["found_desc", "found_reason", "missing_desc", "missing_reason", "extra_desc", "extra_reason",
   "waived_desc", "waived_reason", "unused_desc", "unused_reason", "waived_as_info_desc",
   "waive_comment_desc", "waive_comment_reason"]

/-! ## Writing -/

def CountValue.toJson : CountValue → Value
  | number n => .number (.integer n.toInt)
  | text s => .string s

def WaiveItem.toJson : WaiveItem → Value
  | text s => .string s
  | entry name reason => .object [("name", .string name), ("reason", .string reason)]

def descriptionsToJson (o : DescriptionOverrides) : Value :=
  .object <|
    optionMember "found_desc" .string o.foundDesc ++
    optionMember "found_reason" .string o.foundReason ++
    optionMember "missing_desc" .string o.missingDesc ++
    optionMember "missing_reason" .string o.missingReason ++
    optionMember "extra_desc" .string o.extraDesc ++
    optionMember "extra_reason" .string o.extraReason ++
    optionMember "waived_desc" .string o.waivedDesc ++
    optionMember "waived_reason" .string o.waivedReason ++
    optionMember "unused_desc" .string o.unusedDesc ++
    optionMember "unused_reason" .string o.unusedReason ++
    optionMember "waived_as_info_desc" .string o.waivedAsInfoDesc ++
    optionMember "waive_comment_desc" .string o.waiveCommentDesc ++
    optionMember "waive_comment_reason" .string o.waiveCommentReason

def Checker.toJson (c : Checker) : Value :=
  .object <|
    optionMember "id" .string c.id ++
    optionMember "description" .string c.description ++
    optionMember "mode" .string c.mode ++
    optionMember "waiver_match" .string c.waiverMatch ++
    optionMember "view_separator" .string c.viewSeparator ++
    [("descriptions", descriptionsToJson c.descriptions)]

def RequirementsTable.toJson (r : RequirementsTable) : Value :=
  .object <| optionMember "value" CountValue.toJson r.value ++
    [("pattern_items", .ofStrings r.patternItems)]

def WaiversTable.toJson (w : WaiversTable) : Value :=
  .object <| optionMember "value" CountValue.toJson w.value ++
    [("waive_items", .array (w.waiveItems.map WaiveItem.toJson))]

def Document.toJson (d : Document) : Value :=
  .object <| optionMember "schema" .string d.schema ++
    [("checker", d.checker.toJson), ("requirements", d.requirements.toJson),
     ("waivers", d.waivers.toJson)]

/-! ## Reading -/

/-- A count: an integer of 64 bits with sign, or a text. -/
def CountValue.ofJson? : Value → Option CountValue
  | .number (.integer n) =>
    if Int64.minValue.toInt ≤ n ∧ n ≤ Int64.maxValue.toInt then some (.number (Int64.ofInt n))
    else none
  | .string s => some (.text s)
  | _ => none

/-- An entry of the waive list.  The reason may be left out; only an object will do, and even in what
is passed over no integer may be wider than 64 bits. -/
def WaiveItem.ofJson? : Value → Option WaiveItem
  | .string s => some (.text s)
  | .object members => do
    guard (Value.membersAreNarrow members)
    let name ← Json.Field.required Value.string? (members.lookup "name")
    let reason ← Json.Field.orElse "" Value.string? (members.lookup "reason")
    return .entry name reason
  | _ => none

def descriptionsOfJson? (v : Value) : Option DescriptionOverrides := do
  let field ← v.record? descriptionNames
  let text := fun name => Value.optional Value.string? (field name)
  return {
    foundDesc := ← text "found_desc"
    foundReason := ← text "found_reason"
    missingDesc := ← text "missing_desc"
    missingReason := ← text "missing_reason"
    extraDesc := ← text "extra_desc"
    extraReason := ← text "extra_reason"
    waivedDesc := ← text "waived_desc"
    waivedReason := ← text "waived_reason"
    unusedDesc := ← text "unused_desc"
    unusedReason := ← text "unused_reason"
    waivedAsInfoDesc := ← text "waived_as_info_desc"
    waiveCommentDesc := ← text "waive_comment_desc"
    waiveCommentReason := ← text "waive_comment_reason" }

def Checker.ofJson? (v : Value) : Option Checker := do
  let field ← v.record? checkerNames
  let text := fun name => Value.optional Value.string? (field name)
  return {
    id := ← text "id"
    description := ← text "description"
    mode := ← text "mode"
    waiverMatch := ← text "waiver_match"
    viewSeparator := ← text "view_separator"
    descriptions := ← Json.Field.orElse {} descriptionsOfJson? (field "descriptions") }

def RequirementsTable.ofJson? (v : Value) : Option RequirementsTable := do
  let field ← v.record? requirementsNames
  return {
    value := ← Value.optional CountValue.ofJson? (field "value")
    patternItems := ← Json.Field.orElse [] Value.strings? (field "pattern_items") }

def waiveItemsOfJson? (v : Value) : Option (List WaiveItem) :=
  v.items?.bind (·.mapM WaiveItem.ofJson?)

def WaiversTable.ofJson? (v : Value) : Option WaiversTable := do
  let field ← v.record? waiversNames
  return {
    value := ← Value.optional CountValue.ofJson? (field "value")
    waiveItems := ← Json.Field.orElse [] waiveItemsOfJson? (field "waive_items") }

def Document.ofJson? (v : Value) : Option Document := do
  let field ← v.record? documentNames
  return {
    schema := ← Value.optional Value.string? (field "schema")
    checker := ← Json.Field.orElse {} Checker.ofJson? (field "checker")
    requirements := ← Json.Field.orElse {} RequirementsTable.ofJson? (field "requirements")
    waivers := ← Json.Field.orElse {} WaiversTable.ofJson? (field "waivers") }

end Config

/-! ## TOML values -/

namespace Toml.Value

mutual

/-- The JSON value of the same shape, as far as settings are read from it: the value of a float is
left aside, a misspelt integer is a number that no setting can be, and a moment has no members. -/
def toJson : Toml.Value → Json.Value
  | .string s => .string s
  | .integer n => .number (.integer n)
  | .misspelt => .number (.double 0)
  | .float _ => .number (.double 0)
  | .bool b => .bool b
  | .moment _ => .object []
  | .array items => .array (itemsToJson items)
  | .table members => .object (membersToJson members)

def itemsToJson : List Toml.Value → List Json.Value
  | [] => []
  | v :: vs => toJson v :: itemsToJson vs

def membersToJson : List (String × Toml.Value) → List (String × Json.Value)
  | [] => []
  | (k, v) :: ms => (k, toJson v) :: membersToJson ms

end

end Toml.Value

namespace Config

/-! ## Records -/

/-- The record with a change to each of its fields.  As an array it ends with its last field. -/
def mapRecord (names : List String) (change : String → Toml.Value → Toml.Value) :
    Toml.Value → Toml.Value
  | .table members => .table (members.map fun m => (m.1, change m.1 m.2))
  | .array items => .array (List.zipWith change names items)
  | v => v

/-- The record without what follows its last field. -/
def trimRecord (names : List String) : Toml.Value → Toml.Value := mapRecord names fun _ v => v

def trimChecker : Toml.Value → Toml.Value :=
  mapRecord checkerNames fun name v =>
    if name == "descriptions" then trimRecord descriptionNames v else v

/-- The configuration, without what follows the last field of a record. -/
def trimDocument : Toml.Value → Toml.Value :=
  mapRecord documentNames fun name v =>
    match name with
    | "checker" => trimChecker v
    | "requirements" => trimRecord requirementsNames v
    | "waivers" => trimRecord waiversNames v
    | _ => v

/-! ## Files -/

/-- The configuration that a TOML value spells, if all of its numbers that are looked at are in
range. -/
def Document.ofToml? (v : Toml.Value) : Option Document :=
  let v := trimDocument v
  if v.inRange then Document.ofJson? v.toJson else none

/-- The configuration in a file; a file of blanks is no input at all. -/
def Document.ofText (text : String) : Except ConfigError Document :=
  if Text.isBlankText text then .error (.missingInput "check configuration")
  else
    match (Toml.Value.ofText? text).bind Document.ofToml? with
    | some d => .ok d
    | none => .error .unparseable

end Config

end Signoff

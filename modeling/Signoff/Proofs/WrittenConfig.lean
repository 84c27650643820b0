/-
# `Signoff.Proofs.WrittenConfig` — a configuration survives being written as JSON

Nearly everything in a configuration may be left out, counts are numbers or texts, and waive items are
texts or records, so a written configuration has many shapes and each must be read as what it was.
Record by record the reader undoes the writer (the lemmas `ofJson?_toJson`): an option that is left out
is read as missing, the tables are always there, and a count or an item is known by the kind of its
value.  Nothing in it is a double or is nested deeper than four tables, so it also comes back from its
text in both layouts (`Document.read_written`).  Resolution sees the document alone, and so it cannot
tell a configuration that was read back from the file it came from.
-/
import Mathlib
import Signoff.Config.Resolution
import Signoff.Proofs.Json.Members
import Signoff.Proofs.Resolution

namespace Signoff.Config

open Signoff.Json (Value)
open Signoff.Json.Value (Plain fieldOf)

/-! ## Counts and items -/

theorem CountValue.ofJson?_toJson (c : CountValue) : CountValue.ofJson? c.toJson = some c := by
  cases c with
  | number n =>
      have hbounds : Int64.minValue.toInt ≤ n.toInt ∧ n.toInt ≤ Int64.maxValue.toInt :=
        ⟨n.minValue_le_toInt, n.toInt_le⟩
      rw [toJson, ofJson?, if_pos hbounds, Int64.ofInt_toInt]
  | text s => rfl

@[simp] theorem CountValue.canonical_toJson (c : CountValue) : c.toJson.canonical = c.toJson := by
  cases c <;> rfl

@[simp] theorem CountValue.optional_toJson (o : Option CountValue) :
    Value.optional CountValue.ofJson? (o.map CountValue.toJson) = some o := by
  cases o with
  | none => rfl
  | some c =>
      have hread : Value.optional CountValue.ofJson? (some c.toJson) =
          (CountValue.ofJson? c.toJson).map some := by
        cases c <;> rfl
      rw [Option.map_some, hread, CountValue.ofJson?_toJson, Option.map_some]

theorem WaiveItem.ofJson?_toJson (item : WaiveItem) :
    WaiveItem.ofJson? item.toJson.canonical = some item := by
  cases item with
  | text s => rfl
  | entry name reason =>
      have hempty (v : Value) : Value.insertMember "name" v [] = [("name", v)] := by
        rw [Value.insertMember]
      have hmembers : (toJson (.entry name reason)).canonical =
          .object (Value.insertMember "reason" (.string reason) [("name", .string name)]) := by
        simp only [toJson, Value.canonical, Value.canonicalMembers, Value.sortMembers,
          List.foldl_cons, List.foldl_nil, hempty]
      have hne : ¬ "reason" = "name" := by decide
      rw [hmembers, Value.insertMember, if_neg hne]
      -- members are looked up, so it does not matter which key comes first
      split <;> rfl

/-! ## Tables -/

theorem descriptionsOfJson?_toJson (o : DescriptionOverrides) :
    descriptionsOfJson? (descriptionsToJson o).canonical = some o := by
  rw [descriptionsToJson, descriptionsOfJson?, Value.record?_canonical, Option.bind_eq_bind,
    Option.bind_some]
  simp [fieldOf, List.lookup_append, Function.comp_def]

theorem Checker.ofJson?_toJson (c : Checker) : Checker.ofJson? c.toJson.canonical = some c := by
  rw [toJson, ofJson?, Value.record?_canonical, Option.bind_eq_bind, Option.bind_some]
  simp [fieldOf, List.lookup_append, lookup_cons_eq_ite, Function.comp_def, Json.Field.orElse,
    descriptionsOfJson?_toJson]

theorem RequirementsTable.ofJson?_toJson (r : RequirementsTable) :
    RequirementsTable.ofJson? r.toJson.canonical = some r := by
  rw [toJson, ofJson?, Value.record?_canonical, Option.bind_eq_bind, Option.bind_some]
  simp [fieldOf, lookup_cons_eq_ite, Function.comp_def, Json.Field.orElse]

theorem WaiversTable.ofJson?_toJson (w : WaiversTable) :
    WaiversTable.ofJson? w.toJson.canonical = some w := by
  have hitems : waiveItemsOfJson? (Value.array (w.waiveItems.map WaiveItem.toJson)).canonical =
      some w.waiveItems :=
    Value.mapM_map_canonical WaiveItem.ofJson?_toJson w.waiveItems
  rw [toJson, ofJson?, Value.record?_canonical, Option.bind_eq_bind, Option.bind_some]
  simp [fieldOf, lookup_cons_eq_ite, Function.comp_def, Json.Field.orElse, hitems]

theorem Document.ofJson?_toJson (d : Document) : Document.ofJson? d.toJson.canonical = some d := by
  rw [toJson, ofJson?, Value.record?_canonical, Option.bind_eq_bind, Option.bind_some]
  simp [fieldOf, lookup_cons_eq_ite, Function.comp_def, Json.Field.orElse,
    Checker.ofJson?_toJson, RequirementsTable.ofJson?_toJson, WaiversTable.ofJson?_toJson]

/-! ## Nesting -/

section Nesting

variable {n : Nat}

theorem CountValue.plain_toJson (c : CountValue) : Plain n c.toJson := by
  cases c with
  | number k =>
      have hsize : Int64.maxValue.toInt < UInt64.size := by decide
      exact .integer k.minValue_le_toInt (Int.lt_of_le_of_lt k.toInt_le hsize)
  | text s => exact .string s

theorem WaiveItem.plain_toJson (item : WaiveItem) : Plain (n + 1) item.toJson := by
  cases item with
  | text s => exact .string s
  | entry name reason =>
      refine .object ?_
      simp [Plain.string]

theorem plain_descriptionsToJson (o : DescriptionOverrides) :
    Plain (n + 1) (descriptionsToJson o) := by
  refine .object ?_
  simp only [List.forall_mem_append]
  and_intros <;> exact Value.plain_optionMember .string

theorem Checker.plain_toJson (c : Checker) : Plain (n + 2) c.toJson := by
  refine .object (List.forall_mem_append.mpr ⟨?_, ?_⟩)
  · simp only [List.forall_mem_append]
    and_intros <;> exact Value.plain_optionMember .string
  · exact List.forall_mem_singleton.mpr (plain_descriptionsToJson c.descriptions)

theorem RequirementsTable.plain_toJson (r : RequirementsTable) : Plain (n + 2) r.toJson := by
  refine .object (List.forall_mem_append.mpr ⟨?_, ?_⟩)
  · exact Value.plain_optionMember CountValue.plain_toJson
  · exact List.forall_mem_singleton.mpr (Value.plain_ofStrings r.patternItems)

theorem WaiversTable.plain_toJson (w : WaiversTable) : Plain (n + 3) w.toJson := by
  refine .object (List.forall_mem_append.mpr ⟨?_, ?_⟩)
  · exact Value.plain_optionMember CountValue.plain_toJson
  · exact List.forall_mem_singleton.mpr (Value.plain_map WaiveItem.plain_toJson w.waiveItems)

theorem Document.plain_toJson (d : Document) : Plain 4 d.toJson := by
  refine .object (List.forall_mem_append.mpr ⟨Value.plain_optionMember .string, ?_⟩)
  simp [Checker.plain_toJson, RequirementsTable.plain_toJson, WaiversTable.plain_toJson]

end Nesting

/-! ## Documents -/

namespace Document

def ofJsonText? (text : String) : Option Document := (Value.ofText? text).bind ofJson?

theorem ofJsonText?_compact (d : Document) : ofJsonText? d.toJson.compact = some d := by
  rw [ofJsonText?, Value.ofText?_compact d.plain_toJson (by decide), Option.bind_some,
    ofJson?_toJson]

theorem ofJsonText?_pretty (d : Document) : ofJsonText? d.toJson.pretty = some d := by
  rw [ofJsonText?, Value.ofText?_pretty d.plain_toJson (by decide), Option.bind_some,
    ofJson?_toJson]

theorem load_of_ofText {text : String} {d : Document} (h : ofText text = .ok d) :
    load text = d.resolve := by
  rw [load, loadOn, Call.result_bind, Call.result_lift, h]
  rfl

/-- **Written configurations.**  Every configuration reads back from the JSON value that it is written
as, and from the text of the value in either layout.  So a configuration file that is read comes to
the same, or to the same error, by way of JSON. -/
theorem read_written :
    (∀ d : Document,
      ofJson? d.toJson.canonical = some d ∧ ofJsonText? d.toJson.compact = some d ∧
        ofJsonText? d.toJson.pretty = some d) ∧
      ∀ (text : String) (d : Document), ofText text = .ok d →
        ∃ d', ofJsonText? d.toJson.compact = some d' ∧ d'.resolve = load text := by
  refine ⟨fun d => ⟨d.ofJson?_toJson, d.ofJsonText?_compact, d.ofJsonText?_pretty⟩, ?_⟩
  intro text d h
  exact ⟨d, d.ofJsonText?_compact, (load_of_ofText h).symm⟩

/-! ## A text and a record among the waive items -/

section Mixed

/-- Required is a count that is a text; waive items of both kinds, the text looking like a record. -/
def mixedConfig : String :=
  "[checker]\nid = \"C\"\n[requirements]\nvalue = \"7\"\n[waivers]\nvalue = 2\n" ++
    "waive_items = [\"\x7b\x7d\", \x7b name = \"b\" \x7d]\n"

def mixedToml : Toml.Value :=
  .table
    [("checker", .table [("id", .string "C")]),
     ("requirements", .table [("value", .string "7")]),
     ("waivers", .table
       [("value", .integer 2),
        ("waive_items", .array [.string "\x7b\x7d", .table [("name", .string "b")]])])]

def mixedDocument : Document where
  checker := { id := some "C" }
  requirements := { value := some (.text "7") }
  waivers := { value := some (.number 2), waiveItems := [.text "\x7b\x7d", .entry "b" ""] }

set_option maxRecDepth 10000 in
theorem ofText_mixedToml : Toml.Value.ofText? mixedConfig = some mixedToml := by cbv

theorem ofText_mixedConfig : ofText mixedConfig = .ok mixedDocument :=
  ofText_of_tables ofText_mixedToml (by decide) (by cbv) (by decide) (by cbv)

theorem read_written_mixed :
    ofText mixedConfig = .ok mixedDocument ∧
      ∃ d', ofJsonText? mixedDocument.toJson.compact = some d' ∧ d'.resolve = load mixedConfig :=
  ⟨ofText_mixedConfig, read_written.2 mixedConfig mixedDocument ofText_mixedConfig⟩

end Mixed

end Document

end Signoff.Config

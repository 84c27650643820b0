/-
# `Signoff.Proofs.SavedReport` — a saved report reads back

A report is written in one order and read in another: the writer puts the members of the result
among those of the report and leaves out what is empty; the reader finds every member by its name in
an object whose keys were sorted, and fills in what is missing.  Record by record the reader undoes
the writer (the lemmas `ofJson?_toJson`).  What is left is the schema and the agreement of groups and
items, which the reader asks for and the writer does not look at.  Both hold of every report there is
to write: of the report of a run because the evaluation lays its result out, and of a report that was
read because it was asked (`Report.Sound`).  So every report reads back as it was
(`Report.parse_serialize`).

The verdict and the groups of a result are made independently: the verdict from the outcome of
waiver resolution, the groups from the sections of the result.  Both count the same items as
failures, also where the outcome is missing or belongs to another classification
(`exists_error_section_iff`).  Together with the layout, this is all that the reader asks for.
-/
import Signoff.Evaluation
import Signoff.Proofs.Json.Members
import Signoff.Proofs.Layout
import Signoff.Proofs.Running
import Signoff.Proofs.Timestamp
import Signoff.Report
import Signoff.Report.Codec

namespace Signoff

/-! ## Results that are evaluated -/

namespace Assembly

theorem exists_error_section_iff {checkId : String} {c : Classification} {w : WaiverPolicy}
    {outcome : Option WaiverOutcome} {d : Descriptions} :
    (∃ g ∈ sections checkId c w outcome d, g.severity = .error ∧ g.items ≠ []) ↔
      (Verdict.resolve c outcome w.mode).status = .fail := by
  cases hmode : w.mode with
  | disabled =>
      cases hv : c.violations <;>
        simp [sections, hmode, findings, groupOf, Verdict.resolve, hv, Verdict.cleanPass,
          Verdict.failure]
  | forcedPass => simp [sections, hmode, findings, groupOf, Verdict.resolve]
  | selective =>
      cases outcome with
      | none =>
          cases hv : c.violations <;>
            simp [sections, hmode, findings, groupOf, outcomeOr, Verdict.resolve, hv,
              Verdict.cleanPass, Verdict.failure]
      | some o =>
          cases hu : o.unwaived <;>
            simp [sections, hmode, findings, groupOf, outcomeOr, Verdict.resolve, hu,
              Verdict.failure]

/-- The parts of an assembled result agree, whatever outcome it was assembled with. -/
theorem consistent_assemble (checkId : String) (c : Classification) (w : WaiverPolicy)
    (outcome : Option WaiverOutcome) (d : Descriptions) :
    (assemble checkId c w outcome (Verdict.resolve c outcome w.mode) d).Consistent :=
  ResultBuilder.consistent_finish exists_error_section_iff

end Assembly

theorem CheckModel.consistent_of_evaluate {m : CheckModel} {e : Evidence} {ctx : CheckContext}
    {r : Evaluation} (h : m.evaluate e ctx = .ok r) : r.result.Consistent := by
  obtain ⟨-, c, -, rfl⟩ := CheckModel.evaluate_eq_ok_iff.mp h
  exact Assembly.consistent_assemble ctx.checkId c m.waivers _ _

/-- **Readback.**  A result that is assembled with the verdict of its own classification is accepted
by the reader and comes back as it was written; so is every result of an evaluation, and it has a
group of errors exactly if it is a FAIL. -/
theorem checked_assemble :
    (∀ (checkId : String) (c : Classification) (w : WaiverPolicy) (outcome : Option WaiverOutcome)
        (d : Descriptions),
      let r := Assembly.assemble checkId c w outcome (Verdict.resolve c outcome w.mode) d
      (CheckResult.mk r.status r.waived r.groups r.details).checked = .ok r) ∧
    ∀ (m : CheckModel) (e : Evidence) (ctx : CheckContext) (r : Evaluation),
      m.evaluate e ctx = .ok r →
        r.result.checked = .ok r.result ∧
          (r.result.hasErrorGroup = true ↔ r.result.status = .fail) := by
  constructor
  · intro checkId c w outcome d r
    exact CheckResult.checked_eq_ok_iff.mpr
      ⟨Assembly.consistent_assemble checkId c w outcome d, rfl⟩
  · intro m e ctx r h
    have hr := CheckModel.consistent_of_evaluate h
    exact ⟨CheckResult.checked_eq_ok_iff.mpr ⟨hr, rfl⟩,
      CheckResult.hasErrorGroup_iff.trans hr.status_iff⟩

/-- A pattern that is missing and not waived, a waiver without use, an extra finding and a pattern
that is found, all in one result. -/
theorem checked_assemble_selective :
    let m : CheckModel :=
      { requirements := { patterns := ["CLK_A", "CLK_B"] },
        waivers := .selective [⟨"STALE", "old"⟩] }
    let e : Evidence := .scoped [⟨"CLK_B", none, none, ""⟩, ⟨"CLK_X", some 3, none, "seen"⟩]
    ∃ r, m.evaluate e { checkId := "CHK" } = .ok r ∧ r.result.checked = .ok r.result ∧
      r.result.hasErrorGroup = true := by
  intro m e
  have h := checked_assemble.2 m e { checkId := "CHK" } _ rfl
  exact ⟨_, rfl, h.1, h.2.mpr rfl⟩

open Signoff.Json (Value)
open Signoff.Json.Value (Plain fieldOf)

/-! ## Words, lists and options -/

@[simp] theorem Severity.required_word (place : ResultPlace) (s : Severity) :
    Json.Field.required (Severity.ofJson? place) (some (.string s.word)) = some s := by
  simp [Json.Field.required, Severity.ofJson?, word?]

@[simp] theorem Status.required_word (place : ResultPlace) (s : Status) :
    Json.Field.required (Status.ofJson? place) (some (.string s.word)) = some s := by
  simp [Json.Field.required, Status.ofJson?, word?]

@[simp] theorem Timestamp.required_text (t : Timestamp) :
    Json.Field.required Timestamp.ofJson? (some (.string t.text)) = some t := by
  rw [Json.Field.required, Option.bind_some, ofJson?, Value.string?, Option.bind_some, ofText?_text]

@[simp] theorem SourcePath.optional_text (o : Option SourcePath) :
    Value.optional SourcePath.ofJson? (o.map fun p => Value.string p.text) = some o := by
  cases o <;> rfl

theorem orMalformed_eq_ok_iff {α : Type} {o : Option α} {v : α} :
    orMalformed o = .ok v ↔ o = some v := by
  cases o <;> simp [orMalformed]

theorem required_list {α : Type} {read : Value → Option α} {toJson : α → Value}
    (hread : ∀ x, read (toJson x).canonical = some x) (xs : List α) :
    Json.Field.required (listOfJson? read) (some (Value.array (xs.map toJson)).canonical) =
      some xs := by
  rw [Value.canonical]
  exact Value.mapM_map_canonical hread xs

/-! ## The parts of a result -/

theorem DetailItem.ofJson?_toJson (place : ResultPlace) (d : DetailItem) :
    DetailItem.ofJson? place d.toJson.canonical = some d := by
  -- a fingerprint that is empty is left out, and reading fills it in again
  have hfingerprint :
      Json.Field.orElse "" Value.string? (Option.map Value.canonical
        (if d.fingerprint.isEmpty then none else some (Value.string d.fingerprint))) =
          some d.fingerprint := by
    split
    · rename_i hempty
      rw [String.isEmpty_iff.mp hempty]
      rfl
    · rfl
  rw [toJson, ofJson?, Value.record?_canonical, Option.bind_eq_bind, Option.bind_some]
  simp [fieldOf, lookup_cons_eq_ite, List.lookup_append, hfingerprint, Function.comp_def,
    -String.isEmpty_iff, -Option.map_if]

theorem ResultGroup.ofJson?_toJson (place : ResultPlace) (g : ResultGroup) :
    ResultGroup.ofJson? place g.toJson.canonical = some g := by
  rw [toJson, ofJson?, Value.record?_canonical, Option.bind_eq_bind, Option.bind_some]
  simp [fieldOf, lookup_cons_eq_ite]

/-- A result is accepted, as it stands, exactly if its parts agree. -/
theorem CheckResult.check_eq_ok_iff {r r' : CheckResult} :
    r.check = .ok r' ↔ r.Consistent ∧ r = r' := by
  rw [← checked_eq_ok_iff, check]
  cases r.checked <;> simp

theorem CheckResult.ofFields?_fieldOf {ms : List (String × Value)} {r : CheckResult}
    {place : ResultPlace}
    (h : ∀ name ∈ CheckResult.fieldNames, ms.reverse.lookup name = r.members.lookup name) :
    CheckResult.ofFields? place (fieldOf ms) = some r := by
  simp only [fieldNames, List.forall_mem_cons, List.not_mem_nil, IsEmpty.forall_iff, implies_true,
    and_true] at h
  simp only [ofFields?, fieldOf, h]
  simp [members, lookup_cons_eq_ite, required_list (ResultGroup.ofJson?_toJson place),
    required_list (DetailItem.ofJson?_toJson place)]

/-! ## The other parts of a report -/

theorem BucketCounts.ofJson?_toJson (c : BucketCounts) :
    BucketCounts.ofJson? c.toJson.canonical = some c := by
  rw [toJson, ofJson?, Value.record?_canonical, Option.bind_eq_bind, Option.bind_some]
  simp [fieldOf, lookup_cons_eq_ite]

theorem ToolMeta.ofJson?_toJson (t : ToolMeta) :
    ToolMeta.ofJson? t.toJson.canonical = some t := by
  rw [toJson, ofJson?, Value.record?_canonical, Option.bind_eq_bind, Option.bind_some]
  simp [fieldOf, lookup_cons_eq_ite]

theorem CheckType.ofJson_number (t : CheckType) :
    CheckType.ofJson (.number (.integer t.number)) = .ok t := by
  cases t <;> rfl

theorem CheckMeta.ofJson_toJson (c : CheckMeta) : CheckMeta.ofJson c.toJson.canonical = .ok c := by
  have hnumber : (Value.number (.integer c.type.number)).canonical =
      .number (.integer c.type.number) := rfl
  rw [toJson, Value.canonical, ofJson]
  simp only [bind_eq_ok_iff, Value.lookup_canonical]
  refine ⟨_, ?_, c.type, CheckType.ofJson_number c.type, c.description, ?_, c.id, ?_, rfl⟩ <;>
    simp [fieldOf, lookup_cons_eq_ite, hnumber, orMalformed]

namespace Report

variable {r : Report}

/-- The members that are written for a report. -/
def members (r : Report) : List (String × Value) :=
  [("schema", .string r.schema), ("tool", r.tool.toJson),
   ("started_at", .string r.startedAt.text), ("finished_at", .string r.finishedAt.text),
   ("check", r.check.toJson)] ++ r.result.members ++ [("summary", r.summary.toJson)] ++
  (if r.warnings.isEmpty then [] else [("config_warnings", .ofStrings r.warnings)])

theorem toJson_eq (r : Report) : r.toJson = .object r.members := rfl

theorem lookup_members (r : Report) {name : String} (h : name ∈ CheckResult.fieldNames) :
    r.members.reverse.lookup name = r.result.members.lookup name := by
  simp only [CheckResult.fieldNames, List.mem_cons, List.not_mem_nil, or_false] at h
  rcases h with rfl | rfl | rfl | rfl <;>
    simp [members, CheckResult.members, List.lookup_append, lookup_cons_eq_ite,
      -List.isEmpty_iff]

theorem ofFields?_members (r : Report) :
    Report.ofFields? (fieldOf r.members) r.check = some r := by
  have hresult : CheckResult.ofFields? .inReport (fieldOf r.members) = some r.result :=
    CheckResult.ofFields?_fieldOf fun _ hname => r.lookup_members hname
  have htool : Json.Field.required ToolMeta.ofJson? (some r.tool.toJson.canonical) = some r.tool :=
    ToolMeta.ofJson?_toJson r.tool
  have hsummary : Json.Field.required BucketCounts.ofJson? (some r.summary.toJson.canonical) =
      some r.summary := by
    rw [Json.Field.required, Option.bind_some, BucketCounts.ofJson?_toJson]
  have hwarnings :
      Json.Field.orElse [] Value.strings? (Option.map Value.canonical
        (if r.warnings.isEmpty then none else some (Value.ofStrings r.warnings))) =
          some r.warnings := by
    split
    · rename_i hempty
      rw [List.isEmpty_iff.mp hempty]
      rfl
    · exact Value.strings?_ofStrings r.warnings
  rw [ofFields?, hresult]
  simp [members, CheckResult.members, fieldOf, List.lookup_append, lookup_cons_eq_ite, htool,
    hsummary, hwarnings, -List.isEmpty_iff, -Option.map_if]

end Report

/-! ## Nesting -/

theorem DetailItem.plain_toJson {n : Nat} (d : DetailItem) : Plain (n + 1) d.toJson := by
  refine .object ?_
  simp only [List.forall_mem_append]
  refine ⟨⟨⟨⟨?_, ?_⟩, ?_⟩, ?_⟩, ?_⟩
  · simp [Plain.string]
  · exact Value.plain_optionMember Value.plain_ofCount
  · exact Value.plain_optionMember fun p : SourcePath => .string p.text
  · exact Value.plain_optionMember .string
  · exact Value.plain_unless (.string d.fingerprint)

theorem ResultGroup.plain_toJson {n : Nat} (g : ResultGroup) : Plain (n + 2) g.toJson := by
  refine .object ?_
  simp [Plain.string, Value.plain_ofStrings]

theorem CheckResult.plain_members (r : CheckResult) : ∀ m ∈ r.members, Plain 3 m.2 := by
  have hgroups : Plain 3 (.array (r.groups.map ResultGroup.toJson)) :=
    Value.plain_map ResultGroup.plain_toJson r.groups
  have hdetails : Plain 3 (.array (r.details.map DetailItem.toJson)) :=
    Value.plain_map DetailItem.plain_toJson r.details
  simp [members, Plain.string, Plain.bool, hgroups, hdetails]

theorem Report.plain_toJson (r : Report) : Plain 4 r.toJson := by
  have htool : Plain 3 r.tool.toJson := by
    refine .object ?_
    simp [Plain.string]
  have hcheck : Plain 3 r.check.toJson := by
    have htype : Plain 2 (.number (.integer r.check.type.number)) := by
      cases r.check.type <;> exact .integer (by decide) (by decide)
    refine .object ?_
    simp [Plain.string, htype]
  have hsummary : Plain 3 r.summary.toJson := by
    refine .object ?_
    simp [Value.plain_ofCount]
  rw [toJson_eq]
  refine .object ?_
  simp only [members, List.forall_mem_append]
  refine ⟨⟨⟨?_, r.result.plain_members⟩, ?_⟩, ?_⟩
  · simp [Plain.string, htool, hcheck]
  · exact List.forall_mem_singleton.mpr hsummary
  · exact Value.plain_unless (Value.plain_ofStrings r.warnings)

/-! ## Reports that are written -/

namespace Report

variable {r : Report}

/-- The report declares its schema, and its groups and items agree. -/
structure Sound (r : Report) : Prop where
  schema_eq : r.schema = schemaName
  consistent : r.result.Consistent

theorem ofText?_serialize (r : Report) :
    Value.ofText? r.serialize = some r.toJson.canonical :=
  Value.ofText?_pretty r.plain_toJson (by decide)

theorem declaredSchema_toJson (r : Report) : declaredSchema r.toJson.canonical = r.schema := by
  rw [toJson_eq, declaredSchema, Value.canonical, Value.get?, Value.lookup_canonical]
  simp [fieldOf, members, CheckResult.members, List.lookup_append, lookup_cons_eq_ite,
    Value.string?, -List.isEmpty_iff]

theorem ofJson_toJson (h : r.result.Consistent) : Report.ofJson r.toJson.canonical = .ok r := by
  have hcheck : r.result.check = .ok r.result := CheckResult.check_eq_ok_iff.mpr ⟨h, rfl⟩
  have hmeta : fieldOf r.members "check" = some r.check.toJson.canonical := by
    simp [fieldOf, members, CheckResult.members, List.lookup_append, lookup_cons_eq_ite,
      -List.isEmpty_iff]
  rw [toJson_eq, Value.canonical, ofJson]
  simp only [Value.lookup_canonical, bind_eq_ok_iff, orMalformed_eq_ok_iff, hmeta]
  exact ⟨_, rfl, r.check, CheckMeta.ofJson_toJson r.check, r, ofFields?_members r, r.result, hcheck,
    rfl⟩

/-- A sound report reads back as it was. -/
theorem Sound.reads_back (h : r.Sound) : Report.parse r.serialize = .ok r := by
  have hschema : ¬ declaredSchema r.toJson.canonical ≠ schemaName := by
    rw [declaredSchema_toJson, h.schema_eq]
    exact fun hne => hne rfl
  simp only [parse, ofText?_serialize, if_neg hschema, ofJson_toJson h.consistent]

theorem of_ofJson {v : Value} (h : Report.ofJson v = .ok r) :
    r.schema = declaredSchema v ∧ r.result.Consistent := by
  cases v with
  | object members =>
      simp only [ofJson, bind_eq_ok_iff, pure_eq_ok_iff, orMalformed_eq_ok_iff] at h
      obtain ⟨-, -, c, -, read, hfields, result, hresult, rfl⟩ := h
      have hschema : (members.lookup "schema").bind Value.string? = some read.schema := by
        simp only [ofFields?, Option.bind_eq_bind, Option.bind_eq_some_iff] at hfields
        obtain ⟨schema, hschema, _, -, _, -, _, -, _, -, _, -, _, -, hread⟩ := hfields
        rw [← Option.some.inj hread]
        exact hschema
      obtain ⟨hconsistent, rfl⟩ := CheckResult.check_eq_ok_iff.mp hresult
      refine ⟨?_, hconsistent⟩
      rw [declaredSchema, Value.get?, hschema, Option.getD_some]
  | _ => cases h

/-- What was read is sound. -/
theorem Sound.of_parse {text : String} (h : Report.parse text = .ok r) : r.Sound := by
  rw [parse] at h
  cases hv : Value.ofText? text with
  | none => simp [hv] at h
  | some v =>
      by_cases hschema : declaredSchema v = schemaName
      · cases hread : Report.ofJson v with
        | error e => simp [hv, hschema, hread] at h
        | ok read =>
            obtain rfl : read = r := by simpa [hv, hschema, hread] using h
            obtain ⟨hdeclared, hconsistent⟩ := of_ofJson hread
            exact ⟨hdeclared.trans hschema, hconsistent⟩
      · simp [hv, hschema] at h

end Report

/-- What a run reports is sound. -/
theorem Report.Sound.of_run {stamp : Run.Stamp} {config evidence : String} {r : Report}
    (h : Run.run stamp config evidence = .ok r) : r.Sound := by
  obtain ⟨c, e, matcher, result, -, -, -, hevaluate, rfl⟩ := Run.run_eq_ok_iff.mp h
  exact ⟨rfl, CheckModel.consistent_of_evaluate hevaluate⟩

/-- **Saved reports.**  The report of a run, and a report that was read from any text, reads back
from its own text as it was: with the same exit code, the same views, and the same text again. -/
theorem Report.parse_serialize {r : Report}
    (h : (∃ stamp config evidence, Run.run stamp config evidence = .ok r) ∨
      ∃ text, Report.parse text = .ok r) :
    ∃ r', Report.parse r.serialize = .ok r' ∧ r' = r ∧
      r'.result.status.exitCode = r.result.status.exitCode ∧
      (∀ v : View, r'.render v = r.render v) ∧ r'.serialize = r.serialize := by
  have hsound : r.Sound := by
    rcases h with ⟨stamp, config, evidence, hrun⟩ | ⟨text, hparse⟩
    · exact .of_run hrun
    · exact .of_parse hparse
  exact ⟨r, hsound.reads_back, rfl, rfl, fun _ => rfl, rfl⟩

/-! ## A comment that has to be escaped -/

section Escapes

/-- A pass that is forced with a comment of a quote, a letter beyond ASCII, a backslash and a
control character. -/
def escapesConfig : String :=
  "[checker]\nid = \"C\"\n[waivers]\nvalue = 0\nwaive_items = [\"\\\"\u00e9\\\\\\u0007\"]\n"

def escapesCheck : Config.Resolved where
  checker := ⟨"C", "", .existence, .exact, .usual .boolean⟩
  model := { waivers := .forcedPass ["\"\u00e9\\\x07"] }
  type := .boolean
  warnings := []

def escapesToml : Toml.Value :=
  .table
    [("checker", .table [("id", .string "C")]),
     ("waivers", .table [("value", .integer 0), ("waive_items", .array [.string "\"\u00e9\\\x07"])])]

set_option maxRecDepth 10000 in
theorem ofText_escapesConfig : Toml.Value.ofText? escapesConfig = some escapesToml := by cbv

theorem load_escapesConfig : Config.load escapesConfig = .ok escapesCheck :=
  Config.load_of_tables ofText_escapesConfig (by decide) (by cbv) (by decide) rfl (by cbv)

/-- The comment, its quote and its control character included, comes back from the saved report. -/
theorem Report.parse_serialize_escapes :
    let start : Timestamp := ⟨⟨2026, 1, 1, 0, 0, 0, 0, false, 0, 0⟩, by decide⟩
    ∃ r, Run.run ⟨"1", start, start⟩ escapesConfig "\x7b\x7d" = .ok r ∧
      r.result.details.map DetailItem.name = ["\"\u00e9\\\x07"] ∧
      Report.parse r.serialize = .ok r := by
  intro start
  have hrun : Run.run ⟨"1", start, start⟩ escapesConfig "\x7b\x7d" = .ok _ :=
    Run.run_eq_ok_iff.mpr
      ⟨escapesCheck, ⟨.split [] [], []⟩, _, _, load_escapesConfig, by cbv, rfl, rfl, rfl⟩
  obtain ⟨r', hparse, rfl, -⟩ := Report.parse_serialize (.inl ⟨_, _, _, hrun⟩)
  exact ⟨_, hrun, rfl, hparse⟩

end Escapes

end Signoff

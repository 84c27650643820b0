/-
# `Signoff.Proofs.Structure` — the structure of a report that was made by a run

Apart from its schema a report is examined for one thing: every name that a group lists is backed by
exactly one item (`Conformance.structuralErrors`).  In a report whose parts agree the items are the
listed entries in another order (`CheckResult.Consistent.perm_backed`), so nothing is listed without
an item and no item goes unlisted.  What remains is repetition: the examination is content exactly if
no group lists a name twice (`Conformance.structuralErrors_of_consistent`).

The buckets of the evidence have distinct names, but two groups are copied from the configuration as
it stands: the comments of a forced pass, and the waivers without use.  Where the configuration
repeats itself there, the report of a run does so too and is not accepted
(`Report.structuralErrors_of_run`).
-/
import Signoff.Conformance
import Signoff.Proofs.Provenance
import Signoff.Proofs.SavedReport

namespace Signoff

open Signoff.Json (Value)

/-! ## Entries -/

namespace CheckResult

/-- The names that the groups list, each with its label. -/
def entries (r : CheckResult) : List Conformance.Entry :=
  r.groups.flatMap fun g => g.items.map fun name => (g.label, name)

/-- The entries that the items are for. -/
def backed (r : CheckResult) : List Conformance.Entry := r.details.map fun d => (d.group, d.name)

variable {r : CheckResult}

/-- Every entry has as many items as it is listed times, and no item has another entry. -/
theorem Consistent.perm_backed (h : r.Consistent) : r.backed.Perm r.entries := by
  have hgroup : ∀ g ∈ r.groups, (r.detailsIn g.label).map (fun d => (d.group, d.name)) =
      g.items.map fun name => (g.label, name) := by
    intro g hg
    rw [← h.names_eq g hg, List.map_map]
    refine List.map_congr_left fun d hd => ?_
    rw [Function.comp, beq_iff_eq.mp (List.mem_filter.mp hd).2]
  have hperm := (h.perm_details.map fun d => (d.group, d.name)).symm
  rw [List.map_flatMap, List.flatMap_congr hgroup] at hperm
  exact hperm

theorem Consistent.nodup_entries_iff (h : r.Consistent) :
    r.entries.Nodup ↔ ∀ g ∈ r.groups, g.items.Nodup := by
  have hapart : r.groups.Pairwise fun g g' =>
      List.Disjoint (g.items.map fun name => (g.label, name))
        (g'.items.map fun name => (g'.label, name)) := by
    refine (List.pairwise_map.mp h.nodup_labels).imp fun hne e he he' => ?_
    obtain ⟨name, -, rfl⟩ := List.mem_map.mp he
    obtain ⟨name', -, heq⟩ := List.mem_map.mp he'
    exact hne (congrArg Prod.fst heq).symm
  have hnames : ∀ g : ResultGroup,
      (g.items.map fun name => (g.label, name)).Nodup ↔ g.items.Nodup := fun g =>
    List.nodup_map_iff fun _ _ heq => congrArg Prod.snd heq
  rw [entries, List.nodup_flatMap, and_iff_left hapart]
  simp only [hnames]

end CheckResult

/-! ## What the examination sees -/

/-- The members hold the result: each of its fields is the last member of that name. -/
def CheckResult.HeldBy (r : CheckResult) (ms : List (String × Value)) : Prop :=
  ∀ name ∈ CheckResult.fieldNames, ms.reverse.lookup name = r.members.lookup name

theorem CheckResult.heldBy_members (r : CheckResult) : r.HeldBy r.members := by
  intro name hname
  simp only [fieldNames, List.mem_cons, List.not_mem_nil, or_false] at hname
  rcases hname with rfl | rfl | rfl | rfl <;> rfl

theorem Report.heldBy_members (r : Report) : r.result.HeldBy r.members :=
  fun _ hname => r.lookup_members hname

namespace Conformance

section Parts

variable {ms : List (String × Value)} {key : String}

theorem textOf_canonical {s : String} (h : ms.reverse.lookup key = some (.string s)) :
    textOf key (Value.object ms).canonical = s := by
  rw [textOf, Value.canonical, Value.get?, Value.lookup_canonical, Value.fieldOf, h]
  rfl

theorem itemsOf_canonical {items : List Value} (h : ms.reverse.lookup key = some (.array items)) :
    itemsOf key (Value.object ms).canonical = items.map Value.canonical := by
  rw [itemsOf, Value.canonical, Value.get?, Value.lookup_canonical, Value.fieldOf, h,
    ← Value.canonicalItems_eq_map]
  rfl

end Parts

theorem groupEntries_toJson (g : ResultGroup) :
    groupEntries g.toJson.canonical = g.items.map fun name => (g.label, name) := by
  have hlabel : textOf "label" g.toJson.canonical = g.label :=
    textOf_canonical (by simp [lookup_cons_eq_ite])
  have hitems : itemsOf "items" g.toJson.canonical = (g.items.map Value.string).map Value.canonical :=
    itemsOf_canonical (by simp [Value.ofStrings])
  rw [groupEntries, hlabel, hitems, List.map_map, List.map_map]
  rfl

section Held

variable {r : CheckResult} {ms : List (String × Value)}

theorem itemsOf_groups (h : r.HeldBy ms) :
    itemsOf "groups" (Value.object ms).canonical =
      (r.groups.map ResultGroup.toJson).map Value.canonical := by
  refine itemsOf_canonical ?_
  rw [h _ (by decide)]
  rfl

theorem entries_eq (h : r.HeldBy ms) : entries (Value.object ms).canonical = r.entries := by
  rw [entries, itemsOf_groups h, List.flatMap_map, List.flatMap_map, CheckResult.entries]
  simp only [groupEntries_toJson]

theorem backed_eq (h : r.HeldBy ms) : backed (Value.object ms).canonical = r.backed := by
  have hdetails : itemsOf "details" (Value.object ms).canonical =
      (r.details.map DetailItem.toJson).map Value.canonical := by
    refine itemsOf_canonical ?_
    rw [h _ (by decide)]
    rfl
  have hitem : ∀ d : DetailItem,
      (textOf "group" d.toJson.canonical, textOf "name" d.toJson.canonical) = (d.group, d.name) := by
    intro d
    rw [DetailItem.toJson, textOf_canonical (s := d.group), textOf_canonical (s := d.name)] <;>
      simp [List.lookup_append, lookup_cons_eq_ite, -String.isEmpty_iff]
  rw [backed, hdetails, List.map_map, List.map_map, CheckResult.backed]
  exact List.map_congr_left fun d _ => hitem d

theorem hasErrorGroup_eq (h : r.HeldBy ms) :
    hasErrorGroup (Value.object ms).canonical = r.hasErrorGroup := by
  have hseverity : ∀ g : ResultGroup,
      (g.toJson.canonical.get? "severity" == some (.string "error")) = (g.severity == .error) := by
    intro g
    have hget : g.toJson.canonical.get? "severity" = some (.string g.severity.word) := by
      rw [ResultGroup.toJson, Value.canonical, Value.get?, Value.lookup_canonical]
      simp [Value.fieldOf, lookup_cons_eq_ite]
    rw [hget]
    cases g.severity <;> decide
  rw [hasErrorGroup, itemsOf_groups h, List.any_map, List.any_map, CheckResult.hasErrorGroup]
  exact congrArg r.groups.any (funext hseverity)

theorem statusErrors_eq_nil_iff (h : r.HeldBy ms) :
    statusErrors (Value.object ms).canonical = [] ↔
      ((∃ g ∈ r.groups, g.severity = .error) ↔ r.status = .fail) := by
  have hget : (Value.object ms).canonical.get? "status" = some (.string r.status.word) := by
    rw [Value.canonical, Value.get?, Value.lookup_canonical, Value.fieldOf, h _ (by decide)]
    rfl
  have hstatus : ((Value.object ms).canonical.get? "status" == some (.string "FAIL")) =
      (r.status == .fail) := by
    rw [hget]
    cases r.status <;> decide
  rw [statusErrors, hasErrorGroup_eq h, hstatus, ← CheckResult.hasErrorGroup_iff]
  cases hgroup : r.hasErrorGroup <;> cases hword : r.status <;> simp

end Held

variable (r : Report)

theorem entries_toJson : entries r.toJson.canonical = r.result.entries := entries_eq r.heldBy_members

theorem backed_toJson : backed r.toJson.canonical = r.result.backed := backed_eq r.heldBy_members

theorem statusErrors_toJson (h : r.result.Consistent) : statusErrors r.toJson.canonical = [] :=
  (statusErrors_eq_nil_iff r.heldBy_members).mpr h.status_iff

/-! ## What the examination asks for -/

theorem nodup_cons_and_not_mem_iff {α : Type} {x : α} {xs seen : List α} :
    ((x :: xs).Nodup ∧ ∀ y ∈ x :: xs, y ∉ seen) ↔
      x ∉ seen ∧ xs.Nodup ∧ ∀ y ∈ xs, y ∉ x :: seen := by
  simp only [List.nodup_cons, List.mem_cons, not_or, forall_eq_or_imp]
  constructor
  · rintro ⟨⟨hx, hnodup⟩, hseen, hxs⟩
    exact ⟨hseen, hnodup, fun y hy => ⟨fun heq => hx (heq ▸ hy), hxs y hy⟩⟩
  · rintro ⟨hseen, hnodup, hxs⟩
    exact ⟨⟨fun hx => (hxs x hx).1 rfl, hnodup⟩, hseen, fun y hy => (hxs y hy).2⟩

theorem repeatErrors_eq_nil_iff : ∀ {es seen : List Entry},
    repeatErrors seen es = [] ↔ es.Nodup ∧ ∀ e ∈ es, e ∉ seen
  | [], _ => by simp [repeatErrors]
  | e :: es, seen => by
      by_cases he : e ∈ seen
      · simp [repeatErrors, he]
      · rw [repeatErrors, if_neg (by simpa using he), repeatErrors_eq_nil_iff,
          nodup_cons_and_not_mem_iff, and_iff_right he]

theorem detailErrors_eq_nil_iff {listed : List Entry} : ∀ {es seen : List Entry},
    detailErrors listed seen es = [] ↔
      (∀ e ∈ es, e ∈ listed) ∧ es.Nodup ∧ ∀ e ∈ es, e ∉ seen
  | [], _ => by simp [detailErrors]
  | e :: es, seen => by
      by_cases he : e ∈ seen
      · simp [detailErrors, he]
      · by_cases hlisted : e ∈ listed
        · rw [detailErrors, if_pos (by simpa using hlisted), if_neg (by simpa using he),
            List.nil_append, detailErrors_eq_nil_iff, nodup_cons_and_not_mem_iff,
            and_iff_right he, List.forall_mem_cons, and_iff_right hlisted]
        · simp [detailErrors, hlisted]

theorem mem_insertEntry {e f : Entry} {es : List Entry} :
    f ∈ insertEntry e es ↔ f = e ∨ f ∈ es := by
  induction es with
  | nil => simp [insertEntry]
  | cons x xs ih =>
      rw [insertEntry]
      split
      · rename_i heq
        simp [heq]
      · split
        · simp
        · simp only [List.mem_cons, ih]
          tauto

theorem mem_sortEntries {f : Entry} {es : List Entry} : f ∈ sortEntries es ↔ f ∈ es := by
  have hrun : ∀ acc : List Entry,
      f ∈ es.foldl (fun acc e => insertEntry e acc) acc ↔ f ∈ es ∨ f ∈ acc := by
    induction es with
    | nil => simp
    | cons e es ih =>
        intro acc
        rw [List.foldl_cons, ih, mem_insertEntry, List.mem_cons]
        tauto
  rw [sortEntries, hrun, or_iff_left List.not_mem_nil]

theorem missingErrors_eq_nil_iff {listed backed : List Entry} :
    missingErrors listed backed = [] ↔ ∀ e ∈ listed, e ∈ backed := by
  simp [missingErrors, mem_sortEntries]

/-- The examination is content exactly if the items are the listed entries, each once, and the
status goes with the groups of errors. -/
theorem structuralErrors_eq_nil_iff {r : CheckResult} {ms : List (String × Value)}
    (h : r.HeldBy ms) :
    structuralErrors (Value.object ms).canonical = [] ↔
      r.entries.Nodup ∧ r.backed.Perm r.entries ∧
        ((∃ g ∈ r.groups, g.severity = .error) ↔ r.status = .fail) := by
  simp only [structuralErrors, List.append_eq_nil_iff, statusErrors_eq_nil_iff h, entries_eq h,
    backed_eq h, repeatErrors_eq_nil_iff, detailErrors_eq_nil_iff, missingErrors_eq_nil_iff,
    List.not_mem_nil, not_false_eq_true, implies_true, and_true]
  constructor
  · rintro ⟨⟨⟨hentries, hlisted, hbacked⟩, hmissing⟩, hstatus⟩
    have hperm : r.backed.Perm r.entries :=
      (List.perm_ext_iff_of_nodup hbacked hentries).mpr fun e => ⟨hlisted e, hmissing e⟩
    exact ⟨hentries, hperm, hstatus⟩
  · rintro ⟨hentries, hperm, hstatus⟩
    exact ⟨⟨⟨hentries, fun _ => hperm.mem_iff.mp, hperm.nodup_iff.mpr hentries⟩,
      fun _ => hperm.mem_iff.mpr⟩, hstatus⟩

theorem structuralErrors_of_consistent {r : CheckResult} {ms : List (String × Value)}
    (h : r.HeldBy ms) (hr : r.Consistent) :
    structuralErrors (Value.object ms).canonical = [] ↔ ∀ g ∈ r.groups, g.items.Nodup := by
  rw [structuralErrors_eq_nil_iff h, and_iff_left ⟨hr.perm_backed, hr.status_iff⟩,
    hr.nodup_entries_iff]

end Conformance

theorem Report.structuralErrors_eq_nil_iff {r : Report} (h : r.result.Consistent) :
    Conformance.structuralErrors r.toJson.canonical = [] ↔
      ∀ g ∈ r.result.groups, g.items.Nodup :=
  Conformance.structuralErrors_of_consistent r.heldBy_members h

/-! ## Names of the sections -/

theorem ResultBuilder.nodup_items_iff {b : ResultBuilder} {status : Status} {waived : Bool} :
    (∀ g ∈ (b.finish status waived).groups, g.items.Nodup) ↔
      ∀ d ∈ b.groups, (d.items.map ItemDraft.name).Nodup := by
  constructor
  · intro h d hd
    by_cases hempty : d.items = []
    · rw [hempty]
      exact .nil
    · obtain ⟨g, hg, rfl⟩ := List.mem_map.mp (mem_map_draft_layout.mpr ⟨hd, hempty⟩)
      exact h g.group (List.mem_map_of_mem hg)
  · intro h _ hmem
    obtain ⟨g, hg, rfl⟩ := List.mem_map.mp hmem
    exact h g.draft (mem_map_draft_layout.mp (List.mem_map_of_mem hg)).1

namespace Assembly

variable {checkId : String} {s : Severity} {description reason : String}

theorem names_findings (bucket : List Finding) :
    (findings checkId s description reason bucket).items.map ItemDraft.name =
      bucket.map Finding.identifier := by
  rw [findings, groupOf, List.map_map]
  rfl

theorem names_comments (bucket : List String) :
    (groupOf s description (fun s => commentItem checkId s reason) bucket).items.map
      ItemDraft.name = bucket := by
  rw [groupOf, List.map_map]
  exact List.map_id bucket

theorem names_unused (bucket : List NamedWaiver) :
    (groupOf s description (fun s => unusedItem checkId s reason) bucket).items.map
      ItemDraft.name = bucket.map NamedWaiver.name := by
  rw [groupOf, List.map_map]
  rfl

theorem names_waived (bucket : List WaivedFinding) :
    (groupOf s description (fun s => waivedItem checkId s reason) bucket).items.map
      ItemDraft.name = bucket.map fun w => w.finding.identifier := by
  rw [groupOf, List.map_map]
  rfl

theorem nodup_names_resolve (matcher : Matcher) {vs : List Finding} (ws : List NamedWaiver)
    (h : (vs.map Finding.identifier).Nodup) :
    ((WaiverOutcome.resolve matcher vs ws).unwaived.map Finding.identifier).Nodup ∧
      ((WaiverOutcome.resolve matcher vs ws).waived.map fun w => w.finding.identifier).Nodup := by
  have hperm := (WaiverOutcome.perm_findings matcher vs ws).map Finding.identifier
  have hnodup := hperm.nodup_iff.mpr h
  rw [List.map_append, List.map_map] at hnodup
  exact ⟨(List.nodup_append.mp hnodup).1, (List.nodup_append.mp hnodup).2.1⟩

/-- No finding is listed twice in its section, so a section repeats a name exactly if the
configuration does: among the comments of a forced pass or among the waivers without use. -/
theorem nodup_sections_iff {scoping : Scoping} {patterns : List String} {e : Evidence}
    {c : Classification} {m : CheckModel} {matcher : Matcher} {d : Descriptions}
    (hsorts : c.Sorts scoping patterns e) :
    (∀ g ∈ sections checkId c m.waivers (Evaluation.outcome? m c matcher) d,
        (g.items.map ItemDraft.name).Nodup) ↔
      (m.waivers.mode = .forcedPass → m.waivers.comments.Nodup) ∧
        ∀ o, Evaluation.outcome? m c matcher = some o → (o.unused.map NamedWaiver.name).Nodup := by
  have hviolations := hsorts.nodup_violations
  have hextra := hsorts.nodup_extra
  have hsatisfied := hsorts.nodup_satisfied
  cases hmode : m.waivers.mode with
  | disabled =>
      simp only [sections, Evaluation.outcome?, hmode, List.forall_mem_cons, names_findings]
      simp [hviolations, hextra, hsatisfied]
  | forcedPass =>
      simp only [sections, Evaluation.outcome?, hmode, List.forall_mem_cons, names_findings,
        names_comments]
      simp [hviolations, hextra, hsatisfied]
  | selective =>
      obtain ⟨hunwaived, hwaived⟩ := nodup_names_resolve matcher m.waivers.named hviolations
      simp only [sections, Evaluation.outcome?, hmode, outcomeOr, Option.getD_some,
        List.forall_mem_cons, names_findings, names_unused, names_waived]
      simp [hunwaived, hwaived, hextra, hsatisfied]

end Assembly

/-! ## Reports of runs -/

/-- **Structure.**  In the report of a run every listed name has as many items as it is listed times,
no item is without its entry, and there is a group of errors exactly if the status is FAIL.  The
examination of its text is content exactly if the configuration does not repeat itself where its
entries are copied: among the comments of a forced pass and among the waivers without use. -/
theorem Report.structuralErrors_of_run {stamp : Run.Stamp} {config evidence : String} {r : Report}
    (h : Run.run stamp config evidence = .ok r) :
    ∃ c e result v, Config.load config = .ok c ∧ EvidenceFile.parse evidence c.type = .ok e ∧
      Run.evaluate c e = .ok result ∧ r = Run.report stamp c result ∧
      Value.ofText? r.serialize = some v ∧
      (Conformance.backed v).Perm (Conformance.entries v) ∧ Conformance.statusErrors v = [] ∧
      (Conformance.structuralErrors v = [] ↔
        (c.model.waivers.mode = .forcedPass → c.model.waivers.comments.Nodup) ∧
          ∀ o, result.waivers = some o → (o.unused.map NamedWaiver.name).Nodup) := by
  have hconsistent := (Sound.of_run h).consistent
  obtain ⟨c, e, matcher, result, hc, he, hmatcher, hevaluate, hr⟩ := Run.run_eq_ok_iff.mp h
  have hresult : Run.evaluate c e = .ok result := by
    exact Run.evaluate_eq_ok_iff.mpr ⟨matcher, hmatcher, hevaluate⟩
  refine ⟨c, e, result, r.toJson.canonical, hc, he, hresult, hr, r.ofText?_serialize, ?_,
    Conformance.statusErrors_toJson r hconsistent, ?_⟩
  · rw [Conformance.backed_toJson, Conformance.entries_toJson]
    exact hconsistent.perm_backed
  · obtain ⟨-, classification, hclassify, rfl⟩ := CheckModel.evaluate_eq_ok_iff.mp hevaluate
    have hsorts := Classification.classify_sorts hclassify
    rw [structuralErrors_eq_nil_iff hconsistent, hr]
    exact ResultBuilder.nodup_items_iff.trans (Assembly.nodup_sections_iff hsorts)

/-- One comment is not repeated. -/
theorem Report.structuralErrors_of_run_escapes :
    let start : Timestamp := ⟨⟨2026, 1, 1, 0, 0, 0, 0, false, 0, 0⟩, by decide⟩
    ∃ r v, Run.run ⟨"1", start, start⟩ escapesConfig "\x7b\x7d" = .ok r ∧
      Value.ofText? r.serialize = some v ∧ Conformance.structuralErrors v = [] := by
  intro start
  have hevidence : EvidenceFile.parse "\x7b\x7d" escapesCheck.type = .ok ⟨.split [] [], []⟩ := by cbv
  have hrun : Run.run ⟨"1", start, start⟩ escapesConfig "\x7b\x7d" = .ok _ :=
    Run.run_eq_ok_iff.mpr ⟨escapesCheck, _, _, _, load_escapesConfig, hevidence, rfl, rfl, rfl⟩
  obtain ⟨c, e, result, v, hc, he, hresult, -, hv, -, -, hstructure⟩ :=
    Report.structuralErrors_of_run hrun
  obtain rfl : escapesCheck = c := Except.ok.inj (load_escapesConfig.symm.trans hc)
  obtain rfl := Except.ok.inj (hevidence.symm.trans he)
  obtain rfl := Except.ok.inj hresult
  refine ⟨_, v, hrun, hv, hstructure.mpr ⟨fun _ => by decide, fun o ho => ?_⟩⟩
  cases ho

/-! ## A comment given twice -/

section Twice

/-- A pass that is forced with the same comment twice. -/
def twiceConfig : String :=
  "[checker]\nid = \"C\"\n[waivers]\nvalue = 0\nwaive_items = [\"a\", \"a\"]\n"

def twiceCheck : Config.Resolved where
  checker := ⟨"C", "", .existence, .exact, .usual .boolean⟩
  model := { waivers := .forcedPass ["a", "a"] }
  type := .boolean
  warnings := []

def twiceToml : Toml.Value :=
  .table
    [("checker", .table [("id", .string "C")]),
     ("waivers", .table [("value", .integer 0), ("waive_items", .array [.string "a", .string "a"])])]

set_option maxRecDepth 10000 in
theorem ofText_twiceConfig : Toml.Value.ofText? twiceConfig = some twiceToml := by cbv

theorem load_twiceConfig : Config.load twiceConfig = .ok twiceCheck :=
  Config.load_of_tables ofText_twiceConfig (by decide) (by cbv) (by decide) rfl (by cbv)

/-- The report of a run need not have the structure that is asked of it. -/
theorem Report.not_structuralErrors_of_run :
    ¬ ∀ (stamp : Run.Stamp) (config evidence : String) (r : Report),
      Run.run stamp config evidence = .ok r →
        ∀ v, Value.ofText? r.serialize = some v → Conformance.structuralErrors v = [] := by
  intro h
  let start : Timestamp := ⟨⟨2026, 1, 1, 0, 0, 0, 0, false, 0, 0⟩, by decide⟩
  have hevidence : EvidenceFile.parse "\x7b\x7d" twiceCheck.type = .ok ⟨.split [] [], []⟩ := by cbv
  have hrun : Run.run ⟨"1", start, start⟩ twiceConfig "\x7b\x7d" = .ok _ :=
    Run.run_eq_ok_iff.mpr ⟨twiceCheck, _, _, _, load_twiceConfig, hevidence, rfl, rfl, rfl⟩
  have hnil := h _ _ _ _ hrun _ (Report.ofText?_serialize _)
  have hnames := (Report.structuralErrors_eq_nil_iff (Sound.of_run hrun).consistent).mp hnil
  have htwice : ¬ ["a", "a"].Nodup := by decide
  exact htwice (hnames ⟨"INFO01", .info, _, ["a", "a"]⟩ (.head _))

end Twice

end Signoff

/-
# `Signoff.Proofs.Drafting` — an item is drafted with the severity that it is printed with

The fingerprint of an item is taken before there is a label: the item is drafted for a group that
was just opened, with the severity that the builder has for that group.  Severity and label are
printed later, when empty groups are gone and the others are sorted and numbered.  Here the drafting
is done step by step, the severity looked up each time by the handle of the group, with or without a
fallback for a handle that points at no group (`drafted`).

One step adds one item to the group that was opened last, whatever the builder held before
(`put_last`).  So a group is filled with the items for its own severity (`fill_eq`), and all groups
together are the sections of the result (`drafted_eq`).  As no fallback enters into this, none is
ever used.  What the layout prints with an item is the severity of the group that it was drafted
for, and that makes every fingerprint one of the printed fields.
-/
import Signoff.Evaluation
import Signoff.Proofs.Layout

namespace Signoff

namespace Assembly

/-! ## Drafting step by step -/

/-- A group to be opened, and the items to be drafted for it once its severity is looked up. -/
structure Batch where
  severity : Severity
  description : String
  items : List (Severity → ItemDraft)

namespace Batch

def ofBucket (s : Severity) (description : String) (item : Severity → α → ItemDraft)
    (bucket : List α) : Batch :=
  ⟨s, description, bucket.map fun x s => item s x⟩

/-- The group, its items drafted with its own severity. -/
def group (x : Batch) : GroupDraft :=
  ⟨x.severity, x.description, x.items.map fun item => item x.severity⟩

end Batch

/-- The groups in the order of opening. -/
def batches (checkId : String) (c : Classification) (w : WaiverPolicy)
    (outcome : Option WaiverOutcome) (d : Descriptions) : List Batch :=
  match w.mode with
  | .disabled =>
    [.ofBucket .error d.missingDesc (fun s => findingItem checkId s d.missingReason) c.violations,
     .ofBucket .warn d.extraDesc (fun s => findingItem checkId s d.extraReason) c.extra,
     .ofBucket .info d.foundDesc (fun s => findingItem checkId s d.foundReason) c.satisfied]
  | .forcedPass =>
    [.ofBucket .info d.waiveCommentDesc (fun s => commentItem checkId s d.waiveCommentReason)
       w.comments,
     .ofBucket .info d.waivedAsInfoDesc
       (fun s => findingItem checkId s (d.missingReason ++ waivedAsInfoTag)) c.violations,
     .ofBucket .info d.foundDesc (fun s => findingItem checkId s d.foundReason) c.satisfied,
     .ofBucket .info d.extraDesc (fun s => findingItem checkId s d.extraReason) c.extra]
  | .selective =>
    let o := outcomeOr c outcome
    [.ofBucket .error d.missingDesc (fun s => findingItem checkId s d.missingReason) o.unwaived,
     .ofBucket .warn d.extraDesc (fun s => findingItem checkId s d.extraReason) c.extra,
     .ofBucket .warn d.unusedDesc (fun s => unusedItem checkId s d.unusedReason) o.unused,
     .ofBucket .info d.waivedDesc (fun s => waivedItem checkId s d.waivedReason) o.waived,
     .ofBucket .info d.foundDesc (fun s => findingItem checkId s d.foundReason) c.satisfied]

section Steps

variable (fallback : Option Severity)

/-- One more item in a group, drafted with the severity that the builder has for the group, or else
with the fallback.  Without a fallback there may be no severity to draft with. -/
def put (g : GroupHandle) (b : ResultBuilder) (item : Severity → ItemDraft) :
    Option ResultBuilder :=
  ((b.severityOf? g).or fallback).map fun s => b.push g (item s)

/-- One more group, filled item by item. -/
def fill (b : ResultBuilder) (x : Batch) : Option ResultBuilder :=
  x.items.foldlM (put fallback (b.openGroup x.severity x.description).2)
    (b.openGroup x.severity x.description).1

/-- The builder after all groups were opened and filled. -/
def drafted (checkId : String) (c : Classification) (w : WaiverPolicy)
    (outcome : Option WaiverOutcome) (d : Descriptions) : Option ResultBuilder :=
  (batches checkId c w outcome d).foldlM (fill fallback) {}

end Steps

/-! ## A step and a run -/

section Runs

variable {fallback : Option Severity} {before : List GroupDraft} {a : GroupDraft}

/-- The handle of the last group finds its severity, and the item goes there. -/
theorem put_last (item : Severity → ItemDraft) :
    put fallback ⟨before.length⟩ ⟨before ++ [a]⟩ item =
      some ⟨before ++ [{ a with items := a.items ++ [item a.severity] }]⟩ := by
  have hseverity : (ResultBuilder.mk (before ++ [a])).severityOf? ⟨before.length⟩ =
      some a.severity := by
    rw [ResultBuilder.severityOf?, List.getElem?_concat_length, Option.map_some]
  rw [put, hseverity, Option.some_or, Option.map_some, ResultBuilder.push,
    List.modify_eq_take_drop, List.take_left, List.drop_left, List.modifyHead_cons]

theorem foldlM_put_last (items : List (Severity → ItemDraft)) :
    items.foldlM (put fallback ⟨before.length⟩) ⟨before ++ [a]⟩ =
      some ⟨before ++ [{ a with items := a.items ++ items.map fun item => item a.severity }]⟩ := by
  induction items generalizing a with
  | nil => simp
  | cons item items ih =>
      rw [List.foldlM_cons, put_last, Option.bind_eq_bind, Option.bind_some, ih, List.map_cons,
        List.append_assoc, List.singleton_append]

theorem fill_eq (b : ResultBuilder) (x : Batch) :
    fill fallback b x = some ⟨b.groups ++ [x.group]⟩ := by
  rw [fill, ResultBuilder.openGroup, foldlM_put_last, List.nil_append]
  rfl

theorem foldlM_fill (b : ResultBuilder) (xs : List Batch) :
    xs.foldlM (fill fallback) b = some ⟨b.groups ++ xs.map Batch.group⟩ := by
  induction xs generalizing b with
  | nil => simp
  | cons x xs ih =>
      rw [List.foldlM_cons, fill_eq, Option.bind_eq_bind, Option.bind_some, ih, List.map_cons,
        List.append_assoc, List.singleton_append]

end Runs

section Sections

variable {checkId : String} {c : Classification} {w : WaiverPolicy}
  {outcome : Option WaiverOutcome} {d : Descriptions}

theorem Batch.group_ofBucket {α : Type} (s : Severity) (description : String)
    (item : Severity → α → ItemDraft) (bucket : List α) :
    (ofBucket s description item bucket).group = groupOf s description item bucket := by
  rw [group, ofBucket, List.map_map]
  rfl

theorem map_group_batches :
    (batches checkId c w outcome d).map Batch.group = sections checkId c w outcome d := by
  cases hmode : w.mode <;>
    simp only [batches, sections, hmode, List.map_cons, List.map_nil, Batch.group_ofBucket, findings]

/-- Step by step, the groups become the sections of the result, and no fallback is needed. -/
theorem drafted_eq (fallback : Option Severity) :
    drafted fallback checkId c w outcome d = some ⟨sections checkId c w outcome d⟩ := by
  rw [drafted, foldlM_fill, List.nil_append, map_group_batches]

end Sections

/-! ## Fingerprints -/

/-- The fingerprints of the items are those for the severity of their group. -/
def Stamped (checkId : String) (g : GroupDraft) : Prop :=
  ∀ i ∈ g.items, i.fingerprint = Fingerprint.ofItem checkId g.severity i.name i.reason

theorem stamped_groupOf {α : Type} {checkId : String} {s : Severity} {description : String}
    {item : Severity → α → ItemDraft} {bucket : List α}
    (h : ∀ x, (item s x).fingerprint =
      Fingerprint.ofItem checkId s (item s x).name (item s x).reason) :
    Stamped checkId (groupOf s description item bucket) :=
  List.forall_mem_map.mpr fun x _ => h x

theorem stamped_findings {checkId : String} {s : Severity} {description reason : String}
    {bucket : List Finding} : Stamped checkId (findings checkId s description reason bucket) :=
  stamped_groupOf fun _ => rfl

theorem stamped_sections (checkId : String) (c : Classification) (w : WaiverPolicy)
    (outcome : Option WaiverOutcome) (d : Descriptions) :
    ∀ g ∈ sections checkId c w outcome d, Stamped checkId g := by
  cases hmode : w.mode with
  | disabled =>
      simp only [sections, hmode, List.forall_mem_cons]
      exact ⟨stamped_findings, stamped_findings, stamped_findings, nofun⟩
  | forcedPass =>
      simp only [sections, hmode, List.forall_mem_cons]
      exact ⟨stamped_groupOf fun _ => rfl, stamped_findings, stamped_findings, stamped_findings,
        nofun⟩
  | selective =>
      simp only [sections, hmode, List.forall_mem_cons]
      exact ⟨stamped_findings, stamped_findings, stamped_groupOf fun _ => rfl,
        stamped_groupOf fun _ => rfl, stamped_findings, nofun⟩

end Assembly

namespace ResultBuilder

variable {b : ResultBuilder} {g : LabelledGroup} {status : Status} {waived : Bool}

theorem mem_details_finish {i : DetailItem} :
    i ∈ (b.finish status waived).details ↔
      ∃ g ∈ b.layout, ∃ draft ∈ g.draft.items, g.item draft = i := by
  simp only [finish, List.mem_flatMap, LabelledGroup.details, List.mem_map]

/-- A group of the layout is the only one of the result with its label. -/
theorem group_unique (hg : g ∈ b.layout) {g' : ResultGroup}
    (hg' : g' ∈ (b.finish status waived).groups) (hlabel : g'.label = g.label) : g' = g.group := by
  obtain ⟨x, hx, rfl⟩ := List.mem_map.mp hg'
  rw [List.inj_on_of_nodup_map b.nodup_labels hx hg hlabel]

theorem group?_finish (hg : g ∈ b.layout) :
    (b.finish status waived).group? g.label = some g.group := by
  have hmem : g.group ∈ (b.finish status waived).groups := List.mem_map_of_mem hg
  cases hfind : (b.finish status waived).group? g.label with
  | none =>
      have hnone := List.find?_eq_none.mp hfind g.group hmem
      exact absurd (beq_self_eq_true g.label) hnone
  | some g' =>
      have hlabel : g'.label = g.label := by simpa using List.find?_some hfind
      rw [group_unique hg (List.mem_of_find?_eq_some hfind) hlabel]

end ResultBuilder

namespace Assembly

/-- **Fingerprints on the page.**  Whatever a result is assembled from, the fingerprint of each item
is that of the check and of the severity, name and reason printed with it, and this severity is that
of the one group with the label printed with it.  Drafted step by step, the result is the same with
any fallback for a severity that is not found, and without one. -/
theorem fingerprints_recomputed (checkId : String) (c : Classification) (w : WaiverPolicy)
    (outcome : Option WaiverOutcome) (v : Verdict) (d : Descriptions) :
    let r := assemble checkId c w outcome v d
    (∀ i ∈ r.details,
      i.fingerprint = Fingerprint.ofItem checkId i.severity i.name i.reason ∧
        ∃ g, r.group? i.group = some g ∧ g.severity = i.severity ∧
          ∀ g' ∈ r.groups, g'.label = i.group → g' = g) ∧
      ∀ fallback : Option Severity,
        (drafted fallback checkId c w outcome d).map (fun b => b.finish v.status v.waived) =
          some r := by
  intro r
  constructor
  · intro i hi
    obtain ⟨g, hg, draft, hdraft, rfl⟩ := ResultBuilder.mem_details_finish.mp hi
    have hsection := (ResultBuilder.mem_map_draft_layout.mp (List.mem_map_of_mem hg)).1
    refine ⟨stamped_sections checkId c w outcome d g.draft hsection draft hdraft, g.group,
      ResultBuilder.group?_finish hg, rfl, ?_⟩
    intro g' hg' hlabel
    exact ResultBuilder.group_unique hg hg' hlabel
  · intro fallback
    rw [drafted_eq, Option.map_some]
    rfl

/-- A waiver without use is listed in the second group of warnings, behind what is extra; no group
of errors is left. -/
theorem fingerprints_recomputed_unused :
    let f : Finding := ⟨"CLK_A", none, none, ""⟩
    let c : Classification := .pattern { missing := [f], extra := [⟨"CLK_X", some 3, none, ""⟩] }
    let ws : List NamedWaiver := [⟨"CLK_A", "ok"⟩, ⟨"OLD", ""⟩]
    let o : WaiverOutcome := { waived := [⟨f, "CLK_A", "ok"⟩], unused := [⟨"OLD", ""⟩] }
    let r := assemble "CHK" c (.selective ws) (some o) ⟨.pass, true⟩ (.usual .patternWaiver)
    r.details.map DetailItem.group = ["WARN01", "WARN02", "INFO01"] ∧
      ∃ i ∈ r.details, i.name = "OLD" ∧ i.group = "WARN02" ∧
        i.fingerprint = Fingerprint.ofItem "CHK" .warn "OLD"
          "Waiver not matched by any violation[WAIVER]" := by
  intro f c ws o r
  have hmem : r.details.get ⟨1, by decide⟩ ∈ r.details := List.get_mem _ _
  refine ⟨by decide, _, hmem, by decide, by decide, ?_⟩
  exact ((fingerprints_recomputed "CHK" c (.selective ws) (some o) ⟨.pass, true⟩
    (.usual .patternWaiver)).1 _ hmem).1

end Assembly

end Signoff

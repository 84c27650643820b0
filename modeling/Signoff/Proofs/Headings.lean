/-
# `Signoff.Proofs.Headings` — which bullets stand under which heading

The page walks the items of a report once: every heading takes as many of them as its group lists
names (`Shown.handOut`).  An item says itself which group it belongs to, and the page does not ask.
A report that is read is accepted if the items of each group, taken out of the list, are those the
group lists; nothing is said about how the groups lie in the list.  So two groups whose items are
mixed are accepted, and the page puts items under a heading that is not theirs
(`Report.not_markdown_headings`).  What the page gets wrong is the order between groups and nothing
else: the headings are right exactly if the bullets stand in the order of the groups
(`Report.headings_iff`).  In the report of a run they do.
-/
import Signoff.Proofs.SavedReport

namespace Signoff

/-! ## Handing out -/

namespace Shown

variable {α : Type}

/-- What each group gets, if every group takes as many as it lists names. -/
def handOut : List α → List ResultGroup → List (List α)
  | _, [] => []
  | items, g :: gs => items.take g.items.length :: handOut (items.drop g.items.length) gs

/-- Groups that lie one after the other get what is theirs. -/
theorem handOut_flatMap {own : ResultGroup → List α} {gs : List ResultGroup}
    (h : ∀ g ∈ gs, (own g).length = g.items.length) : handOut (gs.flatMap own) gs = gs.map own := by
  induction gs with
  | nil => rfl
  | cons g gs ih =>
      have hg := h g List.mem_cons_self
      rw [List.flatMap_cons, handOut, List.take_left' hg, List.drop_left' hg,
        ih fun x hx => h x (List.mem_cons_of_mem g hx), List.map_cons]

theorem flatten_handOut {gs : List ResultGroup} {items : List α}
    (h : items.length ≤ (gs.map fun g => g.items.length).sum) :
    (handOut items gs).flatten = items := by
  induction gs generalizing items with
  | nil =>
      rw [List.length_eq_zero_iff.mp (Nat.le_zero.mp h)]
      rfl
  | cons g gs ih =>
      rw [List.map_cons, List.sum_cons] at h
      have hrest : (items.drop g.items.length).length ≤ (gs.map fun g => g.items.length).sum := by
        rw [List.length_drop]
        omega
      rw [handOut, List.flatten_cons, ih hrest, List.take_append_drop]

/-! ## The page -/

/-- A group of the page with the bullets under its heading. -/
def pageGroup (g : ResultGroup) (bullets : List String) : String :=
  "## " ++ g.label ++ ": " ++ g.description ++ "\n\n" ++ String.join bullets ++ "\n"

/-- The page with the given bullets under its headings. -/
def page (c : Shown) (bullets : List (List String)) : String :=
  "# chkgate report\n\n- Check: \x60" ++ c.checkId ++ "\x60 " ++ c.description ++
    "\n- Status: **" ++ c.status ++ "**\n" ++ lines c.countLine Severity.all ++ "\n" ++
    c.warningBlock ++
    (if c.groups.isEmpty then "No items.\n"
     else String.join (List.zipWith pageGroup c.groups bullets))

theorem markdownGroups_eq (items : List ShownItem) (gs : List ResultGroup) :
    markdownGroups items gs =
      String.join (List.zipWith pageGroup gs (handOut (items.map bullet) gs)) := by
  induction gs generalizing items with
  | nil => rfl
  | cons g gs ih =>
      have hbullets : lines bullet (items.take g.items.length) =
          String.join ((items.map bullet).take g.items.length) := by
        rw [lines, List.map_take]
      rw [markdownGroups, hbullets, ih, List.map_drop, handOut, List.zipWith_cons_cons,
        String.join_cons, pageGroup]

theorem markdown_eq (c : Shown) :
    c.markdown = c.page (handOut (c.items.map bullet) c.groups) := by
  unfold markdown page
  rw [markdownGroups_eq]

end Shown

/-! ## Headings of a report -/

theorem ResultBuilder.details_finish (b : ResultBuilder) (status : Status) (waived : Bool) :
    (b.finish status waived).details =
      (b.finish status waived).groups.flatMap fun g => (b.finish status waived).detailsIn g.label := by
  calc (b.finish status waived).details
      = b.layout.flatMap LabelledGroup.details := rfl
    _ = b.layout.flatMap fun g => (b.finish status waived).detailsIn g.label :=
        List.flatMap_congr fun g hg => (detailsIn_finish hg).symm
    _ = (b.layout.map LabelledGroup.group).flatMap fun g =>
          (b.finish status waived).detailsIn g.label := by rw [List.flatMap_map]; rfl

namespace Report

variable {r : Report}

def bullet (d : DetailItem) : String := Shown.bullet d.shown

def printedBullets (r : Report) : List (List String) :=
  Shown.handOut (r.result.details.map bullet) r.result.groups

/-- The bullets of the items that the groups own. -/
def ownBullets (r : Report) : List (List String) :=
  r.result.groups.map fun g => (r.result.detailsIn g.label).map bullet

theorem render_markdown (r : Report) : r.render .markdown = r.shown.page r.printedBullets := by
  have hitems : r.shown.items.map Shown.bullet = r.result.details.map bullet := List.map_map
  rw [render, Shown.render, Shown.markdown_eq, hitems]
  rfl

/-- The headings are right exactly if the bullets stand in the order of the groups. -/
theorem headings_iff (h : r.result.Consistent) :
    r.printedBullets = r.ownBullets ↔ r.result.details.map bullet = r.ownBullets.flatten := by
  have hown : ∀ g ∈ r.result.groups,
      ((r.result.detailsIn g.label).map bullet).length = g.items.length := by
    intro g hg
    rw [← h.names_eq g hg, List.length_map, List.length_map]
  constructor
  · intro hprinted
    have hlength : (r.result.details.map bullet).length ≤
        (r.result.groups.map fun g => g.items.length).sum := by
      rw [List.length_map, ← h.perm_details.length_eq, List.length_flatMap]
      refine Nat.le_of_eq (congrArg List.sum (List.map_congr_left fun g hg => ?_))
      rw [← hown g hg, List.length_map]
    rw [← hprinted, printedBullets, Shown.flatten_handOut hlength]
  · intro hordered
    rw [printedBullets, hordered, ownBullets, ← List.flatMap_def, Shown.handOut_flatMap hown]

theorem map_bullet_of_run {stamp : Run.Stamp} {config evidence : String}
    (h : Run.run stamp config evidence = .ok r) :
    r.result.details.map bullet = r.ownBullets.flatten := by
  obtain ⟨c, e, matcher, result, -, -, -, hevaluate, rfl⟩ := Run.run_eq_ok_iff.mp h
  obtain ⟨-, classification, -, rfl⟩ := CheckModel.evaluate_eq_ok_iff.mp hevaluate
  rw [ownBullets, ← List.flatMap_def, ← List.map_flatMap]
  exact congrArg (List.map bullet) (ResultBuilder.details_finish _ _ _)

end Report

/-- **Headings.**  The page of a report that was read puts the bullets under its headings that are
handed out in order, while the log lists the names of the group's own items.  The headings are right
exactly if the bullets stand in the order of the groups; in a report that a run made they do. -/
theorem Report.markdown_headings {text : String} {r : Report} (h : Report.parse text = .ok r) :
    r.render .markdown = r.shown.page r.printedBullets ∧
      (∀ g ∈ r.result.groups, (r.result.detailsIn g.label).map DetailItem.name = g.items) ∧
      (r.printedBullets = r.ownBullets ↔
        r.result.details.map bullet = r.ownBullets.flatten) ∧
      ((∃ stamp config evidence, Run.run stamp config evidence = .ok r) →
        r.printedBullets = r.ownBullets) := by
  have hconsistent := (Sound.of_parse h).consistent
  refine ⟨r.render_markdown, hconsistent.names_eq, headings_iff hconsistent, ?_⟩
  rintro ⟨stamp, config, evidence, hrun⟩
  exact (headings_iff hconsistent).mpr (map_bullet_of_run hrun)

/-! ## Two groups that are mixed -/

section Mixed

def mixedItem (name group : String) : DetailItem := ⟨name, .info, group, "seen", none, none, none, ""⟩

/-- A report with two groups and the given items. -/
def twoGroups (details : List DetailItem) : Report where
  schema := Report.schemaName
  tool := ⟨toolName, "1"⟩
  startedAt := ⟨⟨2026, 1, 1, 0, 0, 0, 0, false, 0, 0⟩, by decide⟩
  finishedAt := ⟨⟨2026, 1, 1, 0, 0, 0, 0, false, 0, 0⟩, by decide⟩
  check := ⟨"C", "", .boolean⟩
  result :=
    { status := .pass
      waived := false
      groups := [⟨"INFO01", .info, "First", ["a", "c"]⟩, ⟨"INFO02", .info, "Second", ["b"]⟩]
      details := details }
  summary := {}

/-- The item of the second group lies between those of the first. -/
def mixedReport : Report :=
  twoGroups [mixedItem "a" "INFO01", mixedItem "b" "INFO02", mixedItem "c" "INFO01"]

/-- The items lie group by group. -/
def orderedReport : Report :=
  twoGroups [mixedItem "a" "INFO01", mixedItem "c" "INFO01", mixedItem "b" "INFO02"]

/-- Saved in the order of its groups, a report has the right bullets under its headings. -/
theorem Report.markdown_headings_ordered :
    Report.parse orderedReport.serialize = .ok orderedReport ∧
      orderedReport.printedBullets = orderedReport.ownBullets := by
  have hsound : orderedReport.Sound := ⟨rfl, (CheckResult.check_eq_ok_iff.mp rfl).1⟩
  obtain ⟨-, -, hheadings, -⟩ := Report.markdown_headings hsound.reads_back
  exact ⟨hsound.reads_back, hheadings.mpr rfl⟩

/-- The page of a report that is accepted need not show the bullets of its groups: here the heading
of the first group has the item of the second. -/
theorem Report.not_markdown_headings :
    ¬ ∀ (text : String) (r : Report), Report.parse text = .ok r →
      r.render .markdown = r.shown.page r.ownBullets := by
  intro h
  have hsound : mixedReport.Sound := ⟨rfl, (CheckResult.check_eq_ok_iff.mp rfl).1⟩
  have hne : mixedReport.render .markdown ≠ mixedReport.shown.page mixedReport.ownBullets := by
    decide
  exact hne (h mixedReport.serialize mixedReport hsound.reads_back)

end Mixed

end Signoff

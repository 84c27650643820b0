/-
# `Signoff.Proofs.Summary` — the summary of a report and its items

The summary counts the buckets, and the items are laid out from sections that the waiver mode selects;
the two are made from the same classification and nothing else ties them together.  Laying out keeps
every item with its severity, so the items of a severity are as many as its sections hold
(`ResultBuilder.length_detailsOf`), and the sections of each mode are known.

The counts are 32 bits wide and a longer bucket would be counted modulo their range.  No bucket is
longer than the list it was selected from, so it is enough that the lists of the check and of its
evidence have lengths of 32 bits (`CheckModel.Countable`).
-/
import Signoff.Proofs.Buckets
import Signoff.Proofs.Tallies
import Signoff.Proofs.Waivers

namespace Signoff

/-! ## Items of a result that was laid out -/

namespace ResultBuilder

variable {b : ResultBuilder} {status : Status} {waived : Bool}

theorem length_detailsOf (s : Severity) :
    ((b.finish status waived).detailsOf s).length =
      (b.groups.map fun g => if g.severity = s then g.items.length else 0).sum := by
  have hentries : ∀ g : GroupDraft, g.entries.countP (fun x => x.1 == s) =
      if g.severity = s then g.items.length else 0 := by
    intro g
    rw [GroupDraft.entries, List.countP_map]
    by_cases hs : g.severity = s <;> simp [Function.comp_def, hs]
  calc ((b.finish status waived).detailsOf s).length
      = ((b.finish status waived).details.map DetailItem.entry).countP (fun x => x.1 == s) := by
        rw [CheckResult.detailsOf, ← List.countP_eq_length_filter, List.countP_map]
        rfl
    _ = (b.groups.flatMap GroupDraft.entries).countP (fun x => x.1 == s) :=
        perm_entries_finish.countP_eq _
    _ = _ := by
        rw [List.countP_flatMap]
        exact congrArg List.sum (List.map_congr_left fun g _ => hentries g)

theorem length_details :
    (b.finish status waived).details.length = (b.groups.map fun g => g.items.length).sum := by
  have hlength : ∀ g : GroupDraft, g.entries.length = g.items.length := fun g => List.length_map _
  rw [← List.length_map DetailItem.entry, perm_entries_finish.length_eq, List.length_flatMap]
  exact congrArg List.sum (List.map_congr_left fun g _ => hlength g)

end ResultBuilder

/-! ## Items of an evaluation -/

theorem WaiverOutcome.length_resolve (matcher : Matcher) (vs : List Finding)
    (ws : List NamedWaiver) :
    (resolve matcher vs ws).unwaived.length + (resolve matcher vs ws).waived.length =
      vs.length := by
  have hlength := (perm_findings matcher vs ws).length_eq
  rwa [List.length_append, List.length_map] at hlength

namespace Assembly

@[simp] theorem severity_groupOf {α : Type} {s : Severity} {description : String}
    {item : Severity → α → ItemDraft} {bucket : List α} :
    (groupOf s description item bucket).severity = s := rfl

@[simp] theorem length_items_groupOf {α : Type} {s : Severity} {description : String}
    {item : Severity → α → ItemDraft} {bucket : List α} :
    (groupOf s description item bucket).items.length = bucket.length := List.length_map _

end Assembly

namespace Evaluation

variable {m : CheckModel} (ctx : CheckContext) {c : Classification}

theorem result_ofClassification :
    (ofClassification m ctx c).result =
      (ResultBuilder.mk (Assembly.sections ctx.checkId c m.waivers (outcome? m c ctx.matcher)
        (ctx.descriptions.getD (.usual m.type)))).finish (ofClassification m ctx c).verdict.status
          (ofClassification m ctx c).verdict.waived := rfl

theorem lengths_disabled (hmode : m.waivers.mode = .disabled) :
    ((ofClassification m ctx c).result.detailsOf .error).length = c.violations.length ∧
    ((ofClassification m ctx c).result.detailsOf .warn).length = c.extra.length ∧
    (ofClassification m ctx c).result.details.length =
      c.satisfied.length + c.extra.length + c.violations.length := by
  rw [result_ofClassification, ResultBuilder.length_detailsOf, ResultBuilder.length_detailsOf,
    ResultBuilder.length_details]
  simp only [Assembly.sections, hmode, Assembly.findings, List.map_cons, List.map_nil,
    List.sum_cons, List.sum_nil, Assembly.severity_groupOf, Assembly.length_items_groupOf,
    reduceCtorEq, if_true, if_false]
  omega

theorem lengths_forcedPass (hmode : m.waivers.mode = .forcedPass) :
    ((ofClassification m ctx c).result.detailsOf .error).length = 0 ∧
    ((ofClassification m ctx c).result.detailsOf .warn).length = 0 ∧
    (ofClassification m ctx c).result.details.length =
      c.satisfied.length + c.extra.length + c.violations.length + m.waivers.comments.length := by
  rw [result_ofClassification, ResultBuilder.length_detailsOf, ResultBuilder.length_detailsOf,
    ResultBuilder.length_details]
  simp only [Assembly.sections, hmode, Assembly.findings, List.map_cons, List.map_nil,
    List.sum_cons, List.sum_nil, Assembly.severity_groupOf, Assembly.length_items_groupOf,
    reduceCtorEq, if_false]
  omega

theorem lengths_selective (hmode : m.waivers.mode = .selective) :
    let o := WaiverOutcome.resolve ctx.matcher c.violations m.waivers.named
    ((ofClassification m ctx c).result.detailsOf .error).length = o.unwaived.length ∧
    ((ofClassification m ctx c).result.detailsOf .warn).length =
      c.extra.length + o.unused.length ∧
    (ofClassification m ctx c).result.details.length =
      c.satisfied.length + c.extra.length + c.violations.length + o.unused.length := by
  intro o
  have hviolations : o.unwaived.length + o.waived.length = c.violations.length :=
    WaiverOutcome.length_resolve ..
  have houtcome : Assembly.outcomeOr c (outcome? m c ctx.matcher) = o := by
    rw [outcome?, hmode]
    rfl
  rw [result_ofClassification, ResultBuilder.length_detailsOf, ResultBuilder.length_detailsOf,
    ResultBuilder.length_details]
  simp only [Assembly.sections, hmode, houtcome, Assembly.findings, List.map_cons, List.map_nil,
    List.sum_cons, List.sum_nil, Assembly.severity_groupOf, Assembly.length_items_groupOf,
    reduceCtorEq, if_true, if_false]
  omega

end Evaluation

/-! ## Lengths that can be counted -/

/-- The lists of records that the evidence consists of. -/
def Evidence.lists : Evidence → List (List Finding)
  | .scoped findings => [findings]
  | .split violations passes => [violations, passes]

/-- The lists of the check and of its evidence have lengths of 32 bits. -/
structure CheckModel.Countable (m : CheckModel) (e : Evidence) : Prop where
  patterns : m.requirements.patterns.length < UInt32.size
  entries : m.waivers.entries.length < UInt32.size
  records : ∀ fs ∈ e.lists, fs.length < UInt32.size

namespace BucketCounts

theorem toNat_size {α : Type} {xs : List α} (h : xs.length < UInt32.size) :
    (size xs).toNat = xs.length :=
  UInt32.toNat_ofNat_of_lt h

end BucketCounts

theorem length_firsts_le (fs : List Finding) : (Finding.firsts fs).length ≤ fs.length :=
  (firstBy_sublist fs).length_le

theorem length_distinct_le (xs : List String) : (distinct xs).length ≤ xs.length :=
  (firstBy_sublist xs).length_le

theorem WaiverOutcome.length_unused_le (matcher : Matcher) (vs : List Finding)
    (ws : List NamedWaiver) : (resolve matcher vs ws).unused.length ≤ ws.length := by
  rw [resolve, unusedWaivers, List.length_map]
  exact (List.length_filter_le _ _).trans_eq List.length_zipIdx

theorem Classification.lengths_lt {m : CheckModel} {e : Evidence} {s : Scoping} {c : Classification}
    (hc : classify m.type s m.requirements.patterns e = .ok c) (h : m.Countable e) :
    c.violations.length < UInt32.size ∧ c.satisfied.length < UInt32.size ∧
      c.extra.length < UInt32.size := by
  have hpatterns := (length_distinct_le m.requirements.patterns).trans_lt h.patterns
  cases hp : m.type.usesPatterns <;> cases e <;>
    simp only [classify, hp, Except.ok.injEq, reduceCtorEq] at hc
  · rename_i violations passes
    subst hc
    have hviolations := h.records violations (by simp [Evidence.lists])
    have hpasses := h.records passes (by simp [Evidence.lists])
    exact ⟨(length_firsts_le violations).trans_lt hviolations,
      ((List.length_filter_le _ _).trans (length_firsts_le passes)).trans_lt hpasses,
      (by decide : 0 < UInt32.size)⟩
  · rename_i findings
    subst hc
    have hfindings := h.records findings (by simp [Evidence.lists])
    exact ⟨(List.length_filterMap_le _ _).trans_lt hpatterns,
      (List.length_filterMap_le _ _).trans_lt hpatterns,
      ((List.length_filter_le _ _).trans (length_firsts_le findings)).trans_lt hfindings⟩

/-! ## The summary -/

/-- What the summary of an evaluation says of its items. -/
structure Evaluation.SummedUp (m : CheckModel) (r : Evaluation) : Prop where
  /-- Pattern checks miss patterns, and boolean checks have violations. -/
  violations_eq : r.type.usesPatterns = true → r.counts.violations = 0
  missing_eq : r.type.usesPatterns = false → r.counts.missing = 0 ∧ r.counts.extra = 0
  /-- Where there are waivers, they partition what the check failed on. -/
  waived_add_unwaived : m.waivers.mode = .selective →
    r.counts.waived.toNat + r.counts.unwaived.toNat =
      r.counts.missing.toNat + r.counts.violations.toNat
  no_waivers : m.waivers.mode ≠ .selective →
    r.counts.waived = 0 ∧ r.counts.unwaived = 0 ∧ r.counts.unusedWaivers = 0
  no_comments : m.waivers.mode ≠ .forcedPass → r.counts.waiveComments = 0
  errors_eq : (r.result.detailsOf .error).length =
    match m.waivers.mode with
    | .selective => r.counts.unwaived.toNat
    | .disabled => r.counts.missing.toNat + r.counts.violations.toNat
    | .forcedPass => 0
  warnings_eq : (r.result.detailsOf .warn).length =
    match m.waivers.mode with
    | .selective => r.counts.extra.toNat + r.counts.unusedWaivers.toNat
    | .disabled => r.counts.extra.toNat
    | .forcedPass => 0
  details_eq : r.result.details.length =
    r.counts.found.toNat + r.counts.extra.toNat + r.counts.missing.toNat +
      r.counts.violations.toNat + r.counts.unusedWaivers.toNat + r.counts.waiveComments.toNat

namespace Evaluation

variable {m : CheckModel} (ctx : CheckContext) {c : Classification}

/-- What the check failed on is counted once, as missing or as a violation. -/
theorem missing_add_violations (h : c.violations.length < UInt32.size) :
    (ofClassification m ctx c).counts.missing.toNat +
      (ofClassification m ctx c).counts.violations.toNat = c.violations.length := by
  cases c with
  | pattern p => exact BucketCounts.toNat_size h
  | boolean b => exact (Nat.zero_add _).trans (BucketCounts.toNat_size h)

/-- Which of the two it is, the type says. -/
theorem counts_of_type {e : Evidence} {s : Scoping} {patterns : List String}
    (hc : Classification.classify m.type s patterns e = .ok c) :
    (m.type.usesPatterns = true → (ofClassification m ctx c).counts.violations = 0) ∧
      (m.type.usesPatterns = false → (ofClassification m ctx c).counts.missing = 0 ∧
        (ofClassification m ctx c).counts.extra = 0) := by
  cases hp : m.type.usesPatterns <;> cases e <;>
    simp only [Classification.classify, hp, Except.ok.injEq, reduceCtorEq] at hc
  · subst hc
    exact ⟨fun h => absurd h Bool.false_ne_true, fun _ => ⟨rfl, rfl⟩⟩
  · subst hc
    exact ⟨fun _ => rfl, fun h => absurd h.symm Bool.false_ne_true⟩

theorem counts_of_ne_selective (hmode : m.waivers.mode ≠ .selective) :
    (ofClassification m ctx c).counts.waived = 0 ∧
      (ofClassification m ctx c).counts.unwaived = 0 ∧
      (ofClassification m ctx c).counts.unusedWaivers = 0 := by
  have houtcome : outcome? m c ctx.matcher = none := by
    cases h : m.waivers.mode with
    | selective => exact absurd h hmode
    | disabled => simp only [outcome?, h]
    | forcedPass => simp only [outcome?, h]
  simp only [ofClassification, houtcome]
  exact ⟨rfl, rfl, rfl⟩

theorem counts_of_selective (hmode : m.waivers.mode = .selective)
    (hviolations : c.violations.length < UInt32.size)
    (hentries : m.waivers.entries.length < UInt32.size) :
    let o := WaiverOutcome.resolve ctx.matcher c.violations m.waivers.named
    (ofClassification m ctx c).counts.waived.toNat = o.waived.length ∧
      (ofClassification m ctx c).counts.unwaived.toNat = o.unwaived.length ∧
      (ofClassification m ctx c).counts.unusedWaivers.toNat = o.unused.length := by
  intro o
  have houtcome : outcome? m c ctx.matcher = some o := by
    simp only [outcome?, hmode]
    rfl
  have hwaived : o.waived.length ≤ c.violations.length := List.length_filterMap_le _ _
  have hunwaived : o.unwaived.length ≤ c.violations.length := List.length_filter_le _ _
  have hunused : o.unused.length ≤ m.waivers.entries.length :=
    (WaiverOutcome.length_unused_le _ _ _).trans_eq (List.length_map _)
  simp only [ofClassification, houtcome]
  exact ⟨BucketCounts.toNat_size (hwaived.trans_lt hviolations),
    BucketCounts.toNat_size (hunwaived.trans_lt hviolations),
    BucketCounts.toNat_size (hunused.trans_lt hentries)⟩

theorem waiveComments_of_ne_forcedPass (hmode : m.waivers.mode ≠ .forcedPass) :
    (ofClassification m ctx c).counts.waiveComments = 0 := by
  have hcount : commentCount m.waivers = 0 := by
    cases h : m.waivers.mode with
    | forcedPass => exact absurd h hmode
    | disabled => simp only [commentCount, h]
    | selective => simp only [commentCount, h]
  simp only [ofClassification, hcount]
  rfl

theorem waiveComments_of_forcedPass (hmode : m.waivers.mode = .forcedPass)
    (hentries : m.waivers.entries.length < UInt32.size) :
    (ofClassification m ctx c).counts.waiveComments.toNat = m.waivers.comments.length := by
  have hcount : commentCount m.waivers = m.waivers.entries.length := by
    simp only [commentCount, hmode]
  simp only [ofClassification, hcount, WaiverPolicy.comments, List.length_map]
  exact BucketCounts.toNat_size hentries

end Evaluation

/-- **Summary.**  Where the lists have lengths that can be counted, the summary of an evaluation
agrees with its items. -/
theorem CheckModel.summary_agrees {m : CheckModel} {e : Evidence} {ctx : CheckContext}
    {r : Evaluation} (h : m.evaluate e ctx = .ok r) (hlists : m.Countable e) : r.SummedUp m := by
  obtain ⟨-, c, hc, rfl⟩ := CheckModel.evaluate_eq_ok_iff.mp h
  obtain ⟨hviolations, hsatisfied, hextra⟩ := Classification.lengths_lt hc hlists
  obtain ⟨hpattern, hboolean⟩ := Evaluation.counts_of_type ctx hc
  have hfailed := Evaluation.missing_add_violations (m := m) ctx hviolations
  have hfound : (Evaluation.ofClassification m ctx c).counts.found.toNat = c.satisfied.length :=
    BucketCounts.toNat_size hsatisfied
  have hwarned : (Evaluation.ofClassification m ctx c).counts.extra.toNat = c.extra.length :=
    BucketCounts.toNat_size hextra
  cases hmode : m.waivers.mode with
  | disabled =>
      obtain ⟨herrors, hwarnings, htotal⟩ := Evaluation.lengths_disabled ctx (c := c) hmode
      obtain ⟨hwaived, hunwaived, hunused⟩ :=
        Evaluation.counts_of_ne_selective (m := m) ctx (c := c) (by simp [hmode])
      have hcomments :=
        Evaluation.waiveComments_of_ne_forcedPass (m := m) ctx (c := c) (by simp [hmode])
      refine ⟨hpattern, hboolean, by simp [hmode], fun _ => ⟨hwaived, hunwaived, hunused⟩,
        fun _ => hcomments, ?_, ?_, ?_⟩
      · rw [herrors, hmode, hfailed]
      · rw [hwarnings, hmode, hwarned]
      · rw [htotal, hunused, hcomments, UInt32.toNat_zero]
        omega
  | forcedPass =>
      obtain ⟨herrors, hwarnings, htotal⟩ :=
        Evaluation.lengths_forcedPass ctx (c := c) hmode
      obtain ⟨hwaived, hunwaived, hunused⟩ :=
        Evaluation.counts_of_ne_selective (m := m) ctx (c := c) (by simp [hmode])
      have hcomments :=
        Evaluation.waiveComments_of_forcedPass ctx (c := c) hmode hlists.entries
      refine ⟨hpattern, hboolean, by simp [hmode], fun _ => ⟨hwaived, hunwaived, hunused⟩,
        by simp [hmode], ?_, ?_, ?_⟩
      · rw [herrors, hmode]
      · rw [hwarnings, hmode]
      · rw [htotal, hunused, hcomments, UInt32.toNat_zero]
        omega
  | selective =>
      obtain ⟨herrors, hwarnings, htotal⟩ := Evaluation.lengths_selective ctx (c := c) hmode
      obtain ⟨hwaived, hunwaived, hunused⟩ :=
        Evaluation.counts_of_selective ctx hmode hviolations hlists.entries
      have hcomments :=
        Evaluation.waiveComments_of_ne_forcedPass (m := m) ctx (c := c) (by simp [hmode])
      have hpartition := WaiverOutcome.length_resolve ctx.matcher c.violations m.waivers.named
      refine ⟨hpattern, hboolean, fun _ => ?_, by simp [hmode], fun _ => hcomments, ?_, ?_, ?_⟩
      · rw [hwaived, hunwaived, hfailed, ← hpartition, Nat.add_comm]
      · rw [herrors, hmode, hunwaived]
      · rw [hwarnings, hmode, hwarned, hunused]
      · rw [htotal, hunused, hcomments, UInt32.toNat_zero]
        omega

/-- A pattern is missing and waived, another is found, a finding is extra and a waiver has no use. -/
theorem CheckModel.summary_agrees_selective :
    let m : CheckModel :=
      { requirements := { patterns := ["CLK_A", "CLK_B"] },
        waivers := .selective [⟨"CLK_A", "known"⟩, ⟨"STALE", "old"⟩] }
    let e : Evidence := .scoped [⟨"CLK_B", none, none, ""⟩, ⟨"CLK_X", some 3, none, "seen"⟩]
    ∃ r, m.evaluate e { checkId := "CHK" } = .ok r ∧ m.Countable e ∧ r.SummedUp m ∧
      (r.result.detailsOf .warn).length = 2 ∧ r.result.details.length = 4 := by
  intro m e
  have hlists : m.Countable e := by
    refine ⟨by decide, by decide, fun fs hfs => ?_⟩
    obtain rfl := List.mem_singleton.mp hfs
    decide
  have heval : m.evaluate e { checkId := "CHK" } = .ok _ := rfl
  have hsummary := CheckModel.summary_agrees heval hlists
  exact ⟨_, rfl, hlists, hsummary, hsummary.warnings_eq, hsummary.details_eq⟩

end Signoff

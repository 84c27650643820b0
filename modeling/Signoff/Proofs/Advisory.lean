/-
# `Signoff.Proofs.Advisory` — settings that only advise

A check declares counts beside its lists, may name a pattern twice, and may carry waivers or a
matcher that its mode has no use for.  All this is warned about and changes nothing: an evaluation
reads the patterns without their repetitions, the mode that the waiver count selects, and of
waivers, matcher and scoping only what the mode and the type ask for (`evaluate_eq_of_agree`).

The equation is one of whole evaluations, error or not.  It is made of one equation a stage, each
with just the hypotheses that its stage needs.
-/
import Signoff.Evaluation
import Signoff.Proofs.Firsts

namespace Signoff

/-! ## Repeated patterns -/

section Patterns

variable {ps ps' : List String}

theorem mem_iff_of_distinct_eq (h : distinct ps = distinct ps') (p : String) :
    p ∈ ps ↔ p ∈ ps' := by
  rw [← mem_distinct, h, mem_distinct]

theorem isEmpty_eq_of_distinct_eq (h : distinct ps = distinct ps') : ps.isEmpty = ps'.isEmpty := by
  rw [Bool.eq_iff_iff, List.isEmpty_iff, List.isEmpty_iff, List.eq_nil_iff_forall_not_mem,
    List.eq_nil_iff_forall_not_mem]
  exact forall_congr' fun p => not_congr (mem_iff_of_distinct_eq h p)

theorem PatternPartition.classify_eq (h : distinct ps = distinct ps') (s : Scoping)
    (fs : List Finding) : classify s fs ps = classify s fs ps' := by
  have hcontains : ps.contains = ps'.contains := by
    funext p
    rw [Bool.eq_iff_iff, List.contains_iff_mem, List.contains_iff_mem]
    exact mem_iff_of_distinct_eq h p
  rw [classify, classify, h, hcontains]

end Patterns

/-! ## The stages -/

section Stages

variable {m m' : CheckModel} {w w' : WaiverPolicy} {c : Classification}

theorem CheckModel.type_eq (hpatterns : distinct m.requirements.patterns =
    distinct m'.requirements.patterns) (hmode : m.waivers.mode = m'.waivers.mode) :
    m.type = m'.type := by
  rw [type, type, Requirements.searchesPatterns, Requirements.searchesPatterns,
    isEmpty_eq_of_distinct_eq hpatterns, hmode]

/-- A check that does not search for patterns does not judge them either. -/
theorem Classification.classify_eq {type : CheckType} {s s' : Scoping} {ps ps' : List String}
    (hpatterns : distinct ps = distinct ps') (hscoping : type.usesPatterns = true → s = s')
    (e : Evidence) : classify type s ps e = classify type s' ps' e := by
  cases htype : type.usesPatterns with
  | false => cases e <;> simp only [classify, htype]
  | true =>
      obtain rfl := hscoping htype
      cases e <;> simp only [classify, htype, PatternPartition.classify_eq hpatterns]

/-- The entries matter unless the waivers are disabled. -/
def WaiverPolicy.Agree (w w' : WaiverPolicy) : Prop :=
  w.mode = w'.mode ∧ (w.mode ≠ .disabled → w.entries = w'.entries)

theorem WaiverPolicy.Agree.forced_iff (h : w.Agree w') :
    (w.mode = .forcedPass ∧ w.entries = []) ↔ (w'.mode = .forcedPass ∧ w'.entries = []) := by
  obtain ⟨hmode, hentries⟩ := h
  rw [← hmode]
  refine and_congr_right fun hforced => ?_
  rw [hentries (by rw [hforced]; nofun)]

theorem Evaluation.outcome?_eq (h : m.waivers.Agree m'.waivers) {matcher matcher' : Matcher}
    (hmatcher : m.waivers.mode = .selective → matcher = matcher') :
    outcome? m c matcher = outcome? m' c matcher' := by
  obtain ⟨hmode, hentries⟩ := h
  cases hm : m.waivers.mode with
  | disabled => simp only [outcome?, ← hmode, hm]
  | forcedPass => simp only [outcome?, ← hmode, hm]
  | selective =>
      have hnamed : m.waivers.named = m'.waivers.named := by
        rw [WaiverPolicy.named, WaiverPolicy.named, hentries (by rw [hm]; nofun)]
      simp only [outcome?, ← hmode, hm, hnamed, hmatcher hm]

theorem Evaluation.commentCount_eq (h : w.Agree w') : commentCount w = commentCount w' := by
  obtain ⟨hmode, hentries⟩ := h
  cases hw : w.mode with
  | disabled => simp only [commentCount, ← hmode, hw]
  | forcedPass => simp only [commentCount, ← hmode, hw, hentries (by rw [hw]; nofun)]
  | selective => simp only [commentCount, ← hmode, hw]

theorem Assembly.sections_eq (h : w.Agree w') (checkId : String) (outcome : Option WaiverOutcome)
    (d : Descriptions) : sections checkId c w outcome d = sections checkId c w' outcome d := by
  obtain ⟨hmode, hentries⟩ := h
  cases hw : w.mode with
  | disabled => simp only [sections, ← hmode, hw]
  | forcedPass =>
      have hcomments : w.comments = w'.comments := by
        rw [WaiverPolicy.comments, WaiverPolicy.comments, hentries (by rw [hw]; nofun)]
      simp only [sections, ← hmode, hw, hcomments]
  | selective => simp only [sections, ← hmode, hw]

theorem Evaluation.ofClassification_eq {ctx ctx' : CheckContext} (htype : m.type = m'.type)
    (hwaivers : m.waivers.Agree m'.waivers) (hid : ctx.checkId = ctx'.checkId)
    (htexts : ctx.descriptions = ctx'.descriptions)
    (hmatcher : m.waivers.mode = .selective → ctx.matcher = ctx'.matcher) :
    ofClassification m ctx = ofClassification m' ctx' := by
  funext c
  simp only [ofClassification, Assembly.assemble, htype, hid, htexts, ← hwaivers.1,
    outcome?_eq hwaivers hmatcher, commentCount_eq hwaivers, Assembly.sections_eq hwaivers]

theorem CheckModel.evaluate_eq_ite (e : Evidence) (ctx : CheckContext) :
    m.evaluate e ctx =
      if m.waivers.mode = .forcedPass ∧ m.waivers.entries = [] then
        .error .forcedPassWithoutComments
      else (Classification.classify m.type ctx.scoping m.requirements.patterns e).map
        (Evaluation.ofClassification m ctx) := by
  by_cases h : m.waivers.mode = .forcedPass ∧ m.waivers.entries = []
  · simp only [evaluate, validate, h, and_self, if_true]
  · simp only [evaluate, validate, h, if_false]

end Stages

/-! ## The whole -/

section Whole

variable {m m' : CheckModel} {ctx ctx' : CheckContext}

/-- **Advisory settings.**  Two checks that have the same patterns apart from repetitions, the same
waiver mode and, unless waivers are disabled, the same waive entries, evaluate all evidence to the
same: to one error, or to one evaluation.  The matchers need only agree where waivers are matched,
and the scopings where patterns are searched for. -/
theorem CheckModel.evaluate_eq_of_agree
    (hpatterns : distinct m.requirements.patterns = distinct m'.requirements.patterns)
    (hmode : m.waivers.mode = m'.waivers.mode)
    (hentries : m.waivers.mode ≠ .disabled → m.waivers.entries = m'.waivers.entries)
    (hid : ctx.checkId = ctx'.checkId) (htexts : ctx.descriptions = ctx'.descriptions)
    (hmatcher : m.waivers.mode = .selective → ctx.matcher = ctx'.matcher)
    (hscoping : m.type.usesPatterns = true → ctx.scoping = ctx'.scoping) (e : Evidence) :
    m.evaluate e ctx = m'.evaluate e ctx' := by
  have htype : m.type = m'.type := type_eq hpatterns hmode
  have hwaivers : m.waivers.Agree m'.waivers := ⟨hmode, hentries⟩
  have hclassify := Classification.classify_eq hpatterns hscoping e
  have hevaluation := Evaluation.ofClassification_eq htype hwaivers hid htexts hmatcher
  rw [evaluate_eq_ite, evaluate_eq_ite, hclassify, hevaluation, htype]
  exact if_congr hwaivers.forced_iff rfl rfl

/-- A pattern is repeated, both counts disagree with their lists, and nothing is said of it. -/
theorem CheckModel.evaluate_eq_of_agree_counts :
    let m : CheckModel :=
      { requirements := ⟨none, ["NET_A", "NET_B", "NET_A"]⟩,
        waivers := ⟨some 1, [.named ⟨"NET_B", "known"⟩]⟩ }
    let m' : CheckModel :=
      { description := "nets", requirements := ⟨some 9, distinct m.requirements.patterns⟩,
        waivers := ⟨some 70, m.waivers.entries⟩ }
    let e : Evidence := .scoped [⟨"NET_A", some 3, none, ""⟩, ⟨"NET_X", none, none, ""⟩]
    let ctx : CheckContext := { checkId := "C" }
    m.evaluate e ctx = m'.evaluate e ctx ∧
      ∃ r, m'.evaluate e ctx = .ok r ∧ r.verdict = ⟨.pass, true⟩ := by
  intro m m' e ctx
  have hpatterns : distinct m.requirements.patterns = distinct m'.requirements.patterns := by decide
  have hmode : m.waivers.mode = m'.waivers.mode := by decide
  have heq : m.evaluate e ctx = m'.evaluate e ctx :=
    evaluate_eq_of_agree hpatterns hmode (fun _ => rfl) rfl rfl (fun _ => rfl) (fun _ => rfl) e
  exact ⟨heq, _, rfl, by decide⟩

end Whole

end Signoff

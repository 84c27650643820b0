/-
# `Signoff.Proofs.VerdictLaw` — what the verdict says about the evidence

The verdict is computed from lists that were deduplicated, filtered and told apart by waivers.  The
law at the end of this file speaks of none of them: it reads the verdict off the evidence and the
waivers of the model.  Two steps lead there.  `Verdict.resolve` is brought back to the violations
and the waivers (`resolve_status_eq_fail_iff`, `resolve_waived_iff`); the violations are brought back
to the evidence by `Classification.Sorts`.
-/
import Signoff.Evaluation
import Signoff.Proofs.Buckets
import Signoff.Proofs.Waivers

namespace Signoff

namespace Verdict

variable {m : CheckModel} {c : Classification} {matcher : Matcher}

theorem resolve_status_eq_fail_iff :
    (resolve c (Evaluation.outcome? m c matcher) m.waivers.mode).status = .fail ↔
      m.waivers.mode ≠ .forcedPass ∧ ∃ f ∈ c.violations,
        m.waivers.mode = .selective → Uncovered matcher m.waivers.named f.identifier := by
  cases hmode : m.waivers.mode with
  | disabled =>
      cases hv : c.violations <;> simp [resolve, hv, cleanPass, failure]
  | forcedPass => simp [resolve]
  | selective =>
      have hex : (WaiverOutcome.resolve matcher c.violations m.waivers.named).unwaived ≠ [] ↔
          ∃ f ∈ c.violations, Uncovered matcher m.waivers.named f.identifier := by
        simp only [← List.isEmpty_eq_false_iff, List.isEmpty_eq_false_iff_exists_mem,
          WaiverOutcome.mem_unwaived]
      simp only [resolve, Evaluation.outcome?, hmode]
      split
      · rename_i hnil
        simp only [List.isEmpty_iff] at hnil
        simp [← hex, hnil]
      · rename_i hne
        simp only [List.isEmpty_iff] at hne
        simp [failure, ← hex, hne]

/-- A pass is waived if it was forced, or if there were violations to waive. -/
theorem resolve_waived_iff :
    (resolve c (Evaluation.outcome? m c matcher) m.waivers.mode).waived = true ↔
      (resolve c (Evaluation.outcome? m c matcher) m.waivers.mode).status = .pass ∧
        (m.waivers.mode = .forcedPass ∨ m.waivers.mode = .selective ∧ c.violations ≠ []) := by
  cases hmode : m.waivers.mode with
  | disabled =>
      cases hv : c.violations <;> simp [resolve, hv, cleanPass, failure]
  | forcedPass => simp [resolve]
  | selective =>
      simp only [resolve, Evaluation.outcome?, hmode]
      split
      · rename_i hnil
        simp only [List.isEmpty_iff] at hnil
        -- where nothing is unwaived, the waived findings are the violations
        have hperm := WaiverOutcome.perm_findings matcher c.violations m.waivers.named
        have hall : (WaiverOutcome.resolve matcher c.violations m.waivers.named).waived = [] ↔
            c.violations = [] := by
          rw [hnil, List.nil_append] at hperm
          constructor
          · intro hw
            rw [hw] at hperm
            exact hperm.nil_eq.symm
          · intro hv
            exact List.map_eq_nil_iff.mp (hperm.trans (.of_eq hv)).eq_nil
        simp [hall]
      · simp [failure]

end Verdict

/-! ## The law -/

/-- **The verdict law.**  An evaluation fails exactly if the waivers do not force a pass and the
evidence has a violation that no waiver covers, where there are waivers to be held against it.  A
pass is marked as waived exactly if it was forced, or if waivers had violations to cover. -/
theorem evaluate_verdict {m : CheckModel} {e : Evidence} {ctx : CheckContext} {r : Evaluation}
    (h : m.evaluate e ctx = .ok r) :
    (r.result.status = .fail ↔
      m.waivers.value ≠ some 0 ∧
        ∃ name, RawViolation ctx.scoping m.requirements.patterns e name ∧
          ((∃ v, m.waivers.value = some v ∧ 0 < v) →
            ∀ w ∈ m.waivers.named, ctx.matcher name w.name = false)) ∧
    (r.result.waived = true ↔
      r.result.status = .pass ∧
        (m.waivers.value = some 0 ∨
          (∃ v, m.waivers.value = some v ∧ 0 < v) ∧
            ∃ name, RawViolation ctx.scoping m.requirements.patterns e name)) ∧
    ¬ (r.result.status = .fail ∧ r.result.waived = true) := by
  obtain ⟨-, c, hc, rfl⟩ := CheckModel.evaluate_eq_ok_iff.mp h
  have hsorts := Classification.classify_sorts hc
  have hwaived := @Verdict.resolve_waived_iff m c ctx.matcher
  refine ⟨?_, ?_, ?_⟩
  · rw [← WaiverPolicy.mode_eq_selective_iff, Ne, ← WaiverPolicy.mode_eq_forcedPass_iff,
      ← hsorts.exists_violation_iff]
    exact Verdict.resolve_status_eq_fail_iff
  · rw [← WaiverPolicy.mode_eq_selective_iff, ← WaiverPolicy.mode_eq_forcedPass_iff,
      ← hsorts.violations_ne_nil_iff]
    exact hwaived
  · rintro ⟨hfail, hw⟩
    have hpass := (hwaived.mp hw).1
    exact Status.noConfusion (hfail.symm.trans hpass)

/-- Findings for `NET_A` contradict each other and the first one counts; the waiver covers `NET_A`
and leaves `NET_B`. -/
theorem evaluate_verdict_fail_unwaived :
    let m : CheckModel :=
      { requirements := { patterns := ["NET_A", "NET_B", "NET_A"] },
        waivers := .selective [⟨"NET_A", "known"⟩] }
    let e : Evidence := .scoped
      [⟨"NET_B", some 7, none, "bad"⟩, ⟨"NET_A", some 1, none, "bad"⟩,
       ⟨"NET_A", some 2, none, "ok"⟩, ⟨"NET_B", some 9, none, "ok"⟩]
    let ctx : CheckContext := { checkId := "CHK", scoping := .status fun f => f.detail == "ok" }
    ∃ r, m.evaluate e ctx = .ok r ∧ r.result.status = .fail := by
  intro m e ctx
  obtain ⟨r, hr⟩ : ∃ r, m.evaluate e ctx = .ok r := ⟨_, rfl⟩
  refine ⟨r, hr, (evaluate_verdict hr).1.mpr ⟨by decide, "NET_B", ⟨by decide, ?_⟩, ?_⟩⟩
  · exact ⟨⟨"NET_B", some 7, none, "bad"⟩, ⟨rfl, [], _, rfl, by simp⟩, rfl⟩
  · intro _ w hw
    obtain rfl := List.mem_singleton.mp hw
    decide

end Signoff

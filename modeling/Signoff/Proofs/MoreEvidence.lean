/-
# `Signoff.Proofs.MoreEvidence` — more findings never break a search for patterns

A search that only asks whether its patterns occur is monotone: findings that come after the others
can satisfy a pattern and never take that back.  A pattern is judged by its first finding, and what
is added at the end is first only for names that had none.  So a record that was found is found
again, the very same one; what is still missing was missing before; and what is extra stays in front
of the new extra names (`found_append`, `missing_append`, `extra_append`).

The verdict looks at the missing patterns alone, and fewer of them cannot turn a PASS into a FAIL,
whatever the waivers are (`Verdict.pass_of_subset`).  Nothing of this holds where findings are judged
by a predicate: there a pattern without a finding is left out, and the first finding for it can be
an incorrect one (`not_evaluate_more_status`).
-/
import Signoff.Proofs.VerdictLaw

namespace Signoff

open Finding (FirstFor Reported identifier)

variable {fs gs : List Finding} {ps : List String}

/-! ## Longer lists -/

theorem Finding.mem_firsts_append_iff {g : Finding} :
    g ∈ (firsts gs).filter (fun g => !occurs g.identifier fs) ↔
      FirstFor g.identifier g gs ∧ ¬ Reported g.identifier fs := by
  rw [List.mem_filter, firsts, mem_firstBy, ← occurs_iff, Bool.not_eq_true', Bool.not_eq_true]

namespace PatternPartition

theorem found_append :
    (classify .existence fs ps).found.Sublist (classify .existence (fs ++ gs) ps).found := by
  apply filterMap_sublist_filterMap
  intro p f hf
  obtain ⟨hfirst, -⟩ := foundFor?_eq_some_iff.mp hf
  exact foundFor?_eq_some_iff.mpr ⟨hfirst.append_left gs, trivial⟩

theorem missing_append :
    (classify .existence (fs ++ gs) ps).missing.Sublist (classify .existence fs ps).missing := by
  apply filterMap_sublist_filterMap
  intro p f hf
  obtain ⟨hnone, hbare⟩ := missingFor?_eq_some_iff.mp hf
  refine missingFor?_eq_some_iff.mpr ⟨?_, hbare⟩
  rintro ⟨g, hg, hname⟩
  exact hnone ⟨g, List.mem_append_left gs hg, hname⟩

/-- New extra names come after the old ones. -/
theorem extra_append (s : Scoping) :
    (classify s (fs ++ gs) ps).extra =
      (classify s fs ps).extra ++
        ((Finding.firsts gs).filter fun g => !Finding.occurs g.identifier fs).filter
          fun g => !ps.contains g.identifier := by
  simp only [classify, Finding.firsts]
  rw [firstBy_append, List.filter_append]
  rfl

end PatternPartition

/-! ## The verdict -/

theorem Verdict.pass_of_subset {m : CheckModel} {c c' : Classification} {matcher : Matcher}
    (h : c'.violations ⊆ c.violations)
    (hpass : (resolve c (Evaluation.outcome? m c matcher) m.waivers.mode).status = .pass) :
    (resolve c' (Evaluation.outcome? m c' matcher) m.waivers.mode).status = .pass := by
  cases hstatus : (resolve c' (Evaluation.outcome? m c' matcher) m.waivers.mode).status with
  | pass => rfl
  | fail =>
      obtain ⟨hmode, f, hf, huncovered⟩ := resolve_status_eq_fail_iff.mp hstatus
      have hfail := resolve_status_eq_fail_iff.mpr ⟨hmode, f, h hf, huncovered⟩
      rw [hpass] at hfail
      cases hfail

/-! ## The evaluation -/

/-- **More evidence.**  Let findings be added behind those that a search for patterns had.  The
records that were found are found in the same order, the patterns that are missing are some of those
that were missing, and the extra findings are the old ones and after them the first findings with
new names.  A check of these patterns that was evaluated is evaluated again, with any matcher and in
any waiver mode, and if it passed it passes. -/
theorem CheckModel.evaluate_more (fs gs : List Finding) (ps : List String) :
    let c := PatternPartition.classify .existence fs ps
    let c' := PatternPartition.classify .existence (fs ++ gs) ps
    c.found.Sublist c'.found ∧ c'.missing.Sublist c.missing ∧
      (∃ new, c'.extra = c.extra ++ new ∧ new.Sublist gs ∧ (new.map identifier).Nodup ∧
        ∀ g, g ∈ new ↔
          FirstFor g.identifier g gs ∧ ¬ Reported g.identifier fs ∧ g.identifier ∉ ps) ∧
      ∀ (m : CheckModel) (ctx : CheckContext) (r : Evaluation),
        m.requirements.patterns = ps → ctx.scoping = .existence →
          m.evaluate (.scoped fs) ctx = .ok r →
            ∃ r', m.evaluate (.scoped (fs ++ gs)) ctx = .ok r' ∧
              r.classification = .pattern c ∧ r'.classification = .pattern c' ∧
              (r.result.status = .pass → r'.result.status = .pass) := by
  intro c c'
  refine ⟨PatternPartition.found_append, PatternPartition.missing_append,
    ⟨_, PatternPartition.extra_append .existence, ?_, ?_, ?_⟩, ?_⟩
  · exact List.filter_sublist.trans (List.filter_sublist.trans (firstBy_sublist gs))
  · exact (nodup_map_firstBy gs).sublist
      ((List.filter_sublist.trans List.filter_sublist).map identifier)
  · intro g
    rw [List.mem_filter, Finding.mem_firsts_append_iff, and_assoc]
    simp only [Bool.not_eq_true', List.contains_eq_mem, decide_eq_false_iff_not]
  · rintro m ctx r rfl hscoping h
    obtain ⟨hcomments, d, hd, rfl⟩ := evaluate_eq_ok_iff.mp h
    rw [hscoping] at hd
    obtain ⟨hpatterns, rfl⟩ := Classification.classify_scoped_eq_ok_iff.mp hd
    have hd' : Classification.classify m.type ctx.scoping m.requirements.patterns
        (.scoped (fs ++ gs)) = .ok (.pattern c') := by
      rw [hscoping]
      exact Classification.classify_scoped_eq_ok_iff.mpr ⟨hpatterns, rfl⟩
    refine ⟨_, evaluate_eq_ok_iff.mpr ⟨hcomments, _, hd', rfl⟩, rfl, rfl, ?_⟩
    have hfewer : (Classification.pattern c').violations ⊆ (Classification.pattern c).violations :=
      PatternPartition.missing_append.subset
    intro hpass
    exact Verdict.pass_of_subset hfewer hpass

/-- `B` was missing and waived.  Now it is found, `A` is recorded again, and `X` is new. -/
theorem CheckModel.evaluate_more_waived :
    let fs : List Finding := [⟨"Y", some 1, none, ""⟩, ⟨"A", some 2, none, ""⟩]
    let gs : List Finding :=
      [⟨"A", some 3, none, ""⟩, ⟨"X", some 4, none, ""⟩, ⟨"B", some 5, none, ""⟩]
    let m : CheckModel :=
      { requirements := { patterns := ["B", "A", "C"] }
        waivers := .selective [⟨"B", ""⟩, ⟨"C", "known"⟩] }
    ∃ r r', m.evaluate (.scoped fs) { checkId := "C" } = .ok r ∧
      m.evaluate (.scoped (fs ++ gs)) { checkId := "C" } = .ok r' ∧
      r'.result.status = .pass ∧ r.classification.violations.map identifier = ["B", "C"] ∧
      r'.classification.violations.map identifier = ["C"] := by
  intro fs gs m
  obtain ⟨r, hr⟩ : ∃ r, m.evaluate (.scoped fs) { checkId := "C" } = .ok r := ⟨_, rfl⟩
  obtain ⟨r', hr', hc, hc', hpass⟩ :=
    (evaluate_more fs gs m.requirements.patterns).2.2.2 m { checkId := "C" } r rfl rfl hr
  refine ⟨r, r', hr, hr', hpass ?_, ?_, ?_⟩
  · obtain rfl := Except.ok.inj hr
    decide
  · rw [hc]
    decide
  · rw [hc']
    decide

theorem not_evaluate_more_status :
    ¬ ∀ (m : CheckModel) (ctx : CheckContext) (fs gs : List Finding) (r r' : Evaluation),
      m.evaluate (.scoped fs) ctx = .ok r → m.evaluate (.scoped (fs ++ gs)) ctx = .ok r' →
        r.result.status = .pass → r'.result.status = .pass := by
  intro h
  have hpass := h { requirements := { patterns := ["A"] } }
    { checkId := "C", scoping := .status fun _ => false } [] [⟨"A", none, none, ""⟩] _ _ rfl rfl
  exact absurd (hpass (by decide)) (by decide)

end Signoff

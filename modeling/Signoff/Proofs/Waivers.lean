/-
# `Signoff.Proofs.Waivers` — what the waivers do to the violations

Waiver resolution looks at every violation alone.  It is waived by the first waiver that covers its
name, and unwaived if there is none; so the two lists share the violations out, each of them once
(`perm_resolve`).
-/
import Signoff.Verdict
import Signoff.Proofs.Firsts

namespace Signoff

/-- `w` is the first waiver that covers the name. -/
abbrev NamedWaiver.FirstCover (m : Matcher) (name : String) (w : NamedWaiver)
    (ws : List NamedWaiver) : Prop :=
  IsFirst (fun w => m name w.name) w ws

def Uncovered (m : Matcher) (ws : List NamedWaiver) (name : String) : Prop :=
  ∀ w ∈ ws, m name w.name = false

namespace WaiverOutcome

variable {m : Matcher} {vs : List Finding} {ws : List NamedWaiver} {f : Finding}

theorem waive?_eq_some_iff {v : WaivedFinding} :
    waive? m ws f = some v ↔
      ∃ w, NamedWaiver.FirstCover m f.identifier w ws ∧ ⟨f, w.name, w.reason⟩ = v := by
  simp only [waive?, Option.map_eq_some_iff, find?_eq_some_iff_isFirst]

theorem waive?_eq_none_iff : waive? m ws f = none ↔ Uncovered m ws f.identifier := by
  simp [waive?, Uncovered]

theorem finding_of_waive? {v : WaivedFinding} (h : waive? m ws f = some v) : v.finding = f := by
  obtain ⟨w, -, rfl⟩ := waive?_eq_some_iff.mp h
  rfl

/-- The unwaived and the waived findings together are the violations: what is read off the two lists
is what is read off the violations. -/
theorem perm_resolve {β : Type} {g u : Finding → β} {v : WaivedFinding → β}
    (hu : ∀ f, waive? m ws f = none → g f = u f)
    (hv : ∀ f w, waive? m ws f = some w → g f = v w) :
    ((resolve m vs ws).unwaived.map u ++ (resolve m vs ws).waived.map v).Perm (vs.map g) := by
  simp only [resolve]
  induction vs with
  | nil => rfl
  | cons f fs ih =>
      cases hw : waive? m ws f with
      | none =>
          rw [List.filter_cons_of_pos (by simp [hw]), List.filterMap_cons_none hw, List.map_cons,
            List.map_cons, hu f hw]
          exact ih.cons (u f)
      | some w =>
          rw [List.filter_cons_of_neg (by simp [hw]), List.filterMap_cons_some hw, List.map_cons,
            List.map_cons, hv f w hw]
          exact List.perm_middle.trans (ih.cons (v w))

theorem perm_findings (m : Matcher) (vs : List Finding) (ws : List NamedWaiver) :
    ((resolve m vs ws).unwaived ++ (resolve m vs ws).waived.map WaivedFinding.finding).Perm vs := by
  have h : (((resolve m vs ws).unwaived.map id) ++
      (resolve m vs ws).waived.map WaivedFinding.finding).Perm (vs.map id) :=
    perm_resolve (fun _ _ => rfl) (fun _ _ hw => (finding_of_waive? hw).symm)
  simpa only [List.map_id] using h

theorem mem_unwaived : f ∈ (resolve m vs ws).unwaived ↔ f ∈ vs ∧ Uncovered m ws f.identifier := by
  simp [resolve, waive?_eq_none_iff]

theorem mem_waived {v : WaivedFinding} :
    v ∈ (resolve m vs ws).waived ↔
      v.finding ∈ vs ∧ ∃ w, NamedWaiver.FirstCover m v.finding.identifier w ws ∧
        v.waiver = w.name ∧ v.reason = w.reason := by
  simp only [resolve, List.mem_filterMap, waive?_eq_some_iff]
  constructor
  · rintro ⟨f, hf, w, hw, rfl⟩
    exact ⟨hf, w, hw, rfl, rfl⟩
  · rintro ⟨hf, w, hw, hname, hreason⟩
    exact ⟨v.finding, hf, w, hw, by rw [← hname, ← hreason]⟩

end WaiverOutcome

end Signoff

/-
# `Signoff.Proofs.FirstMatch` — waiver resolution is the first-match partition

What resolution should come to can be said without a search.  The violations are shared out between
two lists that merge back to them; a violation is waived by the waiver at the smallest position that
covers its name, and left if there is none; and a waiver goes unused if its position is the smallest
for no violation (`FirstMatchPartition`).  Nothing is assumed of the matcher: names may repeat, a
waiver may be hidden by another, and covering need not be transitive.

These properties leave one outcome, and resolution comes to it (`resolve_partition`).  Two facts
carry this.  A list that merges from what passes a test and what fails it determines both parts
(`Merged.eq_filter`), so violations that repeat cannot be exchanged; and positions, unlike waivers,
are distinct, so the unused ones are determined as a sublist (`eq_filter_of_sublist`).
-/
import Signoff.Proofs.StaleWaivers

namespace Signoff

/-! ## Lists that merge -/

/-- The third list has the elements of the first two and keeps the order of both. -/
inductive Merged {α : Type} : List α → List α → List α → Prop
  | nil : Merged [] [] []
  | left {x : α} {xs ys zs : List α} : Merged xs ys zs → Merged (x :: xs) ys (x :: zs)
  | right {y : α} {xs ys zs : List α} : Merged xs ys zs → Merged xs (y :: ys) (y :: zs)

namespace Merged

variable {α : Type} {xs ys zs : List α}

theorem filter (p : α → Bool) (zs : List α) :
    Merged (zs.filter p) (zs.filter fun z => !p z) zs := by
  induction zs with
  | nil => exact .nil
  | cons z zs ih =>
      cases hz : p z with
      | true =>
          rw [List.filter_cons_of_pos hz, List.filter_cons_of_neg (by simp [hz])]
          exact .left ih
      | false =>
          rw [List.filter_cons_of_neg (by simp [hz]), List.filter_cons_of_pos (by simp [hz])]
          exact .right ih

theorem eq_filter {p : α → Bool} (h : Merged xs ys zs) :
    (∀ x ∈ xs, p x = true) → (∀ y ∈ ys, p y = false) →
      xs = zs.filter p ∧ ys = zs.filter fun z => !p z := by
  induction h with
  | nil => exact fun _ _ => ⟨rfl, rfl⟩
  | @left x xs ys zs _ ih =>
      intro hxs hys
      have hx := hxs x List.mem_cons_self
      obtain ⟨hleft, hright⟩ := ih (fun z hz => hxs z (List.mem_cons_of_mem x hz)) hys
      rw [List.filter_cons_of_pos hx, List.filter_cons_of_neg (by simp [hx]), ← hleft, ← hright]
      exact ⟨rfl, rfl⟩
  | @right y xs ys zs _ ih =>
      intro hxs hys
      have hy := hys y List.mem_cons_self
      obtain ⟨hleft, hright⟩ := ih hxs fun z hz => hys z (List.mem_cons_of_mem y hz)
      rw [List.filter_cons_of_neg (by simp [hy]), List.filter_cons_of_pos (by simp [hy]), ← hleft,
        ← hright]
      exact ⟨rfl, rfl⟩

end Merged

theorem eq_filter_of_sublist {α : Type} {p : α → Bool} {xs ys : List α} (h : xs.Sublist ys) :
    ys.Nodup → (∀ y ∈ ys, y ∈ xs ↔ p y = true) → xs = ys.filter p := by
  induction h with
  | slnil => exact fun _ _ => rfl
  | @cons xs ys y hsub ih =>
      intro hnodup hmem
      obtain ⟨hy, hnodup⟩ := List.nodup_cons.mp hnodup
      have hskip : ¬ p y = true := by
        rw [← hmem y List.mem_cons_self]
        exact fun hxs => hy (hsub.subset hxs)
      rw [List.filter_cons_of_neg hskip]
      exact ih hnodup fun z hz => hmem z (List.mem_cons_of_mem y hz)
  | @cons_cons xs ys y hsub ih =>
      intro hnodup hmem
      obtain ⟨hy, hnodup⟩ := List.nodup_cons.mp hnodup
      have hkeep : p y = true := (hmem y List.mem_cons_self).mp List.mem_cons_self
      rw [List.filter_cons_of_pos hkeep]
      congr 1
      refine ih hnodup fun z hz => ?_
      rw [← hmem z (List.mem_cons_of_mem y hz), List.mem_cons, or_iff_right]
      rintro rfl
      exact hy hz

/-! ## The first waiver that covers a name -/

/-- The waiver stands at the position and covers the name, and none before it does. -/
structure FirstAt (m : Matcher) (ws : List NamedWaiver) (name : String) (i : Nat)
    (w : NamedWaiver) : Prop where
  stands : ws[i]? = some w
  covers : m name w.name = true
  first : ∀ j < i, ∀ w', ws[j]? = some w' → m name w'.name = false

/-- Some violation has its first waiver at the position. -/
def UsedAt (m : Matcher) (vs : List Finding) (ws : List NamedWaiver) (i : Nat) : Prop :=
  ∃ f ∈ vs, ∃ w, FirstAt m ws f.identifier i w

section FirstAt

variable {m : Matcher} {vs : List Finding} {ws : List NamedWaiver} {name : String} {i : Nat}
  {w : NamedWaiver} {f : Finding}

theorem findIdx?_eq_some_iff :
    ws.findIdx? (fun w => m name w.name) = some i ↔ ∃ w, FirstAt m ws name i w := by
  rw [List.findIdx?_eq_some_iff_getElem]
  constructor
  · rintro ⟨hi, hcovers, hbefore⟩
    refine ⟨ws[i], List.getElem?_eq_getElem hi, hcovers, ?_⟩
    intro j hj w' hw'
    obtain ⟨hlt, rfl⟩ := List.getElem?_eq_some_iff.mp hw'
    simpa using hbefore j hj
  · rintro ⟨w, hstands, hcovers, hfirst⟩
    obtain ⟨hi, rfl⟩ := List.getElem?_eq_some_iff.mp hstands
    refine ⟨hi, hcovers, ?_⟩
    intro j hj
    rw [hfirst j hj _ (List.getElem?_eq_getElem (Nat.lt_trans hj hi))]
    exact Bool.false_ne_true

theorem firstCover_iff : NamedWaiver.FirstCover m name w ws ↔ ∃ i, FirstAt m ws name i w := by
  rw [NamedWaiver.FirstCover, ← find?_eq_some_iff_isFirst, List.find?_eq_bind_findIdx?_getElem?,
    Option.bind_eq_some_iff]
  refine exists_congr fun i => ?_
  rw [findIdx?_eq_some_iff]
  constructor
  · rintro ⟨⟨w', hfirst⟩, hstands⟩
    obtain rfl := Option.some.inj (hfirst.stands.symm.trans hstands)
    exact hfirst
  · intro hfirst
    exact ⟨⟨w, hfirst⟩, hfirst.stands⟩

theorem exists_firstAt_iff :
    (∃ i w, FirstAt m ws name i w) ↔ ∃ w ∈ ws, m name w.name = true := by
  rw [exists_comm]
  simp only [← firstCover_iff]
  exact exists_isFirst_iff

namespace WaiverOutcome

theorem firstMatch?_eq_some_iff :
    firstMatch? m ws f = some i ↔ ∃ w, FirstAt m ws f.identifier i w :=
  findIdx?_eq_some_iff

theorem mem_usedPositions : i ∈ usedPositions m vs ws ↔ UsedAt m vs ws i := by
  simp only [usedPositions, List.mem_filterMap, firstMatch?_eq_some_iff, UsedAt]

theorem waive?_eq_some_iff_firstAt {v : WaivedFinding} :
    waive? m ws f = some v ↔
      v.finding = f ∧ ∃ i w, FirstAt m ws f.identifier i w ∧
        v.waiver = w.name ∧ v.reason = w.reason := by
  rw [waive?_eq_some_iff]
  simp only [firstCover_iff]
  constructor
  · rintro ⟨w, ⟨i, hfirst⟩, rfl⟩
    exact ⟨rfl, i, w, hfirst, rfl, rfl⟩
  · rintro ⟨rfl, i, w, hfirst, hname, hreason⟩
    exact ⟨w, ⟨i, hfirst⟩, by rw [← hname, ← hreason]⟩

end WaiverOutcome

end FirstAt

/-! ## The partition -/

/-- What resolution should come to. -/
structure FirstMatchPartition (m : Matcher) (vs : List Finding) (ws : List NamedWaiver)
    (o : WaiverOutcome) : Prop where
  /-- No violation is lost, added or moved. -/
  merged : Merged (o.waived.map WaivedFinding.finding) o.unwaived vs
  /-- What is waived names the first waiver that covers it. -/
  waived : ∀ v ∈ o.waived, ∃ i w, FirstAt m ws v.finding.identifier i w ∧
    v.waiver = w.name ∧ v.reason = w.reason
  unwaived : ∀ f ∈ o.unwaived, Uncovered m ws f.identifier
  /-- What is unused stands at the positions that are first for no violation. -/
  unused : ∃ left : List (NamedWaiver × Nat), left.Sublist ws.zipIdx ∧
    left.map Prod.fst = o.unused ∧ ∀ x ∈ ws.zipIdx, x ∈ left ↔ ¬ UsedAt m vs ws x.2

theorem nodup_zipIdx {α : Type} (xs : List α) : xs.zipIdx.Nodup := by
  refine List.Nodup.of_map Prod.snd ?_
  rw [List.zipIdx_map_snd]
  exact List.nodup_range'

namespace WaiverOutcome

variable {m : Matcher} {vs : List Finding} {ws : List NamedWaiver}

theorem unwaived_eq_filter :
    (resolve m vs ws).unwaived = vs.filter fun f => !(waive? m ws f).isSome := by
  simp only [resolve, Option.not_isSome]

theorem not_contains_usedPositions {i : Nat} :
    (!(usedPositions m vs ws).contains i) = true ↔ ¬ UsedAt m vs ws i := by
  rw [Bool.not_eq_true', ← Bool.not_eq_true, List.contains_iff_mem, mem_usedPositions]

theorem partition_resolve (m : Matcher) (vs : List Finding) (ws : List NamedWaiver) :
    FirstMatchPartition m vs ws (resolve m vs ws) where
  merged := by
    rw [findings_waived, unwaived_eq_filter]
    exact .filter _ vs
  waived v hv := by
    obtain ⟨f, -, hf⟩ := List.mem_filterMap.mp hv
    obtain ⟨rfl, hfirst⟩ := waive?_eq_some_iff_firstAt.mp hf
    exact hfirst
  unwaived f hf := (mem_unwaived.mp hf).2
  unused := by
    refine ⟨_, List.filter_sublist, rfl, ?_⟩
    intro x hx
    rw [List.mem_filter, and_iff_right hx, not_contains_usedPositions]

/-- The properties leave one outcome. -/
theorem eq_resolve_of_partition {o : WaiverOutcome} (h : FirstMatchPartition m vs ws o) :
    o = resolve m vs ws := by
  -- the two lists are told apart by whether a waiver covers the violation
  have hsome : ∀ f ∈ o.waived.map WaivedFinding.finding, (waive? m ws f).isSome = true := by
    intro f hf
    obtain ⟨v, hv, rfl⟩ := List.mem_map.mp hf
    rw [Option.isSome_iff_exists]
    exact ⟨v, waive?_eq_some_iff_firstAt.mpr ⟨rfl, h.waived v hv⟩⟩
  have hnone : ∀ f ∈ o.unwaived, (waive? m ws f).isSome = false := by
    intro f hf
    rw [waive?_eq_none_iff.mpr (h.unwaived f hf)]
    rfl
  obtain ⟨hfindings, hunwaived⟩ := h.merged.eq_filter hsome hnone
  have hself : ∀ v ∈ o.waived, waive? m ws v.finding = some v := fun v hv =>
    waive?_eq_some_iff_firstAt.mpr ⟨rfl, h.waived v hv⟩
  have hwaived : o.waived = (resolve m vs ws).waived := by
    calc o.waived
        = (o.waived.map WaivedFinding.finding).filterMap (waive? m ws) := by
          rw [List.filterMap_map]
          exact ((List.filterMap_congr hself).trans List.filterMap_some).symm
      _ = (vs.filter fun f => (waive? m ws f).isSome).filterMap (waive? m ws) := by
          rw [hfindings]
      _ = vs.filterMap (waive? m ws) := by
          rw [List.filterMap_filter]
          refine List.filterMap_congr fun f _ => ?_
          cases waive? m ws f <;> rfl
  have hunused : o.unused = (resolve m vs ws).unused := by
    obtain ⟨left, hsub, hleft, hmem⟩ := h.unused
    rw [← hleft]
    refine congrArg (List.map Prod.fst) (eq_filter_of_sublist hsub (nodup_zipIdx ws) ?_)
    intro x hx
    rw [hmem x hx, not_contains_usedPositions]
  rw [← unwaived_eq_filter] at hunwaived
  calc o
      = ⟨o.waived, o.unwaived, o.unused⟩ := rfl
    _ = resolve m vs ws := by rw [hwaived, hunwaived, hunused]

theorem usedPositions_eq_nil_iff : usedPositions m vs ws = [] ↔ (resolve m vs ws).waived = [] := by
  rw [usedPositions, List.filterMap_eq_nil_iff]
  show _ ↔ vs.filterMap (waive? m ws) = []
  rw [List.filterMap_eq_nil_iff]
  refine forall₂_congr fun f _ => ?_
  rw [firstMatch?, waive?, List.findIdx?_eq_none_iff, Option.map_eq_none_iff, List.find?_eq_none]
  simp only [Bool.not_eq_true]

theorem unused_eq_self_iff : (resolve m vs ws).unused = ws ↔ (resolve m vs ws).waived = [] := by
  rw [← usedPositions_eq_nil_iff]
  constructor
  · intro h
    -- as many are left as there are positions, so no position was dropped
    have hall : ∀ x ∈ ws.zipIdx, ¬ UsedAt m vs ws x.2 := by
      have hlength := congrArg List.length h
      simp only [resolve, unusedWaivers, List.length_map] at hlength
      rw [← List.length_zipIdx (l := ws) (i := 0), List.length_filter_eq_length_iff] at hlength
      exact fun x hx => not_contains_usedPositions.mp (hlength x hx)
    refine List.eq_nil_iff_forall_not_mem.mpr fun i hi => ?_
    obtain ⟨f, hf, w, hfirst⟩ := mem_usedPositions.mp hi
    exact hall (w, i) (List.mem_zipIdx_iff_getElem?.mpr hfirst.stands) ⟨f, hf, w, hfirst⟩
  · intro h
    simp only [resolve, unusedWaivers, h, List.contains_nil, Bool.not_false, List.filter_true]
    exact List.zipIdx_map_fst 0 ws

/-- A violation that an unused waiver covers is waived by a used one before it. -/
theorem waived_before_of_unused {i : Nat} {w : NamedWaiver} {f : Finding} (hw : ws[i]? = some w)
    (hunused : ¬ UsedAt m vs ws i) (hf : f ∈ vs) (hcovers : m f.identifier w.name = true) :
    ∃ j < i, UsedAt m vs ws j ∧ ∃ w', FirstAt m ws f.identifier j w' ∧
      ⟨f, w'.name, w'.reason⟩ ∈ (resolve m vs ws).waived := by
  obtain ⟨j, w', hfirst⟩ := exists_firstAt_iff.mpr ⟨w, List.mem_of_getElem? hw, hcovers⟩
  have hlt : j < i := by
    rcases Nat.lt_trichotomy j i with hlt | rfl | hgt
    · exact hlt
    · exact absurd ⟨f, hf, w', hfirst⟩ hunused
    · rw [hfirst.first i hgt w hw] at hcovers
      exact Bool.noConfusion hcovers
  refine ⟨j, hlt, ⟨f, hf, w', hfirst⟩, w', hfirst, ?_⟩
  refine List.mem_filterMap.mpr ⟨f, hf, ?_⟩
  exact waive?_eq_some_iff_firstAt.mpr ⟨rfl, j, w', hfirst, rfl, rfl⟩

/-- **First match.**  Resolution comes to the first-match partition and to nothing else.  So a
violation is waived if and only if a waiver covers it, a violation that an unused waiver covers is
waived by a used one before it, and no waiver is used if and only if nothing is waived. -/
theorem resolve_partition (m : Matcher) (vs : List Finding) (ws : List NamedWaiver) :
    (∀ o, FirstMatchPartition m vs ws o ↔ o = resolve m vs ws) ∧
      (∀ f ∈ vs, f ∈ (resolve m vs ws).waived.map WaivedFinding.finding ↔
        ∃ w ∈ ws, m f.identifier w.name = true) ∧
      (∀ i w, ws[i]? = some w → ¬ UsedAt m vs ws i →
        ∀ f ∈ vs, m f.identifier w.name = true →
          ∃ j < i, UsedAt m vs ws j ∧ ∃ w', FirstAt m ws f.identifier j w' ∧
            ⟨f, w'.name, w'.reason⟩ ∈ (resolve m vs ws).waived) ∧
      ((resolve m vs ws).unused = ws ↔ (resolve m vs ws).waived = []) := by
  refine ⟨?_, ?_, ?_, unused_eq_self_iff⟩
  · intro o
    constructor
    · exact eq_resolve_of_partition
    · rintro rfl
      exact partition_resolve m vs ws
  · intro f hf
    rw [findings_waived, List.mem_filter, and_iff_right hf, ← exists_firstAt_iff,
      Option.isSome_iff_exists]
    simp only [waive?_eq_some_iff_firstAt]
    constructor
    · rintro ⟨v, -, i, w, hfirst, -, -⟩
      exact ⟨i, w, hfirst⟩
    · rintro ⟨i, w, hfirst⟩
      exact ⟨⟨f, w.name, w.reason⟩, rfl, i, w, hfirst, rfl, rfl⟩
  · intro i w hw hunused f hf hcovers
    exact waived_before_of_unused hw hunused hf hcovers

end WaiverOutcome

end Signoff

/-
# `Signoff.Proofs.StaleWaivers` — deleting waivers that nothing uses

A waiver is unused if it is the first match of no violation.  Deleting such a waiver moves the
positions of those behind it, and a waiver that it hid could come first instead; but what it hid was
hidden from no violation.  So any choice of unused waivers can be deleted, and nothing else changes
(`resolve_without`).

The proof reads resolution as a sieve.  The first waiver takes the violations that it covers, the
rest of the list sees only the others (`unused_cons`), and a position of the rest is used by these
exactly if the position after it is used in the whole list (`contains_usedPositions_succ`).
-/
import Signoff.Proofs.WaiverLists

namespace Signoff

/-- The elements whose position is not deleted. -/
def without {α : Type} (deleted : Nat → Bool) (xs : List α) : List α :=
  (xs.zipIdx.filter fun x => !deleted x.2).map Prod.fst

section Without

variable {α : Type} {deleted : Nat → Bool}

theorem without_cons (deleted : Nat → Bool) (x : α) (xs : List α) :
    without deleted (x :: xs) =
      if deleted 0 then without (fun i => deleted (i + 1)) xs
      else x :: without (fun i => deleted (i + 1)) xs := by
  have hrest : ((xs.zipIdx (0 + 1)).filter fun y => !deleted y.2).map Prod.fst =
      without (fun i => deleted (i + 1)) xs := by
    rw [List.zipIdx_succ, List.filter_map, List.map_map]
    rfl
  rw [without, List.zipIdx_cons]
  cases h : deleted 0 with
  | true =>
      rw [List.filter_cons_of_neg (by simp [h]), hrest]
      rfl
  | false =>
      rw [List.filter_cons_of_pos (by simp [h]), List.map_cons, hrest]
      rfl

theorem without_eq_nil {xs : List α} (h : ∀ i < xs.length, deleted i = true) :
    without deleted xs = [] := by
  rw [without, List.map_eq_nil_iff, List.filter_eq_nil_iff]
  intro x hx
  have hlt := (List.mem_zipIdx hx).2.1
  simp [h x.2 (by omega)]

end Without

namespace WaiverOutcome

variable {m : Matcher} {vs : List Finding} {w : NamedWaiver} {ws : List NamedWaiver} {f : Finding}
  {deleted : Nat → Bool}

/-! ## The first waiver and the rest -/

theorem firstMatch?_cons :
    firstMatch? m (w :: ws) f =
      if m f.identifier w.name then some 0 else (firstMatch? m ws f).map (· + 1) :=
  List.findIdx?_cons

theorem waive?_cons :
    waive? m (w :: ws) f =
      if m f.identifier w.name then some ⟨f, w.name, w.reason⟩ else waive? m ws f := by
  rw [waive?, waive?, List.find?_cons]
  cases m f.identifier w.name <;> rfl

/-- The violations that the first waiver leaves to the others. -/
def passOn (m : Matcher) (w : NamedWaiver) (vs : List Finding) : List Finding :=
  vs.filter fun f => !m f.identifier w.name

theorem contains_usedPositions_zero :
    (usedPositions m vs (w :: ws)).contains 0 = vs.any fun f => m f.identifier w.name := by
  rw [contains_usedPositions]
  congr 1
  funext f
  rw [firstMatch?_cons]
  cases m f.identifier w.name with
  | true => rfl
  | false => cases firstMatch? m ws f <;> rfl

theorem contains_usedPositions_succ {i : Nat} :
    (usedPositions m vs (w :: ws)).contains (i + 1) =
      (usedPositions m (passOn m w vs) ws).contains i := by
  rw [contains_usedPositions, contains_usedPositions, passOn, List.any_filter]
  congr 1
  funext f
  rw [firstMatch?_cons]
  cases m f.identifier w.name with
  | true => rfl
  | false =>
      cases firstMatch? m ws f with
      | none => rfl
      | some j => simp

/-- The first waiver is unused if it covers nothing; the others see what it leaves to them. -/
theorem unused_cons :
    (resolve m vs (w :: ws)).unused =
      if vs.any fun f => m f.identifier w.name then (resolve m (passOn m w vs) ws).unused
      else w :: (resolve m (passOn m w vs) ws).unused := by
  have hsieve : (fun i => (usedPositions m vs (w :: ws)).contains (i + 1)) =
      fun i => (usedPositions m (passOn m w vs) ws).contains i :=
    funext fun _ => contains_usedPositions_succ
  have hcons := without_cons (usedPositions m vs (w :: ws)).contains w ws
  rw [contains_usedPositions_zero, hsieve] at hcons
  exact hcons

/-! ## Deleting -/

theorem waive?_without (h : ∀ i, firstMatch? m ws f = some i → deleted i = false) :
    waive? m (without deleted ws) f = waive? m ws f := by
  induction ws generalizing deleted with
  | nil => rfl
  | cons w ws ih =>
      rw [without_cons, waive?_cons]
      cases hw : m f.identifier w.name with
      | true =>
          have hkept : deleted 0 = false := h 0 (by rw [firstMatch?_cons, if_pos hw])
          rw [if_neg (by simp [hkept]), waive?_cons, hw, if_pos rfl, if_pos rfl]
      | false =>
          have hrest : waive? m (without (fun i => deleted (i + 1)) ws) f = waive? m ws f := by
            refine ih fun i hi => h (i + 1) ?_
            rw [firstMatch?_cons, hw, hi]
            rfl
          -- whether the first waiver is deleted or not, the search passes it over
          split
          · exact hrest
          · rw [waive?_cons, hw]
            exact hrest

/-- What is left unused is what was unused and is not deleted. -/
theorem unused_without (h : ∀ i ∈ usedPositions m vs ws, deleted i = false) :
    (resolve m vs (without deleted ws)).unused =
      without (fun i => deleted i || (usedPositions m vs ws).contains i) ws := by
  induction ws generalizing vs deleted with
  | nil => rfl
  | cons w ws ih =>
      have hused : ∀ i, (usedPositions m vs (w :: ws)).contains i = true → deleted i = false :=
        fun i hi => h i (List.contains_iff_mem.mp hi)
      have hrest : (resolve m (passOn m w vs) (without (fun i => deleted (i + 1)) ws)).unused =
          without (fun i => deleted (i + 1) || (usedPositions m (passOn m w vs) ws).contains i)
            ws := by
        refine ih fun i hi => hused (i + 1) ?_
        rw [contains_usedPositions_succ]
        exact List.contains_iff_mem.mpr hi
      rw [without_cons, without_cons, contains_usedPositions_zero]
      simp only [contains_usedPositions_succ]
      cases hany : vs.any fun f => m f.identifier w.name with
      | true =>
          have hkept : deleted 0 = false := hused 0 (by rw [contains_usedPositions_zero, hany])
          rw [if_neg (by simp [hkept]), if_pos (by simp), unused_cons, if_pos hany]
          exact hrest
      | false =>
          cases hdeleted : deleted 0 with
          | true =>
              -- the deleted waiver covers nothing, so the others see what they saw
              have hall : passOn m w vs = vs := by
                refine List.filter_eq_self.mpr fun f hf => ?_
                have hf := List.any_eq_false.mp hany f hf
                simpa using hf
              rw [hall] at hrest ⊢
              exact hrest
          | false =>
              rw [if_neg (by simp), if_neg (by simp), unused_cons, if_neg (by simp [hany]), hrest]

/-- **Stale waivers.**  Let any positions be deleted from a list of waivers of which none is used.
Then the same violations are waived, by the same waivers and for the same reasons, the same are
left, and unused are exactly the waivers that were unused before and are not deleted.  If all unused
ones are deleted, none is left. -/
theorem resolve_without (h : ∀ i ∈ usedPositions m vs ws, deleted i = false) :
    (resolve m vs (without deleted ws)).waived = (resolve m vs ws).waived ∧
      (resolve m vs (without deleted ws)).unwaived = (resolve m vs ws).unwaived ∧
      (resolve m vs (without deleted ws)).unused =
        without (fun i => deleted i || (usedPositions m vs ws).contains i) ws ∧
      ((∀ i < ws.length, i ∉ usedPositions m vs ws → deleted i = true) →
        (resolve m vs (without deleted ws)).unused = []) := by
  have hwaive : ∀ f ∈ vs, waive? m (without deleted ws) f = waive? m ws f := fun f hf =>
    waive?_without fun i hi => h i (List.mem_filterMap.mpr ⟨f, hf, hi⟩)
  refine ⟨?_, ?_, unused_without h, ?_⟩
  · exact List.filterMap_congr hwaive
  · refine List.filter_congr fun f hf => ?_
    rw [hwaive f hf]
  · intro hall
    rw [unused_without h]
    refine without_eq_nil fun i hi => ?_
    rw [Bool.or_eq_true, List.contains_iff_mem]
    by_cases hused : i ∈ usedPositions m vs ws
    · exact .inr hused
    · exact .inl (hall i hi hused)

/-- The second waiver has the name of the first, the third is hidden by both, the last covers
nothing.  Without the second and the last, the third is still hidden. -/
theorem resolve_without_hidden :
    let vs : List Finding := [⟨"u_core/r1", some 4, none, ""⟩, ⟨"u_io/r2", none, none, ""⟩]
    let ws : List NamedWaiver :=
      [⟨"u_core", "legacy"⟩, ⟨"u_core", "again"⟩, ⟨"u_core/r1", "one"⟩, ⟨"old", ""⟩]
    let deleted : Nat → Bool := [1, 3].contains
    without deleted ws = [⟨"u_core", "legacy"⟩, ⟨"u_core/r1", "one"⟩] ∧
      (resolve Matcher.beginning vs (without deleted ws)).waived =
        [⟨⟨"u_core/r1", some 4, none, ""⟩, "u_core", "legacy"⟩] ∧
      (resolve Matcher.beginning vs (without deleted ws)).unused = [⟨"u_core/r1", "one"⟩] := by
  intro vs ws deleted
  have hused : ∀ i ∈ usedPositions Matcher.beginning vs ws, deleted i = false := by decide
  obtain ⟨hwaived, -, hunused, -⟩ := resolve_without hused
  rw [hwaived, hunused]
  decide

end WaiverOutcome

end Signoff

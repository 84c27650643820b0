/-
# `Signoff.Proofs.ViewHierarchy` — views lie below one another

A waiver that names a view covers the view and what is written below it, behind the separator.  Put
the separator behind both names, and the two cases become one: the violation is covered exactly if
it now starts with the waiver (`view_iff_closed`).  So the names are ordered as the beginnings of
texts are.  In particular the views above one name form a chain, and a waiver for a view below
another waived view has nothing left to waive.
-/
import Mathlib.Data.List.Infix
import Signoff.Proofs.WaiverLists

namespace Signoff

namespace Matcher

variable {c : Char} {v w x : String}

/-! ## Names, closed by the separator -/

theorem remainder?_eq_some_iff {cs ds rest : List Char} :
    remainder? cs ds = some rest ↔ ds = cs ++ rest := by
  induction cs, ds using remainder?.induct with
  | case1 ds => rw [remainder?, List.nil_append, Option.some.injEq]
  | case2 c cs => simp [remainder?]
  | case3 c cs ds ih =>
      rw [remainder?, if_pos rfl, ih, List.cons_append, List.cons.injEq, and_iff_right rfl]
  | case4 c cs d ds hne =>
      rw [remainder?, if_neg hne, List.cons_append, List.cons.injEq]
      exact iff_of_false nofun fun h => hne h.1.symm

theorem view_iff : view c v w = true ↔ v = w ∨ ∃ rest, v.toList = w.toList ++ c :: rest := by
  simp only [view, Bool.or_eq_true, beq_iff_eq]
  refine or_congr_right ?_
  constructor
  · intro h
    split at h
    · next d rest hrest =>
        obtain rfl : d = c := by simpa using h
        exact ⟨rest, remainder?_eq_some_iff.mp hrest⟩
    · cases h
  · rintro ⟨rest, hrest⟩
    rw [remainder?_eq_some_iff.mpr hrest]
    exact beq_self_eq_true c

/-- Of names that are closed by the separator, the waiver is a beginning of the violation. -/
theorem view_iff_closed : view c v w = true ↔ w.toList ++ [c] <+: v.toList ++ [c] := by
  rw [view_iff, List.prefix_concat_iff, List.append_left_inj, ← String.toList_inj, eq_comm]
  refine or_congr_right ?_
  constructor
  · rintro ⟨rest, h⟩
    exact ⟨rest, by rw [h, List.append_assoc, List.singleton_append]⟩
  · rintro ⟨rest, h⟩
    exact ⟨rest, by rw [← h, List.append_assoc, List.singleton_append]⟩

/-! ## The order of the views -/

theorem view_refl (c : Char) (v : String) : view c v v = true :=
  view_iff_closed.mpr List.prefix_rfl

theorem view_antisymm (h : view c v w = true) (h' : view c w v = true) : v = w := by
  have hclosed : w.toList ++ [c] = v.toList ++ [c] :=
    (view_iff_closed.mp h).eq_of_length_le (view_iff_closed.mp h').length_le
  exact (String.toList_inj.mp (List.append_cancel_right hclosed)).symm

theorem view_trans (h : view c v w = true) (h' : view c w x = true) : view c v x = true :=
  view_iff_closed.mpr ((view_iff_closed.mp h').trans (view_iff_closed.mp h))

theorem view_chain (h : view c v w = true) (h' : view c v x = true) :
    view c w x = true ∨ view c x w = true :=
  (List.prefix_or_prefix_of_prefix (view_iff_closed.mp h') (view_iff_closed.mp h)).imp
    view_iff_closed.mpr view_iff_closed.mpr

end Matcher

/-! ## Waivers below waivers -/

namespace WaiverOutcome

variable {m : Matcher} {before after : List NamedWaiver} {e : NamedWaiver}

theorem uncovered_insert {name : String} :
    Uncovered m (before ++ e :: after) name ↔
      m name e.name = false ∧ Uncovered m (before ++ after) name := by
  simp only [Uncovered, List.perm_middle.mem_iff, List.forall_mem_cons]

/-- A waiver that lies below another one waives nothing that is not waived without it. -/
theorem resolve_insert_of_covered
    (htrans : ∀ v w x, m v w = true → m w x = true → m v x = true)
    (he : ∃ w ∈ before ++ after, m e.name w.name = true) (vs : List Finding) :
    (resolve m vs (before ++ e :: after)).waived.map WaivedFinding.finding =
        (resolve m vs (before ++ after)).waived.map WaivedFinding.finding ∧
      (resolve m vs (before ++ e :: after)).unwaived =
        (resolve m vs (before ++ after)).unwaived := by
  refine resolve_congr (fun name => ?_) vs
  rw [uncovered_insert, and_iff_right_iff_imp]
  intro hrest
  obtain ⟨w, hw, habove⟩ := he
  refine Bool.eq_false_iff.mpr fun hcover => ?_
  exact Bool.eq_false_iff.mp (hrest w hw) (htrans _ _ _ hcover habove)

end WaiverOutcome

/-- **Views form a hierarchy.**  A view waiver covers its own name and whatever starts with that
name and the separator.  This is a partial order on names in which the waivers above one name form a
chain, whatever the separator is and however often it occurs in the names.  So a waiver that another
one covers may be put anywhere into the list, and the same violations are waived, the same left. -/
theorem Matcher.view_hierarchy (c : Char) :
    (∀ v w, view c v w = true ↔ v = w ∨ ∃ rest, v.toList = w.toList ++ c :: rest) ∧
    (∀ v, view c v v = true) ∧
    (∀ v w, view c v w = true → view c w v = true → v = w) ∧
    (∀ v w x, view c v w = true → view c w x = true → view c v x = true) ∧
    (∀ v w x, view c v w = true → view c v x = true → view c w x = true ∨ view c x w = true) ∧
    ∀ (vs : List Finding) (before after : List NamedWaiver) (e : NamedWaiver),
      (∃ w ∈ before ++ after, view c e.name w.name = true) →
        (WaiverOutcome.resolve (view c) vs (before ++ e :: after)).waived.map
            WaivedFinding.finding =
          (WaiverOutcome.resolve (view c) vs (before ++ after)).waived.map
            WaivedFinding.finding ∧
        (WaiverOutcome.resolve (view c) vs (before ++ e :: after)).unwaived =
          (WaiverOutcome.resolve (view c) vs (before ++ after)).unwaived := by
  have htrans : ∀ v w x, view c v w = true → view c w x = true → view c v x = true :=
    fun _ _ _ => view_trans
  refine ⟨fun _ _ => view_iff, view_refl c, fun _ _ => view_antisymm, htrans,
    fun _ _ _ => view_chain, fun vs before after e he => ?_⟩
  exact WaiverOutcome.resolve_insert_of_covered htrans he vs

/-- With `lvs` waived, a waiver for `lvs/net` below it changes nothing, also if it is put first: the
views above `lvs/net/x` lie one below the other. -/
theorem Matcher.view_hierarchy_lvs :
    let vs : List Finding := [⟨"lvs/net/x", none, none, ""⟩, ⟨"lvs2", none, none, ""⟩]
    let above : NamedWaiver := ⟨"lvs", "old"⟩
    let below : NamedWaiver := ⟨"lvs/net", "known"⟩
    view '/' "lvs/net/x" above.name = true ∧
    (view '/' above.name below.name = true ∨ view '/' below.name above.name = true) ∧
    (WaiverOutcome.resolve (view '/') vs [below, above]).waived.map WaivedFinding.finding =
      (WaiverOutcome.resolve (view '/') vs [above]).waived.map WaivedFinding.finding ∧
    (WaiverOutcome.resolve (view '/') vs [below, above]).unwaived =
      (WaiverOutcome.resolve (view '/') vs [above]).unwaived := by
  intro vs above below
  obtain ⟨-, -, -, htrans, hchain, hinsert⟩ := view_hierarchy '/'
  have hnet : view '/' "lvs/net/x" below.name = true := by decide
  have hlvs : view '/' below.name above.name = true := by decide
  have hx := htrans "lvs/net/x" below.name above.name hnet hlvs
  refine ⟨hx, hchain "lvs/net/x" above.name below.name hx hnet, ?_⟩
  exact hinsert vs [] [above] below ⟨above, List.mem_cons_self, hlvs⟩

end Signoff

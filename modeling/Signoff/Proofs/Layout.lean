/-
# `Signoff.Proofs.Layout` — how a result is laid out, and what an accepted result is

`CheckResult.checked` walks the groups of a result and stops at the first fault.  `Consistent` says
the same without a walk: labels are distinct, every group lists the names of its items in their
order and has their severity, every item has a group, and groups of errors go with a FAIL.  A result
is accepted exactly if it is consistent, and it is accepted as it stands (`checked_eq_ok_iff`).

Whatever a builder holds, the labels of its layout are distinct: a label spells a severity and a
number, and the groups of a severity are numbered one after the other.  So an item is found again by
the label of its group alone (`detailsIn_finish`), one group can be set aside by its label
(`perm_entries_ne`), and the parts of a result that was laid out agree as soon as its status agrees
with its groups of errors (`consistent_finish`).  No item is lost or changed on the way
(`perm_entries_finish`).
-/
import Signoff.Proofs.Firsts
import Signoff.Result

namespace Signoff

/-! ## Accepted results -/

namespace CheckResult

/-- The parts of the result agree. -/
structure Consistent (r : CheckResult) : Prop where
  nodup_labels : (r.groups.map ResultGroup.label).Nodup
  names_eq : ∀ g ∈ r.groups, (r.detailsIn g.label).map DetailItem.name = g.items
  severity_eq : ∀ g ∈ r.groups, ∀ d ∈ r.detailsIn g.label, d.severity = g.severity
  exists_group : ∀ d ∈ r.details, ∃ g ∈ r.groups, g.label = d.group
  status_iff : (∃ g ∈ r.groups, g.severity = .error) ↔ r.status = .fail

variable {r : CheckResult}

theorem groupFault?_eq_none_iff {before : List String} {g : ResultGroup} :
    r.groupFault? before g = none ↔
      g.label ∉ before ∧ (r.detailsIn g.label).map DetailItem.name = g.items ∧
        ∀ d ∈ r.detailsIn g.label, d.severity = g.severity := by
  by_cases hlabel : g.label ∈ before
  · simp [groupFault?, hlabel]
  · by_cases hnames : (r.detailsIn g.label).map DetailItem.name = g.items
    · simp [groupFault?, hlabel, hnames]
    · simp [groupFault?, hlabel, hnames]

/-- The walk over the groups finds no fault exactly if each group is in order and no label occurs
twice, the labels already passed included. -/
theorem groupsFault?_eq_none_iff : ∀ {gs : List ResultGroup} {before : List String},
    r.groupsFault? before gs = none ↔
      (∀ g ∈ gs, g.label ∉ before) ∧ (gs.map ResultGroup.label).Nodup ∧
        ∀ g ∈ gs, (r.detailsIn g.label).map DetailItem.name = g.items ∧
          ∀ d ∈ r.detailsIn g.label, d.severity = g.severity
  | [], _ => by simp [groupsFault?]
  | g :: gs, before => by
      rw [groupsFault?, Option.or_eq_none_iff, groupFault?_eq_none_iff, groupsFault?_eq_none_iff]
      simp only [List.mem_cons, forall_eq_or_imp, not_or, List.map_cons, List.nodup_cons,
        List.mem_map, not_exists, not_and]
      constructor
      · rintro ⟨⟨hg, hown⟩, hgs, hnodup, hrest⟩
        exact ⟨⟨hg, fun x hx => (hgs x hx).2⟩, ⟨fun x hx => (hgs x hx).1, hnodup⟩, hown, hrest⟩
      · rintro ⟨⟨hg, hgs⟩, ⟨hne, hnodup⟩, hown, hrest⟩
        exact ⟨⟨hg, hown⟩, fun x hx => ⟨hne x hx, hgs x hx⟩, hnodup, hrest⟩

theorem orphan?_eq_none_iff :
    r.orphan? = none ↔ ∀ d ∈ r.details, ∃ g ∈ r.groups, g.label = d.group := by
  simp [orphan?]

theorem hasErrorGroup_iff : r.hasErrorGroup = true ↔ ∃ g ∈ r.groups, g.severity = .error := by
  simp [hasErrorGroup]

theorem statusFault?_eq_none_iff :
    r.statusFault? = none ↔ (r.hasErrorGroup = true ↔ r.status = .fail) := by
  cases herror : r.hasErrorGroup <;> cases hstatus : r.status <;>
    simp [statusFault?, herror, hstatus]

theorem inconsistency?_eq_none_iff : r.inconsistency? = none ↔ Consistent r := by
  rw [inconsistency?, Option.or_eq_none_iff, Option.or_eq_none_iff, groupsFault?_eq_none_iff,
    orphan?_eq_none_iff, statusFault?_eq_none_iff, hasErrorGroup_iff]
  constructor
  · rintro ⟨⟨-, hnodup, hgroups⟩, howned, hstatus⟩
    exact ⟨hnodup, fun g hg => (hgroups g hg).1, fun g hg => (hgroups g hg).2, howned, hstatus⟩
  · intro h
    exact ⟨⟨fun _ _ => List.not_mem_nil, h.nodup_labels,
      fun g hg => ⟨h.names_eq g hg, h.severity_eq g hg⟩⟩, h.exists_group, h.status_iff⟩

theorem checked_eq_ok_iff {r' : CheckResult} : r.checked = .ok r' ↔ Consistent r ∧ r = r' := by
  rw [← inconsistency?_eq_none_iff]
  cases h : r.inconsistency? <;> simp [checked, h]

/-- The items of the groups, group by group, are all items in another order. -/
theorem Consistent.perm_details (h : r.Consistent) :
    (r.groups.flatMap fun g => r.detailsIn g.label).Perm r.details := by
  rw [← List.flatMap_map ResultGroup.label r.detailsIn]
  refine perm_flatMap_filter DetailItem.group h.nodup_labels fun d hd => ?_
  obtain ⟨g, hg, hlabel⟩ := h.exists_group d hd
  exact hlabel ▸ List.mem_map_of_mem hg

end CheckResult

/-! ## Labels -/

theorem Severity.label_injective {s s' : Severity} {k k' : Nat}
    (h : s.tag ++ Text.twoDigits k = s'.tag ++ Text.twoDigits k') : s = s' ∧ k = k' := by
  have hs : s = s' := by
    have hhead := congrArg (·.toList.head?) h
    cases s <;> cases s' <;> simp [Severity.tag] at hhead ⊢
  subst hs
  exact ⟨rfl, Text.twoDigits_injective ((String.append_right_inj s.tag).mp h)⟩

/-- An item without the label of its group. -/
def DetailItem.entry (d : DetailItem) : Severity × ItemDraft :=
  (d.severity, ⟨d.name, d.reason, d.line, d.path, d.detail, d.fingerprint⟩)

/-- The items of a group with its severity. -/
def GroupDraft.entries (g : GroupDraft) : List (Severity × ItemDraft) := g.items.map (g.severity, ·)

theorem GroupDraft.flatMap_entries_filled (gs : List GroupDraft) :
    (gs.filter fun d => !d.items.isEmpty).flatMap entries = gs.flatMap entries :=
  flatMap_filter_of_eq_nil fun d _ hd => by
    have hnil : d.items = [] := by simpa using hd
    rw [entries, hnil, List.map_nil]

namespace LabelledGroup

theorem filter_flatMap_details (p : String → Bool) (gs : List LabelledGroup) :
    (gs.flatMap details).filter (fun d => p d.group) =
      (gs.filter fun g => p g.label).flatMap details := by
  induction gs with
  | nil => rfl
  | cons g gs ih =>
      rw [List.flatMap_cons, List.filter_append, ih]
      cases hp : p g.label with
      | true => simp [details, item, hp]
      | false => simp [details, item, hp]

theorem map_entry_flatMap (gs : List LabelledGroup) :
    (gs.flatMap details).map DetailItem.entry = (gs.map draft).flatMap GroupDraft.entries := by
  rw [List.map_flatMap, List.flatMap_map]
  congr 1
  funext g
  rw [details, List.map_map]
  rfl

end LabelledGroup

/-! ## The layout of a builder -/

theorem map_fst_filter_zipIdx_ne {α : Type} (n : Nat) (l : List α) (k : Nat) :
    ((l.zipIdx n).filter fun x => x.2 != n + k).map Prod.fst = l.eraseIdx k := by
  induction l generalizing n k with
  | nil => rfl
  | cons a l ih =>
      rw [List.zipIdx_cons]
      cases k with
      | zero =>
          have hrest : ∀ x ∈ l.zipIdx (n + 1), (x.2 != n + 0) = true := by
            intro x hx
            have hle : n + 1 ≤ x.2 := (List.mem_zipIdx hx).1
            rw [bne_iff_ne]
            omega
          rw [List.filter_cons_of_neg (by simp), List.filter_eq_self.mpr hrest,
            List.zipIdx_map_fst, List.eraseIdx_cons_zero]
      | succ k =>
          rw [List.filter_cons_of_pos (by simp), List.map_cons, List.eraseIdx_cons_succ,
            ← ih (n + 1) k, Nat.add_right_comm n 1 k, Nat.add_assoc n k 1]

theorem map_fst_filter_zipIdx_eq {α : Type} (n : Nat) (l : List α) (k : Nat) :
    ((l.zipIdx n).filter fun x => x.2 == n + k).map Prod.fst = l[k]?.toList := by
  induction l generalizing n k with
  | nil => rfl
  | cons a l ih =>
      rw [List.zipIdx_cons]
      cases k with
      | zero =>
          have hrest : ∀ x ∈ l.zipIdx (n + 1), ¬ (x.2 == n + 0) = true := by
            intro x hx
            have hle : n + 1 ≤ x.2 := (List.mem_zipIdx hx).1
            rw [beq_iff_eq]
            omega
          rw [List.filter_cons_of_pos (by simp), List.filter_eq_nil_iff.mpr hrest]
          rfl
      | succ k =>
          rw [List.filter_cons_of_neg (by simp), List.getElem?_cons_succ, ← ih (n + 1) k,
            Nat.add_right_comm n 1 k, Nat.add_assoc n k 1]

namespace ResultBuilder

variable {b : ResultBuilder} {s : Severity} {g : LabelledGroup} {status : Status} {waived : Bool}

theorem severity_of_mem_filled {d : GroupDraft} (hd : d ∈ b.filled s) :
    d.severity = s ∧ d.items ≠ [] := by
  simpa using (List.mem_filter.mp hd).2

theorem map_draft_labelled : (b.labelled s).map LabelledGroup.draft = b.filled s := by
  rw [labelled, List.map_map]
  exact List.zipIdx_map_fst 1 (b.filled s)

theorem label_of_mem_zipIdx {x : GroupDraft × Nat} (hx : x ∈ (b.filled s).zipIdx 1) :
    (LabelledGroup.number x.1 x.2).label = s.tag ++ Text.twoDigits x.2 := by
  rw [LabelledGroup.number, (severity_of_mem_filled (List.fst_mem_of_mem_zipIdx hx)).1]

theorem map_label_labelled :
    (b.labelled s).map LabelledGroup.label =
      (List.range' 1 (b.filled s).length).map fun k => s.tag ++ Text.twoDigits k := by
  calc (b.labelled s).map LabelledGroup.label
      = ((b.filled s).zipIdx 1).map fun x => s.tag ++ Text.twoDigits x.2 := by
        rw [labelled, List.map_map]
        exact List.map_congr_left fun x hx => label_of_mem_zipIdx hx
    _ = (((b.filled s).zipIdx 1).map Prod.snd).map fun k => s.tag ++ Text.twoDigits k := by
        rw [List.map_map]
        rfl
    _ = _ := by rw [List.zipIdx_map_snd]

theorem nodup_labels (b : ResultBuilder) : (b.layout.map LabelledGroup.label).Nodup := by
  rw [layout, List.map_flatMap, List.nodup_flatMap]
  constructor
  · intro s _
    rw [map_label_labelled]
    exact List.Nodup.map (fun k k' h => (Severity.label_injective h).2) List.nodup_range'
  · have hall : Severity.all.Pairwise (· ≠ ·) := by decide
    refine hall.imp fun {s s'} hne label hs hs' => hne ?_
    simp only [map_label_labelled, List.mem_map] at hs hs'
    obtain ⟨k, -, rfl⟩ := hs
    obtain ⟨k', -, hk'⟩ := hs'
    exact (Severity.label_injective hk'.symm).1

theorem map_draft_layout : b.layout.map LabelledGroup.draft = Severity.all.flatMap b.filled := by
  rw [layout, List.map_flatMap]
  simp only [map_draft_labelled]

/-- The layout has the groups that have items, in another order. -/
theorem perm_layout (b : ResultBuilder) :
    (b.layout.map LabelledGroup.draft).Perm (b.groups.filter fun d => !d.items.isEmpty) := by
  obtain ⟨gs⟩ := b
  rw [map_draft_layout]
  induction gs with
  | nil => rfl
  | cons d gs ih =>
      simp only [Severity.all, filled, List.flatMap_cons, List.flatMap_nil, List.append_nil] at ih ⊢
      cases hd : d.items with
      | nil => simpa [List.filter_cons, hd] using ih
      | cons i is =>
          cases hs : d.severity with
          | error => simpa [List.filter_cons, hd, hs] using ih.cons d
          | warn =>
              simp only [List.filter_cons, hd, hs]
              exact List.perm_middle.trans (ih.cons d)
          | info =>
              simp only [List.filter_cons, hd, hs, ← List.append_assoc] at ih ⊢
              exact List.perm_middle.trans (ih.cons d)

theorem mem_map_draft_layout {d : GroupDraft} :
    d ∈ b.layout.map LabelledGroup.draft ↔ d ∈ b.groups ∧ d.items ≠ [] := by
  rw [b.perm_layout.mem_iff]
  simp

/-! ## Selecting groups by their label -/

theorem map_draft_filter_labelled (p : String → Bool) :
    ((b.labelled s).filter fun g => p g.label).map LabelledGroup.draft =
      (((b.filled s).zipIdx 1).filter fun x => p (s.tag ++ Text.twoDigits x.2)).map Prod.fst := by
  have hlabel : ∀ x ∈ (b.filled s).zipIdx 1,
      p (LabelledGroup.number x.1 x.2).label = p (s.tag ++ Text.twoDigits x.2) := by
    intro x hx
    rw [label_of_mem_zipIdx hx]
  rw [labelled, List.filter_map, List.map_map, ← List.filter_congr hlabel]
  rfl

theorem map_draft_filter_ne (t : Severity) (k : Nat) :
    ((b.labelled s).filter fun g => g.label != t.tag ++ Text.twoDigits (1 + k)).map
        LabelledGroup.draft =
      if s = t then (b.filled s).eraseIdx k else b.filled s := by
  rw [map_draft_filter_labelled fun l => l != t.tag ++ Text.twoDigits (1 + k)]
  split
  · rename_i hst
    subst hst
    rw [← map_fst_filter_zipIdx_ne 1]
    congr 2
    funext x
    rw [Bool.eq_iff_iff, bne_iff_ne, bne_iff_ne, not_iff_not]
    exact ⟨fun h => (Severity.label_injective h).2, fun h => by rw [h]⟩
  · rename_i hst
    rw [List.filter_eq_self.mpr, List.zipIdx_map_fst]
    intro x _
    exact bne_iff_ne.mpr fun h => hst (Severity.label_injective h).1

theorem map_draft_filter_eq (t : Severity) (k : Nat) :
    ((b.labelled s).filter fun g => g.label == t.tag ++ Text.twoDigits (1 + k)).map
        LabelledGroup.draft =
      if s = t then (b.filled s)[k]?.toList else [] := by
  rw [map_draft_filter_labelled fun l => l == t.tag ++ Text.twoDigits (1 + k)]
  split
  · rename_i hst
    subst hst
    rw [← map_fst_filter_zipIdx_eq 1]
    congr 2
    funext x
    rw [Bool.eq_iff_iff, beq_iff_eq, beq_iff_eq]
    exact ⟨fun h => (Severity.label_injective h).2, fun h => by rw [h]⟩
  · rename_i hst
    rw [List.filter_eq_nil_iff.mpr, List.map_nil]
    intro x _ h
    exact hst (Severity.label_injective (beq_iff_eq.mp h)).1

/-! ## One group set aside -/

section Aside

variable {before after : List GroupDraft} {a : GroupDraft}

/-- The label of a group that is opened after the given ones. -/
def labelAfter (before : List GroupDraft) (s : Severity) : String :=
  s.tag ++ Text.twoDigits (1 + ((mk before).filled s).length)

theorem filled_append (before after : List GroupDraft) (s : Severity) :
    (mk (before ++ after)).filled s = (mk before).filled s ++ (mk after).filled s :=
  List.filter_append ..

theorem filled_cons (a : GroupDraft) (after : List GroupDraft) (s : Severity) :
    (mk (a :: after)).filled s =
      if a.severity = s ∧ a.items ≠ [] then a :: (mk after).filled s else (mk after).filled s := by
  simp [filled, List.filter_cons]

/-- The label is that of the group itself: the group has items, or no later group could get it. -/
def Keeps (a : GroupDraft) (after : List GroupDraft) : Prop :=
  a.items = [] → ∀ g ∈ after, g.severity ≠ a.severity

theorem Keeps.filled_eq_nil (h : Keeps a after) (ha : a.items = []) :
    (mk after).filled a.severity = [] := by
  refine List.filter_eq_nil_iff.mpr fun g hg hmem => h ha g hg ?_
  simp only [Bool.and_eq_true, beq_iff_eq] at hmem
  exact hmem.1

theorem map_draft_layout_ne (h : Keeps a after) :
    ((mk (before ++ a :: after)).layout.filter fun g =>
        g.label != labelAfter before a.severity).map LabelledGroup.draft =
      (mk (before ++ after)).layout.map LabelledGroup.draft := by
  rw [layout, List.filter_flatMap, List.map_flatMap, map_draft_layout]
  congr 1
  funext s
  rw [labelAfter, map_draft_filter_ne, filled_append, filled_append, filled_cons]
  by_cases hs : s = a.severity
  · subst hs
    by_cases ha : a.items = []
    · simp [ha, h.filled_eq_nil ha, List.eraseIdx_of_length_le]
    · simp [ha, List.eraseIdx_append_of_length_le]
  · simp [hs, Ne.symm hs]

theorem map_draft_layout_eq (h : Keeps a after) :
    ((mk (before ++ a :: after)).layout.filter fun g =>
        g.label == labelAfter before a.severity).map LabelledGroup.draft =
      [a].filter fun d => !d.items.isEmpty := by
  rw [layout, List.filter_flatMap, List.map_flatMap]
  have hpick : ∀ s, (((mk (before ++ a :: after)).labelled s).filter fun g =>
      g.label == labelAfter before a.severity).map LabelledGroup.draft =
        if s = a.severity then [a].filter fun d => !d.items.isEmpty else [] := by
    intro s
    rw [labelAfter, map_draft_filter_eq, filled_append, filled_cons]
    by_cases hs : s = a.severity
    · subst hs
      by_cases ha : a.items = []
      · simp [ha, h.filled_eq_nil ha]
      · simp [ha]
    · simp [hs]
  simp only [hpick]
  cases a.severity <;> simp [Severity.all]

end Aside

/-! ## The result of a builder -/

/-- Every item is in the result as it was drafted. -/
theorem perm_entries_finish :
    ((b.finish status waived).details.map DetailItem.entry).Perm
      (b.groups.flatMap GroupDraft.entries) := by
  rw [finish, LabelledGroup.map_entry_flatMap, ← GroupDraft.flatMap_entries_filled b.groups]
  exact b.perm_layout.flatMap_right GroupDraft.entries

section Aside

variable {before after : List GroupDraft} {a : GroupDraft}

theorem perm_entries_ne (h : Keeps a after) :
    ((((mk (before ++ a :: after)).finish status waived).details.filter fun d =>
        d.group != labelAfter before a.severity).map DetailItem.entry).Perm
      ((before ++ after).flatMap GroupDraft.entries) := by
  rw [finish, LabelledGroup.filter_flatMap_details (· != labelAfter before a.severity),
    LabelledGroup.map_entry_flatMap, map_draft_layout_ne h,
    ← GroupDraft.flatMap_entries_filled (before ++ after)]
  exact (mk (before ++ after)).perm_layout.flatMap_right GroupDraft.entries

/-- The items of a group set aside are in the result as they were drafted. -/
theorem entries_eq (h : Keeps a after) :
    (((mk (before ++ a :: after)).finish status waived).details.filter fun d =>
        d.group == labelAfter before a.severity).map DetailItem.entry = a.entries := by
  rw [finish, LabelledGroup.filter_flatMap_details (· == labelAfter before a.severity),
    LabelledGroup.map_entry_flatMap, map_draft_layout_eq h, GroupDraft.flatMap_entries_filled,
    List.flatMap_singleton]

end Aside

theorem detailsIn_finish (hg : g ∈ b.layout) :
    (b.finish status waived).detailsIn g.label = g.details := by
  rw [CheckResult.detailsIn, finish, LabelledGroup.filter_flatMap_details (· == g.label),
    filter_key_eq_singleton b.nodup_labels hg, List.flatMap_singleton]

theorem exists_error_group_finish :
    (∃ g ∈ (b.finish status waived).groups, g.severity = .error) ↔
      ∃ d ∈ b.groups, d.severity = .error ∧ d.items ≠ [] := by
  constructor
  · rintro ⟨_, hmem, herror⟩
    obtain ⟨g, hg, rfl⟩ := List.mem_map.mp hmem
    obtain ⟨hd, hne⟩ := mem_map_draft_layout.mp (List.mem_map_of_mem hg)
    exact ⟨g.draft, hd, herror, hne⟩
  · rintro ⟨d, hd, herror, hne⟩
    obtain ⟨g, hg, rfl⟩ := List.mem_map.mp (mem_map_draft_layout.mpr ⟨hd, hne⟩)
    exact ⟨g.group, List.mem_map_of_mem hg, herror⟩

/-- The parts of a result that was laid out agree if its status agrees with its errors. -/
theorem consistent_finish
    (hstatus : (∃ d ∈ b.groups, d.severity = .error ∧ d.items ≠ []) ↔ status = .fail) :
    (b.finish status waived).Consistent where
  nodup_labels := by
    rw [finish, List.map_map]
    exact b.nodup_labels
  names_eq := by
    intro _ hmem
    obtain ⟨g, hg, rfl⟩ := List.mem_map.mp hmem
    rw [show g.group.label = g.label from rfl, detailsIn_finish hg, LabelledGroup.details,
      List.map_map]
    rfl
  severity_eq := by
    intro _ hmem d hd
    obtain ⟨g, hg, rfl⟩ := List.mem_map.mp hmem
    rw [show g.group.label = g.label from rfl, detailsIn_finish hg] at hd
    obtain ⟨i, -, rfl⟩ := List.mem_map.mp hd
    rfl
  exists_group := by
    intro d hd
    obtain ⟨g, hg, hd⟩ := List.mem_flatMap.mp hd
    obtain ⟨i, -, rfl⟩ := List.mem_map.mp hd
    exact ⟨g.group, List.mem_map_of_mem hg, rfl⟩
  status_iff := exists_error_group_finish.trans hstatus

end ResultBuilder

end Signoff

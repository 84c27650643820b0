/-
# `Signoff.Proofs.BuilderRuns` — what any sequence of calls on a builder comes to

A builder is used through two calls: a group is opened, an item is pushed to a group by its handle.
Calls come in any order, and a handle may be one that the builder has not given out.  What a run of
calls comes to is said here without a builder.  The groups are those that were opened, known by
their place in the order of opening, and a group has the items that were pushed to that place after
it was opened (`openedGroups`).  One call changes this as it changes the builder, so a run does
(`groups_run`).

The result shows the opened groups that have items, by severity and then by opening, numbered within
the severity (`Shows`).  These two orders leave no choice: the result hangs on the openings and on
what each group received, not on how the pushes to different groups were mixed.
-/
import Mathlib.Data.List.Induction
import Signoff.Proofs.Layout

namespace Signoff

/-- The place of the severity in the output. -/
def Severity.rank : Severity → Nat
  | error => 0
  | warn => 1
  | info => 2

namespace ResultBuilder

/-- A call on a builder. -/
inductive Call where
  | openGroup (severity : Severity) (description : String)
  | push (group : GroupHandle) (item : ItemDraft)

def apply (b : ResultBuilder) : Call → ResultBuilder
  | .openGroup severity description => (b.openGroup severity description).1
  | .push group item => b.push group item

/-- The builder after calls on a new one. -/
def run (calls : List Call) : ResultBuilder := calls.foldl apply {}

/-! ## What the calls say -/

/-- The groups that were opened, in order. -/
def opened : List Call → List (Severity × String)
  | [] => []
  | .openGroup severity description :: calls => (severity, description) :: opened calls
  | .push _ _ :: calls => opened calls

/-- The pushes that reach a group, each with the place of the group, where `n` groups are open
before. -/
def received (n : Nat) : List Call → List (Nat × ItemDraft)
  | [] => []
  | .openGroup _ _ :: calls => received (n + 1) calls
  | .push group item :: calls =>
    if group.index < n then (group.index, item) :: received n calls else received n calls

/-- The items that the group at a place receives, in order. -/
def itemsAt (calls : List Call) (i : Nat) : List ItemDraft :=
  ((received 0 calls).filter fun x => x.1 == i).map Prod.snd

structure OpenedGroup extends GroupDraft where
  index : Nat

/-- The groups that were opened, with what they received. -/
def openedGroups (calls : List Call) : List OpenedGroup :=
  (opened calls).zipIdx.map fun g => ⟨⟨g.1.1, g.1.2, itemsAt calls g.2⟩, g.2⟩

section Calls

variable {calls : List Call}

theorem opened_append (calls calls' : List Call) :
    opened (calls ++ calls') = opened calls ++ opened calls' := by
  induction calls with
  | nil => rfl
  | cons call calls ih =>
      cases call with
      | openGroup severity description =>
          rw [List.cons_append, opened, opened, ih, List.cons_append]
      | push group item => rw [List.cons_append, opened, opened, ih]

theorem received_append (n : Nat) (calls calls' : List Call) :
    received n (calls ++ calls') =
      received n calls ++ received (n + (opened calls).length) calls' := by
  induction calls generalizing n with
  | nil => rfl
  | cons call calls ih =>
      cases call with
      | openGroup severity description =>
          rw [List.cons_append, received, received, ih, opened, List.length_cons]
          congr 2
          omega
      | push group item =>
          rw [List.cons_append, received, received, ih, opened]
          split <;> rfl

theorem lt_of_mem_received {n : Nat} {x : Nat × ItemDraft} (hx : x ∈ received n calls) :
    x.1 < n + (opened calls).length := by
  induction calls generalizing n with
  | nil => exact absurd hx List.not_mem_nil
  | cons call calls ih =>
      cases call with
      | openGroup severity description =>
          have hlt := ih hx
          rw [opened, List.length_cons]
          omega
      | push group item =>
          rw [received] at hx
          rw [opened]
          split at hx
          · rcases List.mem_cons.mp hx with rfl | hx
            · exact Nat.lt_add_right _ ‹_›
            · exact ih hx
          · exact ih hx

theorem itemsAt_openGroup (calls : List Call) (severity : Severity) (description : String)
    (i : Nat) : itemsAt (calls ++ [.openGroup severity description]) i = itemsAt calls i := by
  rw [itemsAt, received_append, received, received, List.append_nil, itemsAt]

theorem itemsAt_push (calls : List Call) (group : GroupHandle) (item : ItemDraft) (i : Nat) :
    itemsAt (calls ++ [.push group item]) i =
      if group.index = i ∧ i < (opened calls).length then itemsAt calls i ++ [item]
      else itemsAt calls i := by
  rw [itemsAt, received_append, received, received, Nat.zero_add, itemsAt]
  by_cases hi : group.index = i
  · subst hi
    split <;> simp [*]
  · split <;> simp [hi]

theorem itemsAt_length (calls : List Call) : itemsAt calls (opened calls).length = [] := by
  rw [itemsAt, List.map_eq_nil_iff, List.filter_eq_nil_iff]
  intro x hx
  have hlt := lt_of_mem_received hx
  rw [beq_iff_eq]
  omega

theorem getElem?_openedGroups (calls : List Call) (i : Nat) :
    (openedGroups calls)[i]? =
      (opened calls)[i]?.map fun g => ⟨⟨g.1, g.2, itemsAt calls i⟩, i⟩ := by
  rw [openedGroups, List.getElem?_map, List.getElem?_zipIdx, Option.map_map, Nat.zero_add]
  rfl

theorem map_index_openedGroups (calls : List Call) :
    (openedGroups calls).map OpenedGroup.index = List.range' 0 (opened calls).length := by
  rw [openedGroups, List.map_map]
  exact List.zipIdx_map_snd 0 (opened calls)

theorem length_openedGroups (calls : List Call) :
    (openedGroups calls).length = (opened calls).length := by
  rw [openedGroups, List.length_map, List.length_zipIdx]

end Calls

/-! ## A call and a run -/

theorem groups_apply {calls : List Call} {b : ResultBuilder} (call : Call)
    (h : b.groups = (openedGroups calls).map OpenedGroup.toGroupDraft) :
    (b.apply call).groups = (openedGroups (calls ++ [call])).map OpenedGroup.toGroupDraft := by
  have hget : ∀ i, b.groups[i]? =
      (opened calls)[i]?.map fun g => GroupDraft.mk g.1 g.2 (itemsAt calls i) := by
    intro i
    rw [h, List.getElem?_map, getElem?_openedGroups, Option.map_map]
    rfl
  have hlength : b.groups.length = (opened calls).length := by
    rw [h, List.length_map, length_openedGroups]
  refine List.ext_getElem? fun i => ?_
  rw [List.getElem?_map, getElem?_openedGroups, Option.map_map, opened_append]
  cases call with
  | openGroup severity description =>
      rw [itemsAt_openGroup]
      simp only [apply, ResultBuilder.openGroup, opened]
      rcases Nat.lt_trichotomy i (opened calls).length with hi | hi | hi
      · rw [List.getElem?_append_left (by omega), List.getElem?_append_left hi, hget]
        rfl
      · -- the new group
        rw [hi, ← hlength, List.getElem?_concat_length, hlength, List.getElem?_concat_length,
          itemsAt_length]
        rfl
      · rw [List.getElem?_eq_none (by simp; omega), List.getElem?_eq_none (by simp; omega)]
        rfl
  | push group item =>
      rw [itemsAt_push]
      simp only [apply, ResultBuilder.push, opened, List.append_nil]
      rw [List.getElem?_modify, hget]
      by_cases hi : i < (opened calls).length
      · rw [List.getElem?_eq_getElem hi]
        by_cases hgroup : group.index = i
        · simp [hgroup, hi]
        · simp [hgroup]
      · rw [List.getElem?_eq_none (by omega)]
        simp

/-- The groups of a builder are those that its calls opened, with what they received. -/
theorem groups_run (calls : List Call) :
    (run calls).groups = (openedGroups calls).map OpenedGroup.toGroupDraft := by
  induction calls using List.reverseRecOn with
  | nil => rfl
  | append_singleton calls call ih =>
      rw [run, List.foldl_append]
      exact groups_apply call ih

/-! ## The order of the output -/

namespace OpenedGroup

/-- The group comes before the other in the output: errors first, then warnings, and groups of one
severity as they were opened. -/
def Before (g g' : OpenedGroup) : Prop :=
  g.severity.rank < g'.severity.rank ∨ g.severity = g'.severity ∧ g.index < g'.index

def number (shown : List OpenedGroup) (g : OpenedGroup) : Nat :=
  1 + shown.countP fun g' => decide (g'.index < g.index) && g'.severity == g.severity

/-- The label of the group, among the groups shown. -/
def label (shown : List OpenedGroup) (g : OpenedGroup) : String :=
  g.severity.tag ++ Text.twoDigits (g.number shown)

def listed (shown : List OpenedGroup) (g : OpenedGroup) : ResultGroup :=
  ⟨g.label shown, g.severity, g.description, g.items.map ItemDraft.name⟩

def details (shown : List OpenedGroup) (g : OpenedGroup) : List DetailItem :=
  g.items.map fun i =>
    ⟨i.name, g.severity, g.label shown, i.reason, i.line, i.path, i.detail, i.fingerprint⟩

end OpenedGroup

/-- The result shows these groups of the calls, and nothing else. -/
structure Shows (calls : List Call) (shown : List OpenedGroup) (r : CheckResult) : Prop where
  mem_iff : ∀ g, g ∈ shown ↔ g ∈ openedGroups calls ∧ g.items ≠ []
  ordered : shown.Pairwise OpenedGroup.Before
  groups_eq : r.groups = shown.map (OpenedGroup.listed shown)
  details_eq : r.details = shown.flatMap (OpenedGroup.details shown)
  nodup_labels : (r.groups.map ResultGroup.label).Nodup
  /-- Every push that reaches a group is shown once, and no other. -/
  perm_received : (shown.flatMap fun g => g.items.map fun i => (g.index, i)).Perm (received 0 calls)

/-- In a list that is ordered by a key, an element stands behind those with a smaller key. -/
theorem zipIdx_eq_map_countP {α : Type} {key : α → Nat} {xs : List α}
    (h : xs.Pairwise fun x y => key x < key y) (n : Nat) :
    xs.zipIdx n = xs.map fun x => (x, n + xs.countP fun y => key y < key x) := by
  induction xs generalizing n with
  | nil => rfl
  | cons x xs ih =>
      obtain ⟨hx, hxs⟩ := List.pairwise_cons.mp h
      rw [List.zipIdx_cons, List.map_cons, ih hxs]
      have hhead : (x :: xs).countP (fun y => key y < key x) = 0 := by
        rw [List.countP_eq_zero]
        intro y hy
        rcases List.mem_cons.mp hy with rfl | hy
        · simp
        · simpa using Nat.le_of_lt (hx y hy)
      rw [hhead]
      congr 1
      refine List.map_congr_left fun y hy => ?_
      rw [List.countP_cons_of_pos (by simpa using hx y hy)]
      congr 1
      omega

section Layout

variable {calls : List Call} {s : Severity}

/-- The opened groups of a severity that have items. -/
def filledGroups (calls : List Call) (s : Severity) : List OpenedGroup :=
  (openedGroups calls).filter fun g => g.severity == s && !g.items.isEmpty

/-- The opened groups that have items, in the order of the output. -/
def shownGroups (calls : List Call) : List OpenedGroup := Severity.all.flatMap (filledGroups calls)

theorem mem_filledGroups {g : OpenedGroup} :
    g ∈ filledGroups calls s ↔ g ∈ openedGroups calls ∧ g.severity = s ∧ g.items ≠ [] := by
  simp [filledGroups]

theorem mem_shownGroups {g : OpenedGroup} :
    g ∈ shownGroups calls ↔ g ∈ openedGroups calls ∧ g.items ≠ [] := by
  have hall : g.severity ∈ Severity.all := by cases g.severity <;> decide
  simp only [shownGroups, List.mem_flatMap, mem_filledGroups]
  constructor
  · rintro ⟨s, -, hg, -, hne⟩
    exact ⟨hg, hne⟩
  · rintro ⟨hg, hne⟩
    exact ⟨g.severity, hall, hg, rfl, hne⟩

theorem pairwise_openedGroups (calls : List Call) :
    (openedGroups calls).Pairwise fun g g' => g.index < g'.index := by
  rw [← List.pairwise_map, map_index_openedGroups]
  exact List.pairwise_lt_range'

theorem ordered_shownGroups (calls : List Call) :
    (shownGroups calls).Pairwise OpenedGroup.Before := by
  rw [shownGroups, List.pairwise_flatMap]
  constructor
  · intro s _
    refine ((pairwise_openedGroups calls).filter _).imp_of_mem fun {g g'} hg hg' hlt => ?_
    exact .inr ⟨(mem_filledGroups.mp hg).2.1.trans (mem_filledGroups.mp hg').2.1.symm, hlt⟩
  · have hall : Severity.all.Pairwise fun s s' => s.rank < s'.rank := by decide
    refine hall.imp fun {s s'} hlt g hg g' hg' => .inl ?_
    rw [(mem_filledGroups.mp hg).2.1, (mem_filledGroups.mp hg').2.1]
    exact hlt

theorem filter_filledGroups (calls : List Call) (s s' : Severity) :
    (filledGroups calls s').filter (fun g => g.severity == s) =
      if s' = s then filledGroups calls s else [] := by
  split
  · rename_i hs
    subst hs
    exact List.filter_eq_self.mpr fun g hg => beq_iff_eq.mpr (mem_filledGroups.mp hg).2.1
  · rename_i hs
    refine List.filter_eq_nil_iff.mpr fun g hg hsame => hs ?_
    rw [← (mem_filledGroups.mp hg).2.1, beq_iff_eq.mp hsame]

theorem filter_shownGroups (calls : List Call) (s : Severity) :
    (shownGroups calls).filter (fun g => g.severity == s) = filledGroups calls s := by
  rw [shownGroups, List.filter_flatMap]
  simp only [filter_filledGroups]
  cases s <;> simp [Severity.all]

theorem filled_run (calls : List Call) (s : Severity) :
    (run calls).filled s = (filledGroups calls s).map OpenedGroup.toGroupDraft := by
  rw [filled, groups_run, List.filter_map]
  rfl

theorem labelled_run (calls : List Call) (s : Severity) :
    (run calls).labelled s =
      (filledGroups calls s).map fun g => ⟨g.label (shownGroups calls), g.toGroupDraft⟩ := by
  have hnumber : ∀ g ∈ filledGroups calls s,
      g.number (shownGroups calls) = 1 + (filledGroups calls s).countP (·.index < g.index) := by
    intro g hg
    rw [OpenedGroup.number, ← List.countP_filter, (mem_filledGroups.mp hg).2.1, filter_shownGroups]
  have hordered : (filledGroups calls s).Pairwise fun g g' => g.index < g'.index :=
    (pairwise_openedGroups calls).filter _
  rw [labelled, filled_run, List.zipIdx_map, List.map_map, zipIdx_eq_map_countP hordered 1,
    List.map_map]
  refine List.map_congr_left fun g hg => ?_
  rw [OpenedGroup.label, hnumber g hg]
  rfl

theorem layout_run (calls : List Call) :
    (run calls).layout =
      (shownGroups calls).map fun g => ⟨g.label (shownGroups calls), g.toGroupDraft⟩ := by
  rw [layout, shownGroups, List.map_flatMap]
  exact List.flatMap_congr fun s _ => labelled_run calls s

theorem perm_shownGroups (calls : List Call) :
    (shownGroups calls).Perm ((openedGroups calls).filter fun g => !g.items.isEmpty) := by
  have hshown : (shownGroups calls).Nodup := by
    refine (ordered_shownGroups calls).imp fun {g g'} h heq => ?_
    subst heq
    rcases h with h | ⟨-, h⟩ <;> exact absurd h (Nat.lt_irrefl _)
  have hopened : (openedGroups calls).Nodup := by
    refine List.Nodup.of_map OpenedGroup.index ?_
    rw [map_index_openedGroups]
    exact List.nodup_range'
  refine (List.perm_ext_iff_of_nodup hshown (hopened.filter _)).mpr fun g => ?_
  rw [mem_shownGroups, List.mem_filter]
  simp

theorem map_items {g : OpenedGroup} (hg : g ∈ openedGroups calls) :
    (g.items.map fun i => (g.index, i)) = (received 0 calls).filter fun x => x.1 == g.index := by
  obtain ⟨x, -, rfl⟩ := List.mem_map.mp hg
  simp only [itemsAt]
  rw [List.map_map]
  refine (List.map_congr_left fun y hy => ?_).trans (List.map_id _)
  have hindex : y.1 = x.2 := by simpa using (List.mem_filter.mp hy).2
  exact Prod.ext hindex.symm rfl

/-- Each group holds what was received at its place, so together they hold all that was received. -/
theorem perm_received (calls : List Call) :
    ((shownGroups calls).flatMap fun g => g.items.map fun i => (g.index, i)).Perm
      (received 0 calls) := by
  have hempty : ((openedGroups calls).filter fun g => !g.items.isEmpty).flatMap
      (fun g => g.items.map fun i => (g.index, i)) =
        (openedGroups calls).flatMap fun g => g.items.map fun i => (g.index, i) :=
    flatMap_filter_of_eq_nil fun g _ hg => by
      have hnil : g.items = [] := by simpa using hg
      rw [hnil, List.map_nil]
  have hparts : ((openedGroups calls).flatMap fun g => g.items.map fun i => (g.index, i)) =
      ((openedGroups calls).map OpenedGroup.index).flatMap fun k =>
        (received 0 calls).filter fun x => x.1 == k := by
    rw [List.flatMap_map]
    exact List.flatMap_congr fun g hg => map_items hg
  refine ((perm_shownGroups calls).flatMap_right _).trans ?_
  rw [hempty, hparts, map_index_openedGroups]
  refine perm_flatMap_filter Prod.fst List.nodup_range' fun x hx => ?_
  have hlt := lt_of_mem_received hx
  rw [List.mem_range'_1]
  omega

/-- The result of a run shows the groups that have items. -/
theorem shows_finish (calls : List Call) (status : Status) (waived : Bool) :
    Shows calls (shownGroups calls) ((run calls).finish status waived) where
  mem_iff _ := mem_shownGroups
  ordered := ordered_shownGroups calls
  groups_eq := by
    rw [finish, layout_run, List.map_map]
    rfl
  details_eq := by
    rw [finish, layout_run, List.flatMap_map]
    rfl
  nodup_labels := by
    rw [finish, List.map_map]
    exact (run calls).nodup_labels
  perm_received := perm_received calls

end Layout

/-! ## The result of a run -/

section Run

variable {calls calls' : List Call} {status : Status} {waived : Bool}

/-- Runs that open the same groups and give each the same items come to the same. -/
theorem run_eq (hopened : opened calls' = opened calls)
    (hitems : ∀ i, itemsAt calls' i = itemsAt calls i) : run calls' = run calls := by
  have hgroups : openedGroups calls' = openedGroups calls := by
    simp only [openedGroups, hopened, hitems]
  have h := groups_run calls'
  rw [hgroups, ← groups_run calls] at h
  cases hrun : run calls'
  cases hrun' : run calls
  rw [hrun, hrun'] at h
  rw [ResultBuilder.mk.injEq]
  exact h

theorem itemsAt_swap {before after : List Call} {g g' : GroupHandle} {d d' : ItemDraft} (h : g ≠ g')
    (i : Nat) :
    itemsAt (before ++ .push g' d' :: .push g d :: after) i =
      itemsAt (before ++ .push g d :: .push g' d' :: after) i := by
  have hne : g.index ≠ g'.index := fun hindex => h (by cases g; cases g'; exact congrArg _ hindex)
  simp only [itemsAt, received_append, received, List.filter_append]
  congr 2
  by_cases hg : g.index < 0 + (opened before).length
  · by_cases hg' : g'.index < 0 + (opened before).length
    · simp only [hg, hg', if_true, List.filter_cons]
      by_cases hi : g.index = i
      · have hi' : g'.index ≠ i := fun hi' => hne (hi.trans hi'.symm)
        simp [hi, hi']
      · simp [hi]
    · simp only [hg', if_false]
  · simp only [hg, if_false]

theorem consistent_finish_iff :
    ((run calls).finish status waived).Consistent ↔
      ((∃ g ∈ openedGroups calls, g.severity = .error ∧ g.items ≠ []) ↔ status = .fail) := by
  have herror : (∃ d ∈ (run calls).groups, d.severity = .error ∧ d.items ≠ []) ↔
      ∃ g ∈ openedGroups calls, g.severity = .error ∧ g.items ≠ [] := by
    rw [groups_run]
    simp only [List.mem_map, exists_exists_and_eq_and]
  rw [← herror]
  exact ⟨fun h => exists_error_group_finish.symm.trans h.status_iff, consistent_finish⟩

/-- **Any run of a builder.**  Whatever calls are made on a builder, the result shows the opened
groups that received items, by severity and then by opening, numbered within the severity, with the
items they received, each once and in order.  A handle stands for the place of its group in the
order of opening; a push whose handle stands for no group yet goes nowhere.  How pushes to different
groups were mixed makes no difference.  The result is accepted exactly if its status is a failure
when an error was pushed and only then. -/
theorem finish_run (calls : List Call) (status : Status) (waived : Bool) :
    let r := (run calls).finish status waived
    r.status = status ∧ r.waived = waived ∧
      (∀ severity description,
        ((run calls).openGroup severity description).2 = ⟨(opened calls).length⟩) ∧
      (∃ shown, Shows calls shown r) ∧
      (∀ calls', opened calls' = opened calls → (∀ i, itemsAt calls' i = itemsAt calls i) →
        (run calls').finish status waived = r) ∧
      (∀ before after g g' d d', g ≠ g' → calls = before ++ .push g d :: .push g' d' :: after →
        (run (before ++ .push g' d' :: .push g d :: after)).finish status waived = r) ∧
      ∀ r', r.checked = .ok r' ↔
        ((∃ g ∈ openedGroups calls, g.severity = .error ∧ g.items ≠ []) ↔ status = .fail) ∧
          r = r' := by
  intro r
  refine ⟨rfl, rfl, ?_, ⟨_, shows_finish calls status waived⟩, ?_, ?_, ?_⟩
  · intro severity description
    rw [openGroup, groups_run, List.length_map, length_openedGroups]
  · intro calls' hopened hitems
    rw [run_eq hopened hitems]
  · rintro before after g g' d d' h rfl
    have hopened : opened (before ++ .push g' d' :: .push g d :: after) =
        opened (before ++ .push g d :: .push g' d' :: after) := by
      simp only [opened_append, opened]
    rw [run_eq hopened (itemsAt_swap h)]
  · intro r'
    rw [CheckResult.checked_eq_ok_iff, consistent_finish_iff]

/-- A handle comes too early, a group stays empty, and pushes to two groups are exchanged. -/
theorem finish_run_mixed :
    let push (i : Nat) (name : String) : Call := .push ⟨i⟩ { name := name, reason := "r" }
    let before : List Call :=
      [.openGroup .info "seen", push 2 "early", push 0 "a", .openGroup .warn "none",
       .openGroup .error "bad", .openGroup .info "more"]
    let r := (run (before ++ [push 2 "e", push 3 "b"])).finish .fail false
    r.checked = .ok r ∧ r.groups.map ResultGroup.label = ["ERROR01", "INFO01", "INFO02"] ∧
      (run (before ++ [push 3 "b", push 2 "e"])).finish .fail false = r := by
  intro push before r
  obtain ⟨-, -, -, -, -, hswap, hchecked⟩ :=
    finish_run (before ++ [push 2 "e", push 3 "b"]) .fail false
  have hdifferent : (⟨2⟩ : GroupHandle) ≠ ⟨3⟩ := by decide
  exact ⟨(hchecked r).mpr ⟨by decide, rfl⟩, by decide, hswap before [] _ _ _ _ hdifferent rfl⟩

end Run

end ResultBuilder

end Signoff

/-
# `Signoff.Proofs.Firsts` — first occurrences

Findings, patterns and waivers are all read "first wins".  `IsFirst p x xs` says what that means of
the list as it was given: `x` has the property `p` and nothing before it does.  The two ways in which
the evaluation looks for a first element, `find?` and `firstBy`, are brought back to it here:
`firstBy` keeps exactly the elements that are the first with their key, in their order
(`mem_firstBy`, `firstBy_sublist`), so no key is lost and none is kept twice.
-/
import Mathlib.Data.List.Nodup
import Signoff.Finding

namespace Signoff

variable {α : Type}

/-- `x` is the first element of the list with the property `p`. -/
def IsFirst (p : α → Bool) (x : α) (xs : List α) : Prop :=
  p x = true ∧ ∃ before after, xs = before ++ x :: after ∧ ∀ y ∈ before, p y = false

theorem find?_eq_some_iff_isFirst {p : α → Bool} {x : α} {xs : List α} :
    xs.find? p = some x ↔ IsFirst p x xs := by
  rw [List.find?_eq_some_iff_append, IsFirst]
  simp only [Bool.not_eq_true']

theorem lookup_cons_eq_ite {κ : Type} [BEq κ] [LawfulBEq κ] [DecidableEq κ] (k : κ) (m : κ × α)
    (ms : List (κ × α)) : (m :: ms).lookup k = if k = m.1 then some m.2 else ms.lookup k := by
  rw [List.lookup_cons]
  by_cases hk : k = m.1
  · simp [hk]
  · simp [beq_eq_false_iff_ne.mpr hk, hk]

namespace IsFirst

variable {p : α → Bool} {x y : α} {xs : List α}

theorem mem (h : IsFirst p x xs) : x ∈ xs :=
  List.mem_of_find?_eq_some (find?_eq_some_iff_isFirst.mpr h)

theorem unique (hx : IsFirst p x xs) (hy : IsFirst p y xs) : x = y := by
  have h := (find?_eq_some_iff_isFirst.mpr hx).symm.trans (find?_eq_some_iff_isFirst.mpr hy)
  exact Option.some.inj h

theorem head (hx : p x = true) : IsFirst p x (x :: xs) :=
  ⟨hx, [], xs, rfl, fun _ h => absurd h List.not_mem_nil⟩

theorem append_left (h : IsFirst p x xs) (ys : List α) : IsFirst p x (xs ++ ys) := by
  obtain ⟨hx, before, after, rfl, hbefore⟩ := h
  exact ⟨hx, before, after ++ ys, by simp, hbefore⟩

theorem append_right {ys : List α} (h : IsFirst p x ys) (hxs : ∀ y ∈ xs, p y = false) :
    IsFirst p x (xs ++ ys) := by
  obtain ⟨hx, before, after, rfl, hbefore⟩ := h
  refine ⟨hx, xs ++ before, after, by simp, ?_⟩
  intro y hy
  rcases List.mem_append.mp hy with hy | hy
  · exact hxs y hy
  · exact hbefore y hy

end IsFirst

theorem exists_isFirst_iff {p : α → Bool} {xs : List α} :
    (∃ x, IsFirst p x xs) ↔ ∃ x ∈ xs, p x = true := by
  simp only [← find?_eq_some_iff_isFirst, ← Option.isSome_iff_exists, List.find?_isSome]

theorem isFirst_map {β : Type} {p : α → Bool} {f : β → α} {x : α} {ys : List β} :
    IsFirst p x (ys.map f) ↔ ∃ y, IsFirst (fun y => p (f y)) y ys ∧ f y = x := by
  simp only [← find?_eq_some_iff_isFirst, List.find?_map, Option.map_eq_some_iff]
  rfl

theorem isFirst_cons_of_neg {p : α → Bool} {x y : α} {xs : List α} (hy : p y = false) :
    IsFirst p x (y :: xs) ↔ IsFirst p x xs := by
  rw [← find?_eq_some_iff_isFirst, ← find?_eq_some_iff_isFirst, List.find?_cons, hy]

/-! ## `firstBy` -/

section FirstBy

variable {key : α → String}

theorem firstBy_sublist : ∀ xs : List α, (firstBy key xs).Sublist xs
  | [] => .slnil
  | x :: xs => (List.filter_sublist.trans (firstBy_sublist xs)).cons_cons x

/-- What is found by its key is found in the same place after `firstBy`. -/
theorem find?_firstBy (k : String) (xs : List α) :
    (firstBy key xs).find? (key · == k) = xs.find? (key · == k) := by
  induction xs with
  | nil => rfl
  | cons x xs ih =>
      by_cases hx : key x = k
      · simp [firstBy, hx]
      · -- elements with another key than `x` are all that the search can meet
        have hskip : ∀ y, (decide ((key y != key x) = true ∧ (key y == k) = true))
            = (key y == k) := by
          intro y
          by_cases hy : key y = k
          · simp [hy, Ne.symm hx]
          · simp [hy]
        simp only [firstBy, List.find?_cons, beq_eq_false_iff_ne.mpr hx, List.find?_filter, hskip,
          ih]

theorem nodup_map_firstBy : ∀ xs : List α, ((firstBy key xs).map key).Nodup
  | [] => .nil
  | x :: xs => by
      rw [firstBy, List.map_cons, List.nodup_cons]
      constructor
      · intro hmem
        obtain ⟨y, hy, hkey⟩ := List.mem_map.mp hmem
        simp [hkey] at hy
      · exact (nodup_map_firstBy xs).sublist (List.filter_sublist.map key)

/-- `firstBy` keeps exactly the first element of every key. -/
theorem mem_firstBy {x : α} {xs : List α} :
    x ∈ firstBy key xs ↔ IsFirst (key · == key x) x xs := by
  rw [← find?_eq_some_iff_isFirst, ← find?_firstBy]
  constructor
  · intro hx
    cases hf : (firstBy key xs).find? (key · == key x) with
    | none =>
        have := List.find?_eq_none.mp hf x hx
        simp at this
    | some y =>
        have hy := List.mem_of_find?_eq_some hf
        have hkey : key y = key x := by simpa using List.find?_some hf
        rw [List.inj_on_of_nodup_map (nodup_map_firstBy xs) hy hx hkey]
  · exact List.mem_of_find?_eq_some

theorem mem_map_firstBy {k : String} {xs : List α} :
    k ∈ (firstBy key xs).map key ↔ k ∈ xs.map key := by
  constructor
  · exact fun h => ((firstBy_sublist xs).map key).subset h
  · intro h
    obtain ⟨y, hy, rfl⟩ := List.mem_map.mp h
    have hex : ∃ x ∈ xs, (key x == key y) = true := ⟨y, hy, beq_self_eq_true (key y)⟩
    obtain ⟨x, hx⟩ := exists_isFirst_iff.mpr hex
    have hkey : key x = key y := by simpa using hx.1
    exact List.mem_map.mpr ⟨x, mem_firstBy.mpr (hkey ▸ hx), hkey⟩

theorem firstBy_filter (p : String → Bool) (xs : List α) :
    firstBy key (xs.filter fun x => p (key x)) = (firstBy key xs).filter fun x => p (key x) := by
  induction xs with
  | nil => rfl
  | cons x xs ih =>
      cases hx : p (key x) with
      | true =>
          rw [List.filter_cons, if_pos hx, firstBy, firstBy, List.filter_cons, if_pos hx, ih,
            List.filter_comm]
      | false =>
          -- with `x` go all elements with its key
          have hdrop : ∀ y, (p (key y) && (key y != key x)) = p (key y) := by
            intro y
            by_cases hy : key y = key x
            · simp [hy, hx]
            · simp [hy]
          rw [List.filter_cons, if_neg (by simp [hx]), firstBy, List.filter_cons,
            if_neg (by simp [hx]), ih, List.filter_filter]
          exact List.filter_congr fun y _ => (hdrop y).symm

/-- Of what is added at the end, the elements are kept whose key is new. -/
theorem firstBy_append (xs ys : List α) :
    firstBy key (xs ++ ys) =
      firstBy key xs ++ (firstBy key ys).filter fun y => !xs.any (key · == key y) := by
  induction xs with
  | nil =>
      rw [List.nil_append]
      exact (List.filter_eq_self.mpr fun _ _ => rfl).symm
  | cons x xs ih =>
      have hnew : ∀ y, ((key y != key x) && !xs.any (key · == key y)) =
          !(x :: xs).any (key · == key y) := by
        intro y
        rw [List.any_cons, Bool.not_or, bne, Bool.beq_comm]
      rw [List.cons_append, firstBy, firstBy, ih, List.filter_append, List.filter_filter,
        List.cons_append]
      simp only [hnew]

theorem map_firstBy : ∀ xs : List α, (firstBy key xs).map key = (xs.map key).eraseDups
  | [] => rfl
  | x :: xs => by
      have hlength := List.length_filter_le (fun y => key y != key x) xs
      have hrest := map_firstBy (xs.filter fun y => key y != key x)
      rw [firstBy_filter fun k => k != key x] at hrest
      rw [firstBy, List.map_cons, List.map_cons, List.eraseDups_cons, hrest, List.filter_map]
      rfl
termination_by xs => xs.length

end FirstBy

/-! ## `distinct` -/

theorem distinct_eq_eraseDups (xs : List String) : distinct xs = xs.eraseDups := by
  have h : (distinct xs).map id = (xs.map id).eraseDups := map_firstBy xs
  rwa [List.map_id, List.map_id] at h

@[simp] theorem mem_distinct {x : String} {xs : List String} : x ∈ distinct xs ↔ x ∈ xs := by
  have h : x ∈ (distinct xs).map id ↔ x ∈ xs.map id := mem_map_firstBy
  simpa only [List.map_id] using h

theorem nodup_distinct (xs : List String) : (distinct xs).Nodup := by
  have h : ((distinct xs).map id).Nodup := nodup_map_firstBy xs
  simpa only [List.map_id] using h

/-! ## Selections -/

theorem filter_key_eq_singleton {key : α → String} {x : α} :
    ∀ {xs : List α}, (xs.map key).Nodup → x ∈ xs → xs.filter (key · == key x) = [x]
  | y :: ys, hnodup, hx => by
      rw [List.map_cons, List.nodup_cons] at hnodup
      by_cases hkey : key y = key x
      · have hys : ys.filter (key · == key x) = [] := by
          refine List.filter_eq_nil_iff.mpr fun z hz hzx => hnodup.1 ?_
          exact List.mem_map.mpr ⟨z, hz, (beq_iff_eq.mp hzx).trans hkey.symm⟩
        rcases List.mem_cons.mp hx with rfl | hx
        · simp [hys]
        · exact absurd (List.mem_map.mpr ⟨x, hx, hkey.symm⟩) hnodup.1
      · rcases List.mem_cons.mp hx with rfl | hx
        · exact absurd rfl hkey
        · simp [hkey, filter_key_eq_singleton hnodup.2 hx]

theorem flatMap_filter_of_eq_nil {β : Type} {p : α → Bool} {f : α → List β} {xs : List α}
    (h : ∀ x ∈ xs, p x = false → f x = []) : (xs.filter p).flatMap f = xs.flatMap f := by
  induction xs with
  | nil => rfl
  | cons x xs ih =>
      have hrest := ih fun y hy => h y (List.mem_cons_of_mem x hy)
      cases hx : p x with
      | true => rw [List.filter_cons_of_pos hx, List.flatMap_cons, List.flatMap_cons, hrest]
      | false =>
          rw [List.filter_cons_of_neg (by simp [hx]), List.flatMap_cons, hrest,
            h x List.mem_cons_self hx, List.nil_append]

theorem perm_flatMap_filter {β : Type} [BEq β] [LawfulBEq β] (key : α → β) :
    ∀ {keys : List β} {xs : List α}, keys.Nodup → (∀ x ∈ xs, key x ∈ keys) →
      (keys.flatMap fun k => xs.filter (key · == k)).Perm xs
  | [], xs, _, hmem => by
      have hnil : xs = [] := List.eq_nil_iff_forall_not_mem.mpr fun x hx => nomatch hmem x hx
      rw [hnil, List.flatMap_nil]
  | k :: keys, xs, hkeys, hmem => by
      obtain ⟨hk, hkeys⟩ := List.nodup_cons.mp hkeys
      have hrest : ∀ x ∈ xs.filter (!key · == k), key x ∈ keys := by
        intro x hx
        obtain ⟨hx, hne⟩ := List.mem_filter.mp hx
        exact (List.mem_cons.mp (hmem x hx)).resolve_left (by simpa using hne)
      -- the parts of the other keys do not miss what has the first one
      have hparts : (keys.flatMap fun k' => xs.filter (key · == k')) =
          keys.flatMap fun k' => (xs.filter (!key · == k)).filter (key · == k') := by
        refine List.flatMap_congr fun k' hk' => ?_
        rw [List.filter_filter]
        refine List.filter_congr fun x _ => ?_
        by_cases hx : key x = k'
        · have hne : k' ≠ k := fun h => hk (h ▸ hk')
          simp [hx, hne]
        · simp [hx]
      rw [List.flatMap_cons, hparts]
      exact ((perm_flatMap_filter key hkeys hrest).append_left _).trans (List.filter_append_perm _ xs)

/-- A selection that takes the same images and more of them has the images of the other among its
own. -/
theorem filterMap_sublist_filterMap {β : Type} {f g : α → Option β}
    (h : ∀ x y, f x = some y → g x = some y) (xs : List α) :
    (xs.filterMap f).Sublist (xs.filterMap g) := by
  induction xs with
  | nil => exact .slnil
  | cons x xs ih =>
      cases hf : f x with
      | some y =>
          rw [List.filterMap_cons_some hf, List.filterMap_cons_some (h x y hf)]
          exact ih.cons_cons y
      | none =>
          rw [List.filterMap_cons_none hf]
          cases hg : g x with
          | none =>
              rw [List.filterMap_cons_none hg]
              exact ih
          | some y =>
              rw [List.filterMap_cons_some hg]
              exact ih.cons y

theorem map_filterMap_eq_filter {β : Type} {g : β → Option α} {key : α → β}
    (hkey : ∀ b a, g b = some a → key a = b) (bs : List β) :
    (bs.filterMap g).map key = bs.filter fun b => (g b).isSome := by
  induction bs with
  | nil => rfl
  | cons b bs ih =>
      cases hb : g b with
      | none => simp [hb, ih]
      | some a => simp [hb, ih, hkey b a hb]

end Signoff

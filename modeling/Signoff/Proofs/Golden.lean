/-
# `Signoff.Proofs.Golden` — what a comparison with placeholders sees

Before two reports are compared, a few members are replaced by placeholders: points in time wherever
they are, and the version of the tool where the root is a report.  `Replaces` says which members
these are, and `Kept` is a path that leads through none of them.  Along such a path nothing is
changed (`Kept.alike_normalize`), at its end a replaced member becomes its placeholder
(`Replaces.at?_normalize`), and there are no other paths (`kept_or_replaces`).  So what is replaced is
replaced whole, a report that merely lies inside another value keeps its version, and nothing is
added or lost beside the placeholders.

Replacing the version and masking points in time do not get into each other's way
(`maskTimes_maskRoot`), and each of them does nothing a second time; this is all that normalizing
twice comes to.
-/
import Mathlib.Data.List.Induction
import Mathlib.Data.List.Infix
import Signoff.Golden
import Signoff.Proofs.Json.Paths

namespace Signoff.Golden

open Signoff.Json (Value)
open Signoff.Json.Value (Step Alike mapMember at?_append)

/-- The value has the members of a report. -/
def IsReport (root : Value) : Prop :=
  ∀ key ∈ ["schema", "tool", "check", "status", "groups"], (root.at? [.key key]).isSome = true

instance (root : Value) : Decidable (IsReport root) :=
  inferInstanceAs (Decidable (∀ key ∈ _, _))

/-- Behind the path, the step leads to a member that is replaced, and this is what it becomes. -/
inductive Replaces (root : Value) : List Step → Step → Value → Prop
  | startedAt (p : List Step) : Replaces root p (.key "started_at") timePlaceholder
  | finishedAt (p : List Step) : Replaces root p (.key "finished_at") timePlaceholder
  | version : IsReport root → Replaces root [.key "tool"] (.key "version") versionPlaceholder

/-- No step of the path leads to a member that is replaced. -/
structure Kept (root : Value) (p : List Step) : Prop where
  not_startedAt : .key "started_at" ∉ p
  not_finishedAt : .key "finished_at" ∉ p
  not_version : IsReport root → ¬ [.key "tool", .key "version"] <+: p

variable {root v w r : Value} {p : List Step} {step : Step} {key : String}

/-! ## Points in time -/

theorem isTimeKey_iff : isTimeKey key = true ↔ key = "started_at" ∨ key = "finished_at" := by
  simp [isTimeKey]

theorem maskItems_eq_map (items : List Value) : maskItems items = items.map maskTimes := by
  induction items with
  | nil => rfl
  | cons v vs ih => rw [maskItems, ih, List.map_cons]

theorem maskMembers_eq_map (members : List (String × Value)) :
    maskMembers members =
      members.map fun m => (m.1, if isTimeKey m.1 then timePlaceholder else maskTimes m.2) := by
  induction members with
  | nil => rfl
  | cons m ms ih => rw [maskMembers, ih, List.map_cons]

theorem lookup_maskMembers (members : List (String × Value)) :
    (maskMembers members).lookup key =
      (members.lookup key).map fun v => if isTimeKey key then timePlaceholder else maskTimes v := by
  rw [maskMembers_eq_map]
  exact Value.lookup_map_snd
    (fun k v => if isTimeKey k then timePlaceholder else maskTimes v) members

theorem alike_maskTimes (v : Value) : Alike v (maskTimes v) := by
  cases v with
  | array items => exact .array (by rw [maskItems_eq_map, List.length_map])
  | object members => exact .object (by simp [maskMembers_eq_map, Function.comp_def])
  | _ => exact .refl _

/-- Away from points in time, they can be masked before or after a path is followed. -/
theorem at?_maskTimes (v : Value) (h : ∀ key, .key key ∈ p → isTimeKey key = false) :
    (maskTimes v).at? p = (v.at? p).map maskTimes := by
  induction p generalizing v with
  | nil => rfl
  | cons step p ih =>
      have hrest := fun v => ih v fun key hkey => h key (List.mem_cons_of_mem step hkey)
      cases v with
      | array items =>
          cases step with
          | key name => rfl
          | item index =>
              rw [maskTimes, maskItems_eq_map, Value.at?, Value.at?, List.getElem?_map,
                Option.bind_map, Option.map_bind]
              simp only [Function.comp_def, hrest]
      | object members =>
          cases step with
          | item index => rfl
          | key name =>
              have hname := h name List.mem_cons_self
              rw [maskTimes, Value.at?, Value.at?, lookup_maskMembers, Option.bind_map,
                Option.map_bind]
              simp only [Function.comp_def, hname, hrest, Bool.false_eq_true, if_false]
      | _ => cases step <;> rfl

theorem at?_maskTimes_time (h : isTimeKey key = true) (v : Value) :
    (maskTimes v).at? [.key key] = (v.at? [.key key]).map fun _ => timePlaceholder := by
  cases v with
  | object members =>
      rw [maskTimes, Value.at?, Value.at?, lookup_maskMembers]
      simp [h, Value.at?]
  | _ => rfl

mutual

theorem maskTimes_maskTimes : ∀ v : Value, maskTimes (maskTimes v) = maskTimes v
  | .null | .bool _ | .number _ | .string _ => rfl
  | .array items => by rw [maskTimes, maskTimes, maskItems_maskItems items]
  | .object members => by rw [maskTimes, maskTimes, maskMembers_maskMembers members]

theorem maskItems_maskItems : ∀ items : List Value,
    maskItems (maskItems items) = maskItems items
  | [] => rfl
  | v :: vs => by rw [maskItems, maskItems, maskTimes_maskTimes v, maskItems_maskItems vs]

theorem maskMembers_maskMembers : ∀ members : List (String × Value),
    maskMembers (maskMembers members) = maskMembers members
  | [] => rfl
  | (k, v) :: ms => by
      rw [maskMembers, maskMembers, maskMembers_maskMembers ms]
      cases isTimeKey k with
      | true => rfl
      | false => simp [maskTimes_maskTimes v]

end

theorem maskTimes_mapMember {f : Value → Value} (hkey : isTimeKey key = false)
    (hf : ∀ w, maskTimes (f w) = f (maskTimes w)) (v : Value) :
    maskTimes (mapMember key f v) = mapMember key f (maskTimes v) := by
  cases v with
  | object members =>
      simp only [mapMember, maskTimes, maskMembers_eq_map, List.map_map, Function.comp_def]
      congr 1
      refine List.map_congr_left fun m _ => ?_
      by_cases hm : m.1 = key
      · simp [hm, hkey, hf]
      · simp [hm]
  | _ => rfl

/-! ## The version -/

def maskVersionOf : Value → Value := mapMember "version" fun _ => versionPlaceholder

def maskRoot (root : Value) : Value :=
  if IsReport root then mapMember "tool" maskVersionOf root else root

theorem IsReport.congr (h : Alike v w) : IsReport v ↔ IsReport w :=
  forall₂_congr fun key _ => (h.isSome_at?_key key).symm

theorem alike_maskRoot (root : Value) : Alike root (maskRoot root) := by
  rw [maskRoot]
  split
  · exact Value.alike_mapMember _ _ root
  · exact .refl root

theorem maskTool_eq_map (members : List (String × Value)) :
    maskTool members =
      members.map fun m => (m.1, if m.1 = "tool" then maskVersionOf m.2 else m.2) := by
  refine List.map_congr_left fun m _ => ?_
  obtain ⟨k, v⟩ := m
  cases v with
  | object tool =>
      have hversion : maskVersion tool =
          tool.map fun m => (m.1, if m.1 = "version" then versionPlaceholder else m.2) := by
        refine List.map_congr_left fun m _ => ?_
        by_cases hm : m.1 = "version" <;> simp [hm]
      rw [maskVersionOf, mapMember, ← hversion]
      by_cases hk : k = "tool" <;> simp [hk]
  | _ => simp [maskVersionOf, mapMember]

theorem normalize_eq (root : Value) : normalize root = maskTimes (maskRoot root) := by
  cases root with
  | object members =>
      have hreport : IsReport (.object members) ↔
          (envelopeKeys.all fun k => (members.lookup k).isSome) = true := by
        simp [IsReport, envelopeKeys, Value.at?]
      simp only [normalize, maskRoot, hreport]
      split
      · rw [mapMember, maskTool_eq_map]
      · rfl
  | _ =>
      rw [maskRoot]
      split <;> rfl

theorem maskTimes_maskRoot (root : Value) :
    maskTimes (maskRoot root) = maskRoot (maskTimes root) := by
  have hversion : ∀ w, maskTimes (maskVersionOf w) = maskVersionOf (maskTimes w) :=
    maskTimes_mapMember (by decide) fun _ => rfl
  rw [maskRoot, maskRoot, apply_ite maskTimes, maskTimes_mapMember (by decide) hversion]
  simp only [IsReport.congr (alike_maskTimes root)]

theorem maskRoot_maskRoot (root : Value) : maskRoot (maskRoot root) = maskRoot root := by
  have hversion : ∀ w, maskVersionOf (maskVersionOf w) = maskVersionOf w :=
    Value.mapMember_mapMember fun _ => rfl
  have hreport := IsReport.congr (alike_maskRoot root)
  by_cases h : IsReport root
  · rw [maskRoot, if_pos (hreport.mp h), maskRoot, if_pos h, Value.mapMember_mapMember hversion]
  · rw [maskRoot, if_neg (mt hreport.mpr h)]

theorem normalize_normalize (root : Value) : normalize (normalize root) = normalize root := by
  rw [normalize_eq root, normalize_eq, ← maskTimes_maskRoot, maskRoot_maskRoot,
    maskTimes_maskTimes]

/-! ## Along a path -/

namespace Kept

theorem nil (root : Value) : Kept root [] :=
  ⟨List.not_mem_nil, List.not_mem_nil, fun _ h => nomatch List.prefix_nil.mp h⟩

theorem not_time (h : Kept root p) (hkey : .key key ∈ p) : isTimeKey key = false := by
  rw [← Bool.not_eq_true, isTimeKey_iff]
  rintro (rfl | rfl)
  · exact h.not_startedAt hkey
  · exact h.not_finishedAt hkey

theorem concat (h : Kept root p) (hstep : ∀ r, ¬ Replaces root p step r) :
    Kept root (p ++ [step]) where
  not_startedAt hmem := by
    rcases List.mem_append.mp hmem with hmem | hmem
    · exact h.not_startedAt hmem
    · obtain rfl := List.mem_singleton.mp hmem
      exact hstep _ (.startedAt p)
  not_finishedAt hmem := by
    rcases List.mem_append.mp hmem with hmem | hmem
    · exact h.not_finishedAt hmem
    · obtain rfl := List.mem_singleton.mp hmem
      exact hstep _ (.finishedAt p)
  not_version hreport hprefix := by
    rcases List.prefix_concat_iff.mp hprefix with hpath | hprefix
    · have hends : [Step.key "tool"] ++ [Step.key "version"] = p ++ [step] := hpath
      obtain ⟨rfl, hlast⟩ := List.append_inj' hends rfl
      obtain rfl := List.singleton_inj.mp hlast
      exact hstep _ (.version hreport)
    · exact h.not_version hreport hprefix

theorem alike_maskRoot (h : Kept root p) :
    Option.Rel Alike (root.at? p) ((maskRoot root).at? p) := by
  by_cases hreport : IsReport root
  · rw [maskRoot, if_pos hreport]
    refine Value.alike_at?_mapMember fun tool q hp => Value.alike_at?_mapMember fun w q' hq => ?_
    have hprefix : [.key "tool", .key "version"] <+: p := ⟨q', by rw [hp, hq]; rfl⟩
    exact absurd hprefix (h.not_version hreport)
  · rw [maskRoot, if_neg hreport]
    exact Value.alike_at?_refl root p

theorem alike_normalize (h : Kept root p) :
    Option.Rel Alike (root.at? p) ((normalize root).at? p) := by
  have halike := h.alike_maskRoot
  rw [normalize_eq, at?_maskTimes _ fun _ => h.not_time]
  generalize root.at? p = o, (maskRoot root).at? p = o' at halike ⊢
  cases halike with
  | none => exact .none
  | some halike => exact .some (halike.trans (alike_maskTimes _))

theorem at?_normalize_time (h : Kept root p) (hkey : isTimeKey key = true) :
    (normalize root).at? (p ++ [.key key]) =
      (root.at? (p ++ [.key key])).map fun _ => timePlaceholder := by
  have halike := h.alike_maskRoot
  rw [normalize_eq, at?_append, at?_append, at?_maskTimes _ fun _ => h.not_time, Option.bind_map,
    Option.map_bind]
  simp only [Function.comp_def, at?_maskTimes_time hkey]
  generalize root.at? p = o, (maskRoot root).at? p = o' at halike ⊢
  cases halike with
  | none => rfl
  | some halike => exact halike.map_at?_key timePlaceholder

end Kept

namespace Replaces

theorem at?_normalize (hr : Replaces root p step r) (hp : Kept root p) :
    (normalize root).at? (p ++ [step]) = (root.at? (p ++ [step])).map fun _ => r := by
  cases hr with
  | startedAt => exact hp.at?_normalize_time (by decide)
  | finishedAt => exact hp.at?_normalize_time (by decide)
  | version hreport =>
      have htime : ∀ key, .key key ∈ [Step.key "tool", Step.key "version"] →
          isTimeKey key = false := by simp [isTimeKey]
      have htool : root.at? [.key "tool", .key "version"] =
          (root.at? [.key "tool"]).bind (·.at? [.key "version"]) :=
        at?_append root [.key "tool"] [.key "version"]
      rw [List.singleton_append, normalize_eq, at?_maskTimes _ htime, maskRoot, if_pos hreport,
        Value.at?_mapMember_self, htool, Option.map_bind, Option.map_bind]
      congr 1
      funext tool
      rw [Function.comp_apply, maskVersionOf, Value.at?_mapMember_self, Function.comp_apply]
      cases tool.at? [.key "version"] <;> rfl

theorem at?_below (hr : Replaces root p step r) (hp : Kept root p) (inner : Step)
    (rest : List Step) : (normalize root).at? (p ++ step :: inner :: rest) = none := by
  have hpart : r.at? (inner :: rest) = none := by
    cases hr <;> exact Value.at?_string_cons
  rw [List.append_cons, at?_append, hr.at?_normalize hp]
  cases root.at? (p ++ [step]) with
  | none => rfl
  | some v => exact hpart

end Replaces

/-- A path is kept, or there is a first replaced member on it. -/
theorem kept_or_replaces (root : Value) (p : List Step) :
    Kept root p ∨
      ∃ q step r rest, p = q ++ step :: rest ∧ Kept root q ∧ Replaces root q step r := by
  induction p using List.reverseRecOn with
  | nil => exact .inl (.nil root)
  | append_singleton p step ih =>
      rcases ih with hkept | ⟨q, first, r, rest, rfl, hkept, hr⟩
      · by_cases hstep : ∃ r, Replaces root p step r
        · obtain ⟨r, hr⟩ := hstep
          exact .inr ⟨p, step, r, [], rfl, hkept, hr⟩
        · exact .inl (hkept.concat (not_exists.mp hstep))
      · refine .inr ⟨q, first, r, rest ++ [step], ?_, hkept, hr⟩
        rw [List.append_assoc, List.cons_append]

/-- **Golden reports.**  Normalizing twice is normalizing once.  Along every path without a replaced
member the normalized value is the value itself; a replaced member at the end of such a path becomes
its placeholder, if it is there, and nothing is left of what was in it; and this speaks of all
paths. -/
theorem normalize_frame (root : Value) :
    normalize (normalize root) = normalize root ∧
      (∀ p, Kept root p → Option.Rel Alike (root.at? p) ((normalize root).at? p)) ∧
      (∀ p step r, Kept root p → Replaces root p step r →
        (normalize root).at? (p ++ [step]) = ((root.at? (p ++ [step])).map fun _ => r) ∧
          ∀ inner rest, (normalize root).at? (p ++ step :: inner :: rest) = none) ∧
      ∀ p, Kept root p ∨
        ∃ q step r rest, p = q ++ step :: rest ∧ Kept root q ∧ Replaces root q step r :=
  ⟨normalize_normalize root, fun _ h => h.alike_normalize,
    fun _ _ _ hp hr => ⟨hr.at?_normalize hp, hr.at?_below hp⟩, kept_or_replaces root⟩

/-- A report in a group of a report: the version of the inner one is kept, and that of the outer one
is replaced with all that is in it. -/
theorem normalize_frame_nested :
    let inner : Value :=
      .object [("check", .null), ("groups", .array []), ("schema", .null), ("status", .null),
        ("tool", .object [("version", .string "1")])]
    let root : Value :=
      .object [("check", .null), ("groups", .array [inner]), ("schema", .null), ("status", .null),
        ("tool", .object [("version", .object [("started_at", .null)])])]
    IsReport inner ∧ IsReport root ∧
      Kept root [.key "groups", .item 0, .key "tool", .key "version"] ∧
      (normalize root).at? [.key "groups", .item 0, .key "tool", .key "version"] =
        some (.string "1") ∧
      (normalize root).at? [.key "tool", .key "version"] = some versionPlaceholder ∧
      (normalize root).at? [.key "tool", .key "version", .key "started_at"] = none := by
  intro inner root
  have hreport : IsReport root := by decide
  have hkept : Kept root [.key "groups", .item 0, .key "tool", .key "version"] :=
    ⟨by decide, by decide, fun _ => by decide⟩
  have htool : Kept root [.key "tool"] := ⟨by decide, by decide, fun _ => by decide⟩
  obtain ⟨-, hframe, hreplaced, -⟩ := normalize_frame root
  have hinner := hframe _ hkept
  obtain ⟨hversion, hbelow⟩ := hreplaced _ _ _ htool (.version hreport)
  refine ⟨by decide, hreport, hkept, ?_, hversion, hbelow (.key "started_at") []⟩
  have hroot : root.at? [.key "groups", .item 0, .key "tool", .key "version"] =
      some (.string "1") := rfl
  rw [hroot] at hinner
  generalize (normalize root).at? _ = o at hinner ⊢
  cases hinner with
  | some halike =>
      cases halike
      rfl

end Signoff.Golden

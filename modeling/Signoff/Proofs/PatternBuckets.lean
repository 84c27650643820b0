/-
# `Signoff.Proofs.PatternBuckets` — the buckets of a pattern check, in their order

`Classification.Sorts` says which names each bucket has.  Here it is said in which order they stand,
and with which findings.  The patterns that are found and the ones that are missing are two
subsequences of the declared patterns without their repetitions; what is extra is a subsequence of
the findings.  A pattern is judged by the first finding with its name, wherever that stands and
whatever follows it, so the two subsequences are told apart by one look-up for each pattern.
-/
import Signoff.Proofs.Provenance

namespace Signoff.PatternPartition

open Finding (FirstFor Reported occurs identifier)

variable {s : Scoping} {fs : List Finding} {ps : List String} {p : String}

/-! ## Judging a pattern -/

theorem isSome_foundFor?_existence : (foundFor? .existence fs p).isSome = occurs p fs := by
  rw [Bool.eq_iff_iff, Finding.occurs_iff, Option.isSome_iff_exists, ← Finding.exists_firstFor_iff]
  simp only [foundFor?_eq_some_iff, and_true]

theorem isSome_missingFor?_existence : (missingFor? .existence fs p).isSome = !occurs p fs := by
  rw [Bool.eq_iff_iff, Bool.not_eq_true', ← Bool.not_eq_true, Finding.occurs_iff,
    Option.isSome_iff_exists]
  simp only [missingFor?_eq_some_iff, exists_and_left, exists_eq, and_true]

theorem isSome_foundFor?_status {correct : Finding → Bool} :
    (foundFor? (.status correct) fs p).isSome = (Finding.forPattern? fs p).any correct := by
  cases h : Finding.forPattern? fs p with
  | none => simp [foundFor?, h]
  | some f => cases hf : correct f <;> simp [foundFor?, h, hf]

theorem isSome_missingFor?_status {correct : Finding → Bool} :
    (missingFor? (.status correct) fs p).isSome =
      (Finding.forPattern? fs p).any fun f => !correct f := by
  cases h : Finding.forPattern? fs p with
  | none => simp [missingFor?, h]
  | some f => cases hf : correct f <;> simp [missingFor?, h, hf]

/-! ## The findings in the buckets -/

theorem firstFor_of_mem_found {f : Finding} (h : f ∈ (classify s fs ps).found) :
    FirstFor f.identifier f fs := by
  obtain ⟨p, -, hp⟩ := List.mem_filterMap.mp h
  have hfirst := (foundFor?_eq_some_iff.mp hp).1
  exact hfirst.name_eq ▸ hfirst

theorem firstFor_of_mem_missing {correct : Finding → Bool} {f : Finding}
    (h : f ∈ (classify (.status correct) fs ps).missing) : FirstFor f.identifier f fs := by
  obtain ⟨p, -, hp⟩ := List.mem_filterMap.mp h
  have hfirst := (missingFor?_eq_some_iff.mp hp).1
  exact hfirst.name_eq ▸ hfirst

theorem bare_of_mem_missing {f : Finding} (h : f ∈ (classify .existence fs ps).missing) :
    f = { identifier := f.identifier } := by
  obtain ⟨p, -, hp⟩ := List.mem_filterMap.mp h
  rw [(missingFor?_eq_some_iff.mp hp).2]

theorem sublist_extra : (classify s fs ps).extra.Sublist fs :=
  List.filter_sublist.trans (firstBy_sublist fs)

theorem names_extra :
    (classify s fs ps).extra.map identifier =
      (fs.map identifier).eraseDups.filter fun name => !ps.contains name := by
  rw [← map_firstBy, List.filter_map]
  rfl

/-- No name is in two buckets or twice in one. -/
theorem nodup_names :
    (((classify s fs ps).found ++ (classify s fs ps).missing ++ (classify s fs ps).extra).map
      identifier).Nodup := by
  have hperm : ((classify s fs ps).found ++ (classify s fs ps).missing ++
      (classify s fs ps).extra).Perm
        ((classify s fs ps).missing ++ ((classify s fs ps).extra ++ (classify s fs ps).found)) := by
    rw [List.append_assoc, ← List.append_assoc (classify s fs ps).missing]
    exact List.perm_append_comm
  rw [(hperm.map identifier).nodup_iff, List.map_append, List.map_append]
  exact (Classification.sorts_pattern s fs ps).nodup_names

/-! ## The whole -/

/-- **Patterns.**  Every pattern and every finding gets one place.  Found and missing patterns stand
in the order in which the patterns were declared first, what is extra stands in the order of the
findings, and what is kept of a name is its first finding. -/
theorem classify_in_order (s : Scoping) (fs : List Finding) (ps : List String) :
    let c := classify s fs ps
    ((c.found ++ c.missing ++ c.extra).map identifier).Nodup ∧
      (∀ f ∈ c.found ++ c.extra, FirstFor f.identifier f fs) ∧
      c.extra.Sublist fs ∧
      c.extra.map identifier =
        (fs.map identifier).eraseDups.filter (fun name => !ps.contains name) ∧
      match s with
      | .existence =>
          c.found.map identifier = ps.eraseDups.filter (fun p => occurs p fs) ∧
            c.missing.map identifier = ps.eraseDups.filter (fun p => !occurs p fs) ∧
            ∀ f ∈ c.missing, f.line = none ∧ f.path = none ∧ f.detail = ""
      | .status correct =>
          c.found.map identifier =
              ps.eraseDups.filter (fun p => (fs.find? (·.identifier == p)).any correct) ∧
            c.missing.map identifier =
              ps.eraseDups.filter (fun p => (fs.find? (·.identifier == p)).any (!correct ·)) ∧
            ∀ f ∈ c.missing, FirstFor f.identifier f fs := by
  intro c
  have hfirst : ∀ f ∈ c.found ++ c.extra, FirstFor f.identifier f fs := by
    intro f hf
    rcases List.mem_append.mp hf with hf | hf
    · exact firstFor_of_mem_found hf
    · exact (mem_extra.mp hf).1
  refine ⟨nodup_names, hfirst, sublist_extra, names_extra, ?_⟩
  cases s with
  | existence =>
      have hfound : c.found.map identifier = _ := names_found
      have hmissing : c.missing.map identifier = _ := names_missing
      simp only [isSome_foundFor?_existence, isSome_missingFor?_existence, distinct_eq_eraseDups]
        at hfound hmissing
      refine ⟨hfound, hmissing, ?_⟩
      intro f hf
      rw [bare_of_mem_missing hf]
      exact ⟨rfl, rfl, rfl⟩
  | status correct =>
      have hfound : c.found.map identifier = _ := names_found
      have hmissing : c.missing.map identifier = _ := names_missing
      simp only [isSome_foundFor?_status, isSome_missingFor?_status, distinct_eq_eraseDups]
        at hfound hmissing
      exact ⟨hfound, hmissing, fun f hf => firstFor_of_mem_missing hf⟩

/-- `B` is judged by its first finding, `C` has none, and `X` is reported twice. -/
example :
    let fs : List Finding :=
      [⟨"X", some 1, none, ""⟩, ⟨"B", some 2, none, "bad"⟩, ⟨"A", some 3, none, "ok"⟩,
       ⟨"X", some 4, none, ""⟩, ⟨"B", some 5, none, "ok"⟩]
    classify (.status fun f => f.detail == "ok") fs ["C", "B", "A", "B"] =
      { found := [⟨"A", some 3, none, "ok"⟩]
        missing := [⟨"B", some 2, none, "bad"⟩]
        extra := [⟨"X", some 1, none, ""⟩] } := by
  decide

end Signoff.PatternPartition

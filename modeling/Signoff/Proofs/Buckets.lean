/-
# `Signoff.Proofs.Buckets` — the buckets hold what the evidence says

What the evidence says of an identifier can be read off it without deduplication, filters or
partitions: an identifier is a violation (`RawViolation`), satisfied (`RawSatisfied`) or extra
(`RawExtra`), and never two of these.  Classification goes through all of that, and
`Classification.Sorts` says that it makes no difference: the buckets have exactly these identifiers,
each once, and every finding in them is the first of its name (`Origin`).  Later proofs read the
buckets through `classify_sorts` and never open the classifier again.
-/
import Signoff.Classification
import Signoff.Proofs.Firsts

namespace Signoff

/-! ## What the evidence says -/

namespace Finding

/-- `f` is the first finding with the name. -/
abbrev FirstFor (name : String) (f : Finding) (fs : List Finding) : Prop :=
  IsFirst (·.identifier == name) f fs

/-- Some finding has the name. -/
def Reported (name : String) (fs : List Finding) : Prop := ∃ f ∈ fs, f.identifier = name

theorem FirstFor.name_eq {name : String} {f : Finding} {fs : List Finding}
    (h : FirstFor name f fs) : f.identifier = name := by
  simpa using h.1

theorem FirstFor.reported {name : String} {f : Finding} {fs : List Finding}
    (h : FirstFor name f fs) : Reported name fs :=
  ⟨f, h.mem, h.name_eq⟩

theorem exists_firstFor_iff {name : String} {fs : List Finding} :
    (∃ f, FirstFor name f fs) ↔ Reported name fs := by
  simp [exists_isFirst_iff, Reported]

/-- A bucket that keeps the first finding of every name of some kind has the names of that kind. -/
theorem mem_names_iff {bucket fs : List Finding} {kind : String → Prop}
    (h : ∀ f, f ∈ bucket ↔ FirstFor f.identifier f fs ∧ kind f.identifier) (name : String) :
    name ∈ bucket.map identifier ↔ Reported name fs ∧ kind name := by
  rw [List.mem_map]
  constructor
  · rintro ⟨f, hf, rfl⟩
    exact ⟨((h f).mp hf).1.reported, ((h f).mp hf).2⟩
  · rintro ⟨hr, hk⟩
    obtain ⟨f, hf⟩ := exists_firstFor_iff.mpr hr
    obtain rfl := hf.name_eq
    exact ⟨f, (h f).mpr ⟨hf, hk⟩, rfl⟩

theorem occurs_iff {name : String} {fs : List Finding} :
    occurs name fs = true ↔ Reported name fs := by
  simp [occurs, Reported]

theorem forPattern?_eq_some_iff {name : String} {f : Finding} {fs : List Finding} :
    forPattern? fs name = some f ↔ FirstFor name f fs :=
  find?_eq_some_iff_isFirst

theorem forPattern?_eq_none_iff {name : String} {fs : List Finding} :
    forPattern? fs name = none ↔ ¬ Reported name fs := by
  simp [forPattern?, Reported]

end Finding

open Finding (FirstFor Reported)

/-- Everything that was reported; the violations of a split come before its passes. -/
def Evidence.records : Evidence → List Finding
  | .scoped findings => findings
  | .split violations passes => violations ++ passes

/-- The evidence has the shape that the type asks for. -/
def Evidence.Fits (type : CheckType) : Evidence → Prop
  | .scoped _ => type.usesPatterns = true
  | .split _ _ => type.usesPatterns = false

/-- The evidence speaks against the name.  In a split, it is reported as a violation, whatever else
is said of it.  Scoped against patterns, it is a pattern without a finding, or, where findings are
judged, a pattern whose first finding is not correct. -/
def RawViolation (s : Scoping) (patterns : List String) (e : Evidence) (name : String) : Prop :=
  match e with
  | .split violations _ => Reported name violations
  | .scoped findings =>
      name ∈ patterns ∧
        match s with
        | .existence => ¬ Reported name findings
        | .status correct => ∃ f, FirstFor name f findings ∧ correct f = false

/-- The evidence speaks for the name. -/
def RawSatisfied (s : Scoping) (patterns : List String) (e : Evidence) (name : String) : Prop :=
  match e with
  | .split violations passes => Reported name passes ∧ ¬ Reported name violations
  | .scoped findings =>
      name ∈ patterns ∧
        match s with
        | .existence => Reported name findings
        | .status correct => ∃ f, FirstFor name f findings ∧ correct f = true

/-- The evidence has the name outside the declared scope. -/
def RawExtra (patterns : List String) (e : Evidence) (name : String) : Prop :=
  match e with
  | .split _ _ => False
  | .scoped findings => Reported name findings ∧ name ∉ patterns

section Exclusive

variable {s : Scoping} {patterns : List String} {name : String}

theorem RawViolation.not_satisfied : ∀ {e : Evidence}, RawViolation s patterns e name →
    ¬ RawSatisfied s patterns e name
  | .split _ _, hv, hs => hs.2 hv
  | .scoped _, hv, hs => by
      cases s with
      | existence => exact hv.2 hs.2
      | status correct =>
          obtain ⟨f, hf, hbad⟩ := hv.2
          obtain ⟨g, hg, hgood⟩ := hs.2
          rw [hf.unique hg, hgood] at hbad
          exact Bool.noConfusion hbad

theorem RawExtra.not_violation : ∀ {e : Evidence}, RawExtra patterns e name →
    ¬ RawViolation s patterns e name
  | .scoped _, hx, hv => hx.2 hv.1

theorem RawExtra.not_satisfied : ∀ {e : Evidence}, RawExtra patterns e name →
    ¬ RawSatisfied s patterns e name
  | .scoped _, hx, hs => hx.2 hs.1

end Exclusive

/-- Where a finding in a bucket comes from. -/
inductive Origin (e : Evidence) : Finding → Prop
  /-- It is the first record with its name. -/
  | recorded {f : Finding} : FirstFor f.identifier f e.records → Origin e f
  /-- Nothing is recorded under the name, and the finding is nothing but that name. -/
  | absent {name : String} : ¬ Reported name e.records → Origin e { identifier := name }

namespace Origin

variable {e : Evidence} {f g : Finding}

theorem eq_of_firstFor (h : Origin e f) (hg : FirstFor f.identifier g e.records) : f = g := by
  cases h with
  | recorded hf => exact hf.unique hg
  | absent hnone => exact absurd hg.reported hnone

theorem eq_of_not_reported (h : Origin e f) (hnone : ¬ Reported f.identifier e.records) :
    f = { identifier := f.identifier } := by
  cases h with
  | recorded hf => exact absurd hf.reported hnone
  | absent _ => rfl

end Origin

/-! ## The buckets of a pattern check -/

namespace PatternPartition

variable {s : Scoping} {fs : List Finding} {patterns : List String}

theorem foundFor?_eq_some_iff {p : String} {f : Finding} :
    foundFor? s fs p = some f ↔
      FirstFor p f fs ∧ match s with
        | .existence => True
        | .status correct => correct f = true := by
  rw [← Finding.forPattern?_eq_some_iff]
  cases s with
  | existence => cases h : Finding.forPattern? fs p <;> simp [foundFor?, h]
  | status correct =>
      cases h : Finding.forPattern? fs p with
      | none => simp [foundFor?, h]
      | some g =>
          simp only [foundFor?, h, Option.ite_none_right_eq_some, Option.some.injEq]
          constructor
          · rintro ⟨hg, rfl⟩; exact ⟨rfl, hg⟩
          · rintro ⟨rfl, hg⟩; exact ⟨hg, rfl⟩

theorem missingFor?_eq_some_iff {p : String} {f : Finding} :
    missingFor? s fs p = some f ↔
      match s with
      | .existence => ¬ Reported p fs ∧ f = { identifier := p }
      | .status correct => FirstFor p f fs ∧ correct f = false := by
  cases s with
  | existence =>
      rw [← Finding.forPattern?_eq_none_iff]
      cases h : Finding.forPattern? fs p <;> simp [missingFor?, h, eq_comm]
  | status correct =>
      rw [← Finding.forPattern?_eq_some_iff]
      cases h : Finding.forPattern? fs p with
      | none => simp [missingFor?, h]
      | some g =>
          simp only [missingFor?, h, Option.ite_none_left_eq_some, Option.some.injEq,
            Bool.not_eq_true]
          constructor
          · rintro ⟨hg, rfl⟩; exact ⟨rfl, hg⟩
          · rintro ⟨rfl, hg⟩; exact ⟨hg, rfl⟩

theorem name_of_foundFor? (p : String) (f : Finding) (h : foundFor? s fs p = some f) :
    f.identifier = p :=
  (foundFor?_eq_some_iff.mp h).1.name_eq

theorem name_of_missingFor? (p : String) (f : Finding) (h : missingFor? s fs p = some f) :
    f.identifier = p := by
  have h := missingFor?_eq_some_iff.mp h
  cases s with
  | existence => rw [h.2]
  | status correct => exact h.1.name_eq

theorem names_found :
    (classify s fs patterns).found.map Finding.identifier =
      (distinct patterns).filter fun p => (foundFor? s fs p).isSome :=
  map_filterMap_eq_filter name_of_foundFor? _

theorem names_missing :
    (classify s fs patterns).missing.map Finding.identifier =
      (distinct patterns).filter fun p => (missingFor? s fs p).isSome :=
  map_filterMap_eq_filter name_of_missingFor? _

theorem mem_extra {f : Finding} :
    f ∈ (classify s fs patterns).extra ↔ FirstFor f.identifier f fs ∧ f.identifier ∉ patterns := by
  simp [classify, Finding.firsts, mem_firstBy]

end PatternPartition

/-! ## The buckets of a boolean check -/

namespace BooleanPartition

variable {violations passes : List Finding}

theorem mem_violations {f : Finding} :
    f ∈ (classify violations passes).violations ↔ FirstFor f.identifier f violations :=
  mem_firstBy

theorem mem_passes {f : Finding} :
    f ∈ (classify violations passes).passes ↔
      FirstFor f.identifier f passes ∧ ¬ Reported f.identifier violations := by
  simp [classify, Finding.firsts, mem_firstBy, ← Finding.occurs_iff]

end BooleanPartition

/-! ## Classification -/

namespace Classification

variable {s : Scoping} {patterns : List String} {e : Evidence} {c : Classification}

/-- The buckets have exactly the names that the evidence puts there, each once, and only findings
of the evidence. -/
structure Sorts (s : Scoping) (patterns : List String) (e : Evidence) (c : Classification) :
    Prop where
  mem_violations : ∀ name, name ∈ c.violations.map Finding.identifier ↔
    RawViolation s patterns e name
  mem_satisfied : ∀ name, name ∈ c.satisfied.map Finding.identifier ↔
    RawSatisfied s patterns e name
  mem_extra : ∀ name, name ∈ c.extra.map Finding.identifier ↔ RawExtra patterns e name
  nodup_violations : (c.violations.map Finding.identifier).Nodup
  nodup_satisfied : (c.satisfied.map Finding.identifier).Nodup
  nodup_extra : (c.extra.map Finding.identifier).Nodup
  origin : ∀ f, f ∈ c.violations ∨ f ∈ c.satisfied ∨ f ∈ c.extra → Origin e f

theorem sorts_pattern (s : Scoping) (fs : List Finding) (patterns : List String) :
    Sorts s patterns (.scoped fs) (.pattern (.classify s fs patterns)) where
  mem_violations name := by
    simp only [violations, PatternPartition.names_missing, List.mem_filter, mem_distinct,
      RawViolation, Option.isSome_iff_exists, PatternPartition.missingFor?_eq_some_iff]
    cases s <;> simp
  mem_satisfied name := by
    simp only [satisfied, PatternPartition.names_found, List.mem_filter, mem_distinct,
      RawSatisfied, Option.isSome_iff_exists, PatternPartition.foundFor?_eq_some_iff]
    cases s <;> simp [Finding.exists_firstFor_iff]
  mem_extra := Finding.mem_names_iff fun _ => PatternPartition.mem_extra
  nodup_violations := by
    rw [violations, PatternPartition.names_missing]
    exact (nodup_distinct patterns).filter _
  nodup_satisfied := by
    rw [satisfied, PatternPartition.names_found]
    exact (nodup_distinct patterns).filter _
  nodup_extra := (nodup_map_firstBy fs).sublist (List.filter_sublist.map Finding.identifier)
  origin f hf := by
    rcases hf with hf | hf | hf
    · obtain ⟨p, -, hp⟩ := List.mem_filterMap.mp hf
      have hp := PatternPartition.missingFor?_eq_some_iff.mp hp
      cases s with
      | existence => rw [hp.2]; exact .absent hp.1
      | status correct => obtain rfl := hp.1.name_eq; exact .recorded hp.1
    · obtain ⟨p, -, hp⟩ := List.mem_filterMap.mp hf
      have hp := (PatternPartition.foundFor?_eq_some_iff.mp hp).1
      obtain rfl := hp.name_eq
      exact .recorded hp
    · exact .recorded (PatternPartition.mem_extra.mp hf).1

theorem sorts_boolean (s : Scoping) (patterns : List String) (vs ps : List Finding) :
    Sorts s patterns (.split vs ps) (.boolean (.classify vs ps)) where
  mem_violations _ := mem_map_firstBy.trans List.mem_map
  mem_satisfied := Finding.mem_names_iff fun _ => BooleanPartition.mem_passes
  mem_extra name := by simp [extra, RawExtra]
  nodup_violations := nodup_map_firstBy vs
  nodup_satisfied := (nodup_map_firstBy ps).sublist (List.filter_sublist.map Finding.identifier)
  nodup_extra := .nil
  origin f hf := by
    rcases hf with hf | hf | hf
    · exact .recorded ((BooleanPartition.mem_violations.mp hf).append_left ps)
    · obtain ⟨hf, hv⟩ := BooleanPartition.mem_passes.mp hf
      refine .recorded (hf.append_right fun g hg => ?_)
      simp only [beq_eq_false_iff_ne]
      exact fun hname => hv ⟨g, hg, hname⟩
    · exact absurd hf List.not_mem_nil

namespace Sorts

/-- What holds of a violation's name holds of a name that the evidence speaks against. -/
theorem exists_violation_iff (h : Sorts s patterns e c) {p : String → Prop} :
    (∃ f ∈ c.violations, p f.identifier) ↔ ∃ name, RawViolation s patterns e name ∧ p name := by
  simp only [← h.mem_violations, List.mem_map]
  constructor
  · rintro ⟨f, hf, hp⟩
    exact ⟨f.identifier, ⟨f, hf, rfl⟩, hp⟩
  · rintro ⟨_, ⟨f, hf, rfl⟩, hp⟩
    exact ⟨f, hf, hp⟩

theorem violations_ne_nil_iff (h : Sorts s patterns e c) :
    c.violations ≠ [] ↔ ∃ name, RawViolation s patterns e name := by
  have hany := h.exists_violation_iff (p := fun _ => True)
  simp only [and_true] at hany
  rw [← hany, ← List.isEmpty_eq_false_iff, List.isEmpty_eq_false_iff_exists_mem]

end Sorts

theorem classify_isOk_iff {type : CheckType} :
    (∃ c, classify type s patterns e = .ok c) ↔ e.Fits type := by
  cases hp : type.usesPatterns <;> cases e <;> simp [classify, Evidence.Fits, hp]

theorem classify_scoped_eq_ok_iff {type : CheckType} {fs : List Finding} :
    classify type s patterns (.scoped fs) = .ok c ↔
      type.usesPatterns = true ∧ c = .pattern (.classify s fs patterns) := by
  cases hp : type.usesPatterns with
  | true => simp [classify, hp, eq_comm]
  | false => simp [classify, hp]

/-- A classification that succeeds has sorted the evidence. -/
theorem classify_sorts {type : CheckType} (h : classify type s patterns e = .ok c) :
    Sorts s patterns e c := by
  cases hp : type.usesPatterns <;> cases e <;>
    simp only [classify, hp, Except.ok.injEq, reduceCtorEq] at h
  · subst h; exact sorts_boolean s patterns _ _
  · subst h; exact sorts_pattern s _ patterns

end Classification

end Signoff

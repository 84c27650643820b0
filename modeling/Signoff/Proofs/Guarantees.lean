/-
# `Signoff.Proofs.Guarantees` — what a resolved configuration guarantees

Whatever runs a check relies on what resolution has seen to: the identifier is not blank, no pattern
is declared twice, the waive entries are of one sort, a forced pass has a comment, and the globs
that will be matched are globs.  `Guarantees` puts all of it side by side, in terms of the document
and of the model that it came to.

Patterns are taken over and repetitions are reported by two different recursions.  Both are brought
back to positions: an entry is a repetition if it stands among those before it (`repeats`).  So
every entry is either kept or reported, and none is both (`perm_distinct_repeats`).  The comments of
a forced pass are worded in two places, when items are tagged and when the entries of a policy are
read, and `WaiveItem.commentText_named` says that the two wordings agree.
-/
import Mathlib
import Signoff.Proofs.Counts
import Signoff.Proofs.Matchers
import Signoff.Proofs.Resolution

namespace Signoff

/-! ## Kept and repeated entries -/

/-- The entries that stand among those before them. -/
def repeats (xs : List String) : List String :=
  (xs.zipIdx.filter fun x => (xs.take x.2).contains x.1).map Prod.fst

section Repeats

variable {x : String} {xs : List String}

theorem map_filter_zipIdx_cons (p : String → List String → Bool) :
    (((x :: xs).zipIdx.filter fun y => p y.1 ((x :: xs).take y.2)).map Prod.fst) =
      (if p x [] then [x] else []) ++
        (xs.zipIdx.filter fun y => p y.1 (x :: xs.take y.2)).map Prod.fst := by
  have hrest : (((xs.zipIdx 1).filter fun y => p y.1 ((x :: xs).take y.2)).map Prod.fst) =
      (xs.zipIdx.filter fun y => p y.1 (x :: xs.take y.2)).map Prod.fst := by
    rw [List.zipIdx_succ, List.filter_map, List.map_map]
    rfl
  rw [List.zipIdx_cons, List.filter_cons, ← hrest, List.take_zero]
  split <;> rfl

theorem distinct_cons : distinct (x :: xs) = x :: (distinct xs).filter (· != x) := rfl

theorem distinct_eq_nil_iff : distinct xs = [] ↔ xs = [] := by
  cases xs with
  | nil => exact Iff.rfl
  | cons x xs => exact iff_of_false (List.cons_ne_nil _ _) (List.cons_ne_nil _ _)

theorem distinct_eq_filter_zipIdx (xs : List String) :
    distinct xs = (xs.zipIdx.filter fun x => !(xs.take x.2).contains x.1).map Prod.fst := by
  induction xs with
  | nil => rfl
  | cons x xs ih =>
      have hnew : ∀ y : String × Nat, (!(x :: xs.take y.2).contains y.1) =
          ((y.1 != x) && !(xs.take y.2).contains y.1) := by
        intro y
        rw [List.contains_cons, Bool.not_or]
        rfl
      rw [map_filter_zipIdx_cons fun y seen => !seen.contains y, distinct_cons, ih]
      simp only [hnew]
      rw [← List.filter_filter, List.filter_map]
      rfl

/-- Every entry is kept or repeated. -/
theorem perm_distinct_repeats (xs : List String) : (distinct xs ++ repeats xs).Perm xs := by
  have hparts := (List.filter_append_perm (fun x : String × Nat => (xs.take x.2).contains x.1)
    xs.zipIdx).map Prod.fst
  rw [List.map_append, List.zipIdx_map_fst, ← distinct_eq_filter_zipIdx] at hparts
  exact List.perm_append_comm.trans hparts

theorem pairwise_idxOf_distinct (xs : List String) :
    (distinct xs).Pairwise fun x y => xs.idxOf x < xs.idxOf y := by
  induction xs with
  | nil => exact .nil
  | cons x xs ih =>
      have hlater : ∀ {y}, y ∈ (distinct xs).filter (· != x) →
          (x :: xs).idxOf y = xs.idxOf y + 1 := by
        intro y hy
        have hne : y ≠ x := by simpa using (List.mem_filter.mp hy).2
        exact List.idxOf_cons_ne xs hne.symm
      rw [distinct_cons, List.pairwise_cons]
      constructor
      · intro y hy
        rw [hlater hy, List.idxOf_cons_self]
        exact Nat.succ_pos _
      · refine (ih.filter _).imp_of_mem ?_
        intro y z hy hz hlt
        rw [hlater hy, hlater hz]
        exact Nat.succ_lt_succ hlt

end Repeats

namespace Config

variable {d : Document} {c : Resolved}

theorem contains_append_cons_of_mem {p y : String} {seen taken : List String} (h : p ∈ seen) :
    (seen ++ p :: taken).contains y = (seen ++ taken).contains y := by
  rw [Bool.eq_iff_iff, List.contains_iff_mem, List.contains_iff_mem, List.mem_append,
    List.mem_append, List.mem_cons]
  constructor
  · rintro (hy | rfl | hy)
    · exact .inl hy
    · exact .inl h
    · exact .inr hy
  · rintro (hy | hy)
    · exact .inl hy
    · exact .inr (.inr hy)

/-- One warning for each entry that stands among those before it or among `seen`. -/
theorem duplicateWarnings_eq_map (seen ps : List String) :
    duplicateWarnings seen ps =
      ((ps.zipIdx.filter fun x => (seen ++ ps.take x.2).contains x.1).map Prod.fst).map
        ("duplicate pattern_items entry ignored: " ++ ·) := by
  induction ps generalizing seen with
  | nil => rfl
  | cons p ps ih =>
      rw [map_filter_zipIdx_cons fun y taken => (seen ++ taken).contains y, List.append_nil,
        duplicateWarnings]
      split
      · rename_i h
        simp only [contains_append_cons_of_mem (List.contains_iff_mem.mp h)]
        rw [ih seen]
        rfl
      · have hmoved : ∀ y : String × Nat, (seen ++ p :: ps.take y.2).contains y.1 =
            (p :: seen ++ ps.take y.2).contains y.1 :=
          fun _ => List.perm_middle.contains_eq
        simp only [hmoved]
        rw [ih (p :: seen)]
        rfl

theorem duplicateWarnings_nil (ps : List String) :
    duplicateWarnings [] ps = (repeats ps).map ("duplicate pattern_items entry ignored: " ++ ·) :=
  duplicateWarnings_eq_map [] ps

/-! ## Comments -/

/-- The line that stands for an item where a pass is forced. -/
inductive CommentLine : WaiveItem → String → Prop
  | text (s : String) : CommentLine (.text s) s
  | bare (name : String) : CommentLine (.entry name "") name
  | justified (name : String) {reason : String} : reason ≠ "" →
      CommentLine (.entry name reason) (name ++ ": " ++ reason)

theorem WaiveItem.commentLine (item : WaiveItem) : CommentLine item item.commentText := by
  cases item with
  | text s => exact .text s
  | entry name reason =>
      by_cases h : reason = ""
      · subst h
        exact .bare name
      · have hreason : reason.isEmpty = false := by
          rwa [← Bool.not_eq_true, String.isEmpty_iff]
        rw [commentText, hreason]
        exact .justified name h

theorem WaiveItem.commentText_named (item : WaiveItem) :
    (WaiveEntry.named item.waiver).commentText = item.commentText := by
  cases item with
  | text s => rfl
  | entry name reason => rfl

/-- A pass that is forced is justified by the items, word by word. -/
theorem Document.comments_model (d : Document) (required : Option UInt32) :
    (d.model required (some 0)).waivers.comments =
      d.waivers.waiveItems.map WaiveItem.commentText := by
  show (d.waivers.waiveItems.map _).map _ = _
  rw [List.map_map]
  rfl

theorem forall₂_commentLine (items : List WaiveItem) :
    List.Forall₂ CommentLine items (items.map WaiveItem.commentText) := by
  rw [List.forall₂_map_right_iff, List.forall₂_same]
  exact fun item _ => item.commentLine

/-! ## Warnings -/

/-- What is said of options that the document declares without a use for them. -/
def optionWarnings (d : Document) (m : CheckModel) : List String :=
  (if d.checker.mode ≠ none ∧ d.requirements.patternItems = [] then
    ["checker.mode is ignored by " ++ m.type.display ++ " (no pattern_items)"] else []) ++
  (if d.checker.waiverMatch ≠ none ∧ m.waivers.mode ≠ .selective then
    ["checker.waiver_match is ignored by " ++ m.type.display ++ " (waivers.value is not > 0)"]
   else [])

theorem Document.usesPatterns_model {required waived : Option UInt32} (d : Document) :
    (d.model required waived).type.usesPatterns = true ↔ d.requirements.patternItems ≠ [] := by
  rw [CheckModel.usesPatterns_type, Requirements.searchesPatterns, Bool.not_eq_true',
    List.isEmpty_eq_false_iff]
  exact not_congr distinct_eq_nil_iff

theorem Document.ignoredWarnings_model {required waived : Option UInt32} (d : Document) :
    ignoredWarnings d.checker (d.model required waived).type =
      optionWarnings d (d.model required waived) := by
  have hmode : (d.checker.mode.isSome && !(d.model required waived).type.usesPatterns) = true ↔
      d.checker.mode ≠ none ∧ d.requirements.patternItems = [] := by
    rw [Bool.and_eq_true, Bool.not_eq_true', ← Bool.not_eq_true, d.usesPatterns_model, not_not,
      Option.isSome_iff_ne_none]
  have hmatch : (d.checker.waiverMatch.isSome &&
        !(d.model required waived).type.usesSelectiveWaivers) = true ↔
      d.checker.waiverMatch ≠ none ∧ (d.model required waived).waivers.mode ≠ .selective := by
    rw [Bool.and_eq_true, Bool.not_eq_true', ← Bool.not_eq_true,
      CheckModel.usesSelectiveWaivers_type, Option.isSome_iff_ne_none]
  simp only [ignoredWarnings, optionWarnings, hmode, hmatch]

/-! ## The whole -/

theorem checkerId_eq_ok_iff {given : Option String} {id : String} :
    checkerId given = .ok id ↔ ∃ s, given = some s ∧ id = Text.trim s ∧ id ≠ "" := by
  cases given with
  | none => simp [checkerId]
  | some s =>
      have hempty : (Text.trim s).isEmpty = true ↔ Text.trim s = "" := String.isEmpty_iff
      simp only [checkerId, Option.map_some, hempty]
      split
      · rename_i h
        simp [h]
      · rename_i h
        constructor
        · rintro ⟨⟩
          exact ⟨s, rfl, rfl, h⟩
        · rintro ⟨_, ⟨⟩, rfl, -⟩
          rfl

/-- What is known of a configuration that the document was resolved to. -/
structure Guarantees (d : Document) (c : Resolved) : Prop where
  id : ∃ s, d.checker.id = some s ∧ c.checker.id = Text.trim s ∧ c.checker.id ≠ ""
  required : Declares d.requirements.value c.model.requirements.value
  waived : Declares d.waivers.value c.model.waivers.value
  nodup : c.model.requirements.patterns.Nodup
  mem_patterns (p : String) :
    p ∈ c.model.requirements.patterns ↔ p ∈ d.requirements.patternItems
  /-- Every declared pattern is kept, or it is a repetition. -/
  kept_or_repeated :
    (c.model.requirements.patterns ++ repeats d.requirements.patternItems).Perm
      d.requirements.patternItems
  /-- Patterns stand in the order in which the document has them first. -/
  order : c.model.requirements.patterns.Pairwise fun p q =>
    d.requirements.patternItems.idxOf p < d.requirements.patternItems.idxOf q
  entries_length : c.model.waivers.entries.length = d.waivers.waiveItems.length
  all_comments : c.model.waivers.value = some 0 →
    ∀ e ∈ c.model.waivers.entries, ∃ text, e = .comment text
  all_named : c.model.waivers.value ≠ some 0 →
    c.model.waivers.entries = d.waivers.waiveItems.map fun item => .named item.waiver
  justified : c.model.waivers.value = some 0 → c.model.waivers.entries ≠ []
  globs : c.model.waivers.mode = .selective → c.checker.matchKind = .glob →
    ∀ w ∈ c.model.waivers.named, ∃ p, Glob.Pattern.ofText w.name = .ok p
  type : c.type = c.model.type
  comments : c.model.waivers.value = some 0 →
    List.Forall₂ CommentLine d.waivers.waiveItems c.model.waivers.comments
  /-- The comments are worded as if the items had been waivers. -/
  comments_named : c.model.waivers.value = some 0 →
    c.model.waivers.comments =
      WaiverPolicy.comments ⟨some 0, d.waivers.waiveItems.map fun item => .named item.waiver⟩
  warnings : ∃ counts, c.model.validate = .ok counts ∧
    c.warnings = (repeats d.requirements.patternItems).map
      ("duplicate pattern_items entry ignored: " ++ ·) ++ optionWarnings d c.model ++ counts

/-- **Resolved configurations.**  Whatever a document is resolved to has all of the guarantees. -/
theorem Document.guarantees_of_resolve (h : d.resolve = .ok c) : Guarantees d c := by
  obtain ⟨hsettle, hmatcher⟩ := resolve_eq_ok_iff.mp h
  obtain ⟨id, required, waived, counts, mode, sep, kind, -, hid, hrequired, hwaived, hvalid, -, -,
    -, rfl⟩ := settle_eq_ok_iff.mp hsettle
  refine
    { id := checkerId_eq_ok_iff.mp hid
      required := parseCount_eq_ok_iff.mp hrequired
      waived := parseCount_eq_ok_iff.mp hwaived
      nodup := nodup_distinct _
      mem_patterns := fun p => mem_distinct
      kept_or_repeated := perm_distinct_repeats _
      order := pairwise_idxOf_distinct _
      entries_length := List.length_map ..
      all_comments := ?_
      all_named := d.entries_model_of_ne
      justified := ?_
      globs := ?_
      type := rfl
      comments := ?_
      comments_named := ?_
      warnings := ?_ }
  · intro hzero e he
    obtain ⟨item, -, rfl⟩ := List.mem_map.mp he
    exact ⟨item.commentText, if_pos hzero⟩
  · intro hzero
    have hforced := WaiverPolicy.mode_eq_forcedPass_iff.mpr hzero
    exact (CheckModel.validate_eq_ok_iff.mp hvalid).1 hforced
  · intro hselective hglob w hw
    exact Glob.reads_iff.mp (MatchKind.build_isOk_iff.mp (hmatcher hselective) hglob w hw)
  · rintro rfl
    rw [d.comments_model]
    exact forall₂_commentLine _
  · rintro rfl
    rw [d.comments_model, WaiverPolicy.comments, List.map_map]
    exact (List.map_congr_left fun item _ => item.commentText_named).symm
  · refine ⟨counts, hvalid, ?_⟩
    rw [← duplicateWarnings_nil, ← d.ignoredWarnings_model]

/-- A pass that is forced by three items.  A pattern is given twice, and a kind of matcher is
declared although nothing is matched. -/
def forcedDocument : Document where
  checker := { id := some " CLK ", waiverMatch := some "glob" }
  requirements := { patternItems := ["CLK_A", "CLK_B", "CLK_A"] }
  waivers :=
    { value := some (.number 0)
      waiveItems := [.text "agreed", .entry "CLK_A" "", .entry "CLK_[" "known"] }

def forcedCheck : Resolved where
  checker := ⟨"CLK", "", .existence, .glob, .usual .patternSearch⟩
  model :=
    { requirements := ⟨none, ["CLK_A", "CLK_B"]⟩
      waivers := ⟨some 0, [.comment "agreed", .comment "CLK_A", .comment "CLK_[: known"]⟩ }
  type := .patternSearch
  warnings :=
    ["duplicate pattern_items entry ignored: CLK_A",
     "checker.waiver_match is ignored by Type 2 (waivers.value is not > 0)",
     "requirements.value is N/A but 2 pattern_items are declared"]

theorem resolve_forcedDocument : forcedDocument.resolve = .ok forcedCheck := by cbv

theorem Document.guarantees_of_resolve_forced :
    forcedDocument.resolve = .ok forcedCheck ∧ Guarantees forcedDocument forcedCheck :=
  ⟨resolve_forcedDocument, guarantees_of_resolve resolve_forcedDocument⟩

end Config

end Signoff

/-
# `Signoff.Proofs.CanonicalNames` — the one spelling of a name

Names that differ in their blanks, or in whether they write `=` or the word `to`, are normalized to
one text.  What such a text looks like is said by positions, without splitting anything
(`Canonical`): single blanks between words, no word `to`, and every `=` a word of its own.  These
texts are exactly the ones that normalization leaves as they are, so it is idempotent.

A blank, an `=` or a word `to` divides a name: normalizing in front of it has nothing to do with
normalizing behind it (`normalWords_append_blank`, `normalWords_append_equals`), and that gives all
laws of spelling.
-/
import Signoff.Matcher
import Signoff.Proofs.Text.Blank

namespace Signoff

namespace Matcher

open Text (IsWord Apart StartsBlank EndsBlank)

/-! ## Names in their one spelling -/

/-- The name is in its one spelling: its blanks are single and stand between other characters, the
word `to` does not occur, and every `=` is a word of its own. -/
structure Canonical (cs : List Char) : Prop where
  blank_eq : ∀ c ∈ cs, Text.isBlank c = true → c = ' '
  no_leading : ¬ [' '] <+: cs
  no_trailing : ¬ [' '] <:+ cs
  no_double : ¬ [' ', ' '] <:+: cs
  no_to : ¬ Apart ['t', 'o'] cs
  equals_apart : ∀ before after, cs = before ++ '=' :: after → EndsBlank before ∧ StartsBlank after

/-- A word of a name in its one spelling. -/
structure NormalWord (w : List Char) : Prop where
  isWord : IsWord w
  eq_equals : '=' ∈ w → w = ['=']
  ne_to : w ≠ ['t', 'o']

theorem isWord_to : IsWord ['t', 'o'] := .cons (by decide) (Text.isWord_singleton (by decide))

theorem normalWord_equals : NormalWord ['='] where
  isWord := Text.isWord_singleton (by decide)
  eq_equals _ := rfl
  ne_to := by decide

theorem NormalWord.neighbours_eq_nil {x y : List Char} (h : NormalWord (x ++ '=' :: y)) :
    x = [] ∧ y = [] := by
  rcases List.append_eq_singleton_iff.mp (h.eq_equals (by simp)) with ⟨hx, hy⟩ | ⟨-, hy⟩
  · exact ⟨hx, (List.cons.inj hy).2⟩
  · cases hy

section Names

variable {cs : List Char} {ws : List (List Char)}

/-- Such words with single blanks between them are a name in its one spelling. -/
theorem canonical_intercalate (hws : ∀ w ∈ ws, NormalWord w) :
    Canonical ([' '].intercalate ws) := by
  have hwords : ∀ w ∈ ws, IsWord w := fun w hw => (hws w hw).isWord
  have hblank : ∀ {before after : List Char} {c : Char},
      [' '].intercalate ws = before ++ c :: after → Text.isBlank c = true →
        c = ' ' ∧ ¬ EndsBlank before ∧ ¬ StartsBlank after := by
    intro before after c h hc
    rcases Text.placed_of_intercalate hwords h with ⟨w, hw, b, x, y, a, rfl, -⟩ | hplaced
    · rw [(hwords _ hw).2 c (by simp)] at hc
      cases hc
    · exact hplaced
  have hspace : Text.isBlank ' ' = true := by decide
  constructor
  · intro c hmem hc
    obtain ⟨before, after, h⟩ := List.append_of_mem hmem
    exact (hblank h hc).1
  · rintro ⟨after, h⟩
    have h : [' '].intercalate ws = [] ++ ' ' :: after := h.symm
    exact (hblank h hspace).2.1 Text.endsBlank_nil
  · rintro ⟨before, h⟩
    exact (hblank h.symm hspace).2.2 Text.startsBlank_nil
  · rintro ⟨before, after, h⟩
    rw [List.append_assoc] at h
    exact (hblank h.symm hspace).2.2 hspace
  · intro hto
    have hmem := Text.mem_words_iff.mpr ⟨isWord_to, hto⟩
    rw [(Text.splits_intercalate hwords).words_eq] at hmem
    exact (hws _ hmem).ne_to rfl
  · intro before after h
    rcases Text.placed_of_intercalate hwords h with
      ⟨w, hw, b, x, y, a, rfl, rfl, rfl, hb, ha⟩ | ⟨heq, -⟩
    · obtain ⟨rfl, rfl⟩ := (hws _ hw).neighbours_eq_nil
      rw [List.append_nil]
      exact ⟨hb, ha⟩
    · exact absurd heq (by decide)

theorem Canonical.normal_words (h : Canonical cs) : ∀ w ∈ Text.words cs, NormalWord w := by
  intro w hw
  obtain ⟨hword, before, after, rfl, hbefore, hafter⟩ := Text.mem_words_iff.mp hw
  refine ⟨hword, ?_, ?_⟩
  · intro hmem
    obtain ⟨x, y, rfl⟩ := List.append_of_mem hmem
    obtain ⟨hends, hstarts⟩ := h.equals_apart (before ++ x) (y ++ after) (by simp)
    have hx : x = [] := by
      by_contra hne
      have hx : IsWord x := ⟨hne, fun c hc => hword.2 c (List.mem_append_left _ hc)⟩
      exact hx.not_endsBlank ((Text.endsBlank_append hne).mp hends)
    have hy : y = [] := by
      by_contra hne
      have hy : IsWord y := ⟨hne, fun c hc => hword.2 c (by simp [hc])⟩
      exact hy.not_startsBlank_append hstarts
    rw [hx, hy, List.nil_append]
  · rintro rfl
    exact h.no_to ⟨before, after, rfl, hbefore, hafter⟩

theorem Canonical.intercalate_words (h : Canonical cs) :
    [' '].intercalate (Text.words cs) = cs := by
  rw [(Text.splits_words cs).intercalate_eq h.blank_eq h.no_trailing h.no_double]
  cases cs with
  | nil => rfl
  | cons c cs =>
      refine Text.dropBlank_of_not_startsBlank fun hc => h.no_leading ?_
      rw [h.blank_eq c List.mem_cons_self hc]
      exact List.prefix_append [' '] cs

end Names

/-! ## Normalizing -/

section Normalizing

variable {c : Char} {cs cs' u w : List Char} {ws : List (List Char)}

theorem spaceOut_of_ne (hc : c ≠ '=') : spaceOut c = [c] := if_neg hc

theorem normalWords_append_blank (hc : Text.isBlank c = true) (cs cs' : List Char) :
    normalWords (cs ++ c :: cs') = normalWords cs ++ normalWords cs' := by
  have hne : c ≠ '=' := by
    rintro rfl
    exact absurd hc (by decide)
  rw [normalWords, List.flatMap_append, List.flatMap_cons, spaceOut_of_ne hne,
    List.singleton_append, Text.words_append_blank hc, List.map_append, normalWords, normalWords]

theorem normalWords_append_equals (cs cs' : List Char) :
    normalWords (cs ++ '=' :: cs') = normalWords cs ++ ['='] :: normalWords cs' := by
  have hspace : Text.isBlank ' ' = true := by decide
  have hstart : StartsBlank (' ' :: cs'.flatMap spaceOut) := hspace
  have hequals : Text.words ('=' :: ' ' :: cs'.flatMap spaceOut) =
      ['='] :: Text.words (' ' :: cs'.flatMap spaceOut) :=
    Text.words_word_append normalWord_equals.isWord hstart
  rw [normalWords, List.flatMap_append, List.flatMap_cons]
  show (Text.words (cs.flatMap spaceOut ++ ' ' :: '=' :: ' ' :: cs'.flatMap spaceOut)).map
    equalsWord = _
  rw [Text.words_append_blank hspace, hequals, Text.words_cons_blank hspace, List.map_append]
  rfl

theorem normalWords_of_not_mem (h : '=' ∉ cs) : normalWords cs = (Text.words cs).map equalsWord := by
  have hsame : cs.flatMap spaceOut = cs := by
    induction cs with
    | nil => rfl
    | cons c cs ih =>
        rw [List.mem_cons, not_or] at h
        rw [List.flatMap_cons, spaceOut_of_ne (Ne.symm h.1), ih h.2, List.singleton_append]
  rw [normalWords, hsame]

theorem NormalWord.normalWords_eq (hw : NormalWord w) : normalWords w = [w] := by
  by_cases hmem : '=' ∈ w
  · rw [hw.eq_equals hmem]
    decide
  · have hword := Text.words_word_append hw.isWord Text.startsBlank_nil
    rw [List.append_nil] at hword
    rw [normalWords_of_not_mem hmem, hword, List.map_cons, equalsWord, if_neg hw.ne_to]
    rfl

theorem normalWords_intercalate (hws : ∀ w ∈ ws, NormalWord w) :
    normalWords ([' '].intercalate ws) = ws := by
  induction ws with
  | nil => rfl
  | cons w ws ih =>
      obtain ⟨hw, hrest⟩ := List.forall_mem_cons.mp hws
      cases ws with
      | nil => rw [List.intercalate_singleton, hw.normalWords_eq]
      | cons w' ws =>
          have hspace : Text.isBlank ' ' = true := by decide
          rw [List.intercalate_cons_cons, List.append_assoc, List.singleton_append,
            normalWords_append_blank hspace, hw.normalWords_eq, ih hrest, List.singleton_append]

theorem normalWord_of_not_mem (h : '=' ∉ cs) : ∀ w ∈ normalWords cs, NormalWord w := by
  rw [normalWords_of_not_mem h]
  refine List.forall_mem_map.mpr fun w hw => ?_
  obtain ⟨hword, before, after, rfl, -, -⟩ := Text.mem_words_iff.mp hw
  rw [equalsWord]
  split
  · exact normalWord_equals
  · next hto => exact ⟨hword, fun hmem => absurd (by simp [hmem]) h, hto⟩

/-- Every name is. -/
theorem normalWord_of_mem (cs : List Char) : ∀ w ∈ normalWords cs, NormalWord w := by
  by_cases h : '=' ∈ cs
  · obtain ⟨before, after, rfl, hbefore⟩ := List.eq_append_cons_of_mem h
    rw [normalWords_append_equals]
    intro w hw
    rcases List.mem_append.mp hw with hw | hw
    · exact normalWord_of_not_mem hbefore w hw
    · rcases List.mem_cons.mp hw with rfl | hw
      · exact normalWord_equals
      · exact normalWord_of_mem after w hw
  · exact normalWord_of_not_mem h
termination_by cs.length

theorem normalWords_blanks (hu : ∀ c ∈ u, Text.isBlank c = true) :
    normalWords (u ++ cs) = normalWords cs := by
  induction u with
  | nil => rfl
  | cons c u ih =>
      obtain ⟨hc, hu⟩ := List.forall_mem_cons.mp hu
      rw [← ih hu]
      exact normalWords_append_blank hc [] (u ++ cs)

theorem normalWords_append_blanks (hu : ∀ c ∈ u, Text.isBlank c = true) (hne : u ≠ [])
    (cs cs' : List Char) :
    normalWords (cs ++ (u ++ cs')) = normalWords cs ++ normalWords cs' := by
  cases u with
  | nil => exact absurd rfl hne
  | cons c u =>
      obtain ⟨hc, hu⟩ := List.forall_mem_cons.mp hu
      rw [List.cons_append, normalWords_append_blank hc, normalWords_blanks hu]

theorem normalWords_append_blanks_end (hu : ∀ c ∈ u, Text.isBlank c = true) :
    normalWords (cs ++ u) = normalWords cs := by
  by_cases hne : u = []
  · rw [hne, List.append_nil]
  · have h := normalWords_append_blanks hu hne cs []
    rwa [List.append_nil, show normalWords [] = [] from rfl, List.append_nil] at h

theorem toList_normalize (name : String) :
    (normalize name).toList = [' '].intercalate (normalWords name.toList) :=
  String.toList_ofList

theorem normalize_congr {name name' : String}
    (h : normalWords name.toList = normalWords name'.toList) : normalize name = normalize name' := by
  rw [normalize, normalize, h]

theorem canonical_normalize (name : String) : Canonical (normalize name).toList := by
  rw [toList_normalize]
  exact canonical_intercalate (normalWord_of_mem name.toList)

/-- A name in its one spelling is not changed. -/
theorem normalize_of_canonical {name : String} (h : Canonical name.toList) :
    normalize name = name := by
  have hwords := normalWords_intercalate h.normal_words
  rw [h.intercalate_words] at hwords
  rw [normalize, hwords, h.intercalate_words, String.ofList_toList]

theorem normalize_eq_self_iff {name : String} :
    normalize name = name ↔ Canonical name.toList := by
  constructor
  · intro h
    rw [← h]
    exact canonical_normalize name
  · exact normalize_of_canonical

theorem blanks_iff {u : String} :
    Text.isBlankText u = true ↔ ∀ c ∈ u.toList, Text.isBlank c = true :=
  List.all_eq_true

/-- **One spelling.**  A normalized name is in its one spelling, and the names in it are exactly
those that normalization leaves as they are; so a name that is normalized again stays the same.
Blanks around an `=` make no difference, nor does the word `to` in its place, nor do other blanks
where there are some. -/
theorem normalize_canonical (name : String) :
    normalize (normalize name) = normalize name ∧
      Canonical (normalize name).toList ∧
      (normalize name = name ↔ Canonical name.toList) ∧
      ∀ a b u w : String, Text.isBlankText u = true → Text.isBlankText w = true →
        normalize (a ++ "=" ++ b) = normalize (a ++ u ++ "=" ++ w ++ b) ∧
          (u ≠ "" → w ≠ "" →
            normalize (a ++ "=" ++ b) = normalize (a ++ u ++ "to" ++ w ++ b) ∧
              normalize (a ++ u ++ b) = normalize (a ++ w ++ b)) := by
  have hcanonical := canonical_normalize name
  refine ⟨normalize_of_canonical hcanonical, hcanonical, normalize_eq_self_iff, ?_⟩
  intro a b u w hu hw
  rw [blanks_iff] at hu hw
  have hequals : ∀ x y : String, normalWords (x ++ "=" ++ y).toList =
      normalWords x.toList ++ ['='] :: normalWords y.toList := by
    intro x y
    rw [← normalWords_append_equals]
    simp
  constructor
  · have happend : a ++ u ++ "=" ++ w ++ b = (a ++ u) ++ "=" ++ (w ++ b) := by
      simp only [String.append_assoc]
    refine normalize_congr ?_
    rw [happend, hequals, hequals, String.toList_append, String.toList_append,
      normalWords_append_blanks_end hu, normalWords_blanks hw]
  · intro hune hwne
    have hdivide : ∀ {v : String}, (∀ c ∈ v.toList, Text.isBlank c = true) → v ≠ "" →
        ∀ x y : String, normalWords (x ++ v ++ y).toList =
          normalWords x.toList ++ normalWords y.toList := by
      intro v hv hne x y
      have hne : v.toList ≠ [] := mt String.toList_eq_nil_iff.mp hne
      rw [← normalWords_append_blanks hv hne]
      simp
    have hto : normalWords "to".toList = [['=']] := by decide
    constructor
    · refine normalize_congr ?_
      rw [hequals, hdivide hw hwne, hdivide hu hune, hto, List.append_assoc, List.singleton_append]
    · exact normalize_congr (by rw [hdivide hu hune, hdivide hw hwne])

/-- A tab and a blank around the word `to`, at the end of a name that already has an `=`. -/
theorem normalize_canonical_tab :
    normalize "clk_a=clk_b=" = normalize "clk_a=clk_b \tto " ∧
      Canonical (normalize "clk_a=clk_b \tto ").toList ∧
      normalize "clk_a=clk_b \tto " = "clk_a = clk_b =" := by
  have h := (normalize_canonical "clk_a=clk_b \tto ").2.2.2 "clk_a=clk_b" "" " \t" " " (by decide)
    (by decide)
  exact ⟨(h.2 (by decide) (by decide)).1, (normalize_canonical _).2.1, by decide⟩

end Normalizing

end Matcher

end Signoff

/-
# `Signoff.Proofs.Text.Blank` — trimming, and splitting into words

A text is some blanks, what is left of it when it is trimmed, and some blanks again; and since only
one stretch of it can be what is left (`trimChars_eq`), the laws of trimming are found by putting
texts together.

Splitting into words is treated in the same way, with a relation that says how a text is made up of
blanks and words (`Splits`).  A text makes up only one list of words: a blank divides the words
before it from the words behind it (`words_append_blank`), and the words are the stretches without
blanks that cannot be made longer (`mem_words_iff`).
-/
import Mathlib.Data.List.DropRight
import Mathlib.Data.List.Infix
import Signoff.Text.Basic

namespace Signoff.Text

/-! ## Trimming -/

/-- No blank stands at either end of the text. -/
structure Trimmed (cs : List Char) : Prop where
  head_not_blank : ∀ c ∈ cs.head?, isBlank c = false
  last_not_blank : ∀ c ∈ cs.getLast?, isBlank c = false

section Trimming

variable {cs u v : List Char}

theorem trimmed_append (hu : ∀ c ∈ u.head?, isBlank c = false) (hune : u ≠ [])
    (hv : ∀ c ∈ v.getLast?, isBlank c = false) (hvne : v ≠ []) : Trimmed (u ++ v) := by
  constructor
  · rwa [List.head?_append_of_ne_nil u hune]
  · rwa [List.getLast?_append_of_ne_nil u hvne]

theorem Trimmed.append (hu : Trimmed u) (hv : Trimmed v) : Trimmed (u ++ v) := by
  by_cases hune : u = []
  · rwa [hune, List.nil_append]
  · by_cases hvne : v = []
    · rwa [hvne, List.append_nil]
    · exact trimmed_append hu.head_not_blank hune hv.last_not_blank hvne

theorem dropBlank_blanks_append (hu : ∀ c ∈ u, isBlank c = true) :
    dropBlank (u ++ cs) = dropBlank cs :=
  List.dropWhile_append_of_pos hu

theorem dropBlank_of_head (h : ∀ c ∈ cs.head?, isBlank c = false) : dropBlank cs = cs := by
  cases cs with
  | nil => rfl
  | cons c cs =>
      have hc : ¬ isBlank c = true := Bool.eq_false_iff.mp (h c rfl)
      rw [dropBlank, List.dropWhile_cons, if_neg hc]

theorem trimChars_eq (hu : ∀ c ∈ u, isBlank c = true) (h : Trimmed cs)
    (hv : ∀ c ∈ v, isBlank c = true) : trimChars (u ++ (cs ++ v)) = cs := by
  rw [trimChars, dropBlank_blanks_append hu]
  cases cs with
  | nil =>
      rw [List.nil_append, dropBlank_eq_nil_iff.mpr hv]
      rfl
  | cons c cs =>
      have hlast : ∀ d ∈ (c :: cs).reverse.head?, isBlank d = false := by
        rw [List.head?_reverse]
        exact h.last_not_blank
      have hv : ∀ d ∈ v.reverse, isBlank d = true := fun d hd => hv d (List.mem_reverse.mp hd)
      have hleft : dropBlank (c :: cs ++ v) = c :: cs ++ v := dropBlank_of_head h.head_not_blank
      rw [hleft, List.reverse_append, dropBlank_blanks_append hv, dropBlank_of_head hlast,
        List.reverse_reverse]

theorem trimmed_trimChars (cs : List Char) : Trimmed (trimChars cs) := by
  by_cases hne : trimChars cs = []
  · rw [hne]
    exact ⟨nofun, nofun⟩
  · have hprefix : trimChars cs <+: dropBlank cs := List.rdropWhile_prefix isBlank (dropBlank cs)
    have hdrop : dropBlank cs ≠ [] := hprefix.ne_nil hne
    constructor
    · -- what is left begins as the text without its leading blanks does
      have hhead : isBlank ((dropBlank cs).head hdrop) = false :=
        List.head_dropWhile_not isBlank hdrop
      rw [List.head?_eq_some_head hne, hprefix.head hne]
      rintro c ⟨⟩
      exact hhead
    · have hlast : ¬ isBlank ((trimChars cs).getLast hne) = true :=
        List.rdropWhile_last_not isBlank (dropBlank cs) hne
      rw [List.getLast?_eq_some_getLast hne]
      rintro c ⟨⟩
      exact Bool.eq_false_iff.mpr hlast

theorem exists_blanks_around (cs : List Char) :
    ∃ u v, (∀ c ∈ u, isBlank c = true) ∧ (∀ c ∈ v, isBlank c = true) ∧
      cs = u ++ (trimChars cs ++ v) := by
  refine ⟨cs.takeWhile isBlank, (dropBlank cs).rtakeWhile isBlank, fun _ => List.mem_takeWhile_imp,
    fun _ => List.mem_rtakeWhile_imp, ?_⟩
  have hright : trimChars cs ++ (dropBlank cs).rtakeWhile isBlank = dropBlank cs :=
    List.rdropWhile_append_rtakeWhile
  rw [hright]
  exact List.takeWhile_append_dropWhile.symm

theorem length_trimChars_le (cs : List Char) : (trimChars cs).length ≤ cs.length := by
  obtain ⟨u, v, -, -, hcs⟩ := exists_blanks_around cs
  have hlength := congrArg List.length hcs
  rw [List.length_append, List.length_append] at hlength
  omega

theorem trimChars_blanks_around (hu : ∀ c ∈ u, isBlank c = true)
    (hv : ∀ c ∈ v, isBlank c = true) : trimChars (u ++ (cs ++ v)) = trimChars cs := by
  obtain ⟨u', v', hu', hv', hcs⟩ := exists_blanks_around cs
  have hblanks : u ++ (cs ++ v) = (u ++ u') ++ (trimChars cs ++ (v' ++ v)) := by
    conv_lhs => rw [hcs]
    simp only [List.append_assoc]
  rw [hblanks]
  exact trimChars_eq (List.forall_mem_append.mpr ⟨hu, hu'⟩) (trimmed_trimChars cs)
    (List.forall_mem_append.mpr ⟨hv', hv⟩)

theorem Trimmed.trimChars_eq (h : Trimmed cs) : trimChars cs = cs := by
  have hcs : trimChars ([] ++ (cs ++ [])) = cs := Text.trimChars_eq nofun h nofun
  rwa [List.nil_append, List.append_nil] at hcs

end Trimming

/-! ## How a text is made up of words -/

def IsWord (w : List Char) : Prop := w ≠ [] ∧ ∀ c ∈ w, isBlank c = false

/-- The text is empty or begins with a blank. -/
def StartsBlank (cs : List Char) : Prop := cs.head?.all isBlank = true

def EndsBlank (cs : List Char) : Prop := cs.getLast?.all isBlank = true

/-- The stretch stands somewhere in the text with nothing but blanks next to it. -/
def Apart (w cs : List Char) : Prop :=
  ∃ before after, cs = before ++ (w ++ after) ∧ EndsBlank before ∧ StartsBlank after

/-- The text is made up of these words, with blanks between them and around. -/
inductive Splits : List Char → List (List Char) → Prop
  | nil : Splits [] []
  | blank {c : Char} {cs : List Char} {ws : List (List Char)} :
      isBlank c = true → Splits cs ws → Splits (c :: cs) ws
  | word {w cs : List Char} {ws : List (List Char)} :
      IsWord w → StartsBlank cs → Splits cs ws → Splits (w ++ cs) (w :: ws)

section Words

variable {c : Char} {cs cs' w : List Char} {ws ws' : List (List Char)}

theorem isWord_singleton (hc : isBlank c = false) : IsWord [c] := by
  refine ⟨List.cons_ne_nil c [], fun x hx => ?_⟩
  rw [List.mem_singleton.mp hx, hc]

theorem IsWord.cons (hc : isBlank c = false) (h : IsWord w) : IsWord (c :: w) :=
  ⟨List.cons_ne_nil c w, List.forall_mem_cons.mpr ⟨hc, h.2⟩⟩

theorem startsBlank_nil : StartsBlank [] := rfl

theorem startsBlank_append (hc : isBlank c = true) (h : StartsBlank cs) :
    StartsBlank (cs ++ c :: cs') := by
  cases cs with
  | nil => exact hc
  | cons x cs => exact h

theorem endsBlank_nil : EndsBlank [] := rfl

theorem endsBlank_cons (hc : isBlank c = true) (h : EndsBlank cs) : EndsBlank (c :: cs) := by
  cases cs with
  | nil => exact hc
  | cons x cs => rwa [EndsBlank, List.getLast?_cons_cons]

theorem endsBlank_append (hne : cs' ≠ []) : EndsBlank (cs ++ cs') ↔ EndsBlank cs' := by
  rw [EndsBlank, List.getLast?_append_of_ne_nil cs hne, EndsBlank]

theorem IsWord.not_endsBlank (hw : IsWord w) : ¬ EndsBlank w := by
  obtain ⟨hne, hw⟩ := hw
  rw [EndsBlank, List.getLast?_eq_some_getLast hne, Option.all_some, hw _ (List.getLast_mem hne)]
  exact Bool.false_ne_true

theorem IsWord.not_startsBlank_append (hw : IsWord w) : ¬ StartsBlank (w ++ cs) := by
  obtain ⟨hne, hw⟩ := hw
  cases w with
  | nil => exact absurd rfl hne
  | cons c w =>
      rw [StartsBlank, List.cons_append, List.head?_cons, Option.all_some, hw c List.mem_cons_self]
      exact Bool.false_ne_true

theorem words_cons_blank (hc : isBlank c = true) : words (c :: cs) = words cs := by
  rw [words, if_pos hc]

theorem words_word_append (hw : IsWord w) (hcs : StartsBlank cs) :
    words (w ++ cs) = w :: words cs := by
  obtain ⟨hne, hw⟩ := hw
  induction w with
  | nil => exact absurd rfl hne
  | cons c w ih =>
      obtain ⟨hc, hw⟩ := List.forall_mem_cons.mp hw
      rw [List.cons_append, words, if_neg (by simp [hc])]
      cases w with
      | nil =>
          have hhead : cs.head?.all isBlank = true := hcs
          rw [List.nil_append, if_pos hhead]
      | cons c' w =>
          have hne : c' :: w ≠ [] := List.cons_ne_nil c' w
          have hhead : ¬ ((c' :: w) ++ cs).head?.all isBlank = true :=
            IsWord.not_startsBlank_append ⟨hne, hw⟩
          rw [if_neg hhead, ih hne hw]

theorem Splits.words_eq (h : Splits cs ws) : words cs = ws := by
  induction h with
  | nil => rfl
  | blank hc _ ih => rw [words_cons_blank hc, ih]
  | word hw hcs _ ih => rw [words_word_append hw hcs, ih]

theorem Splits.exists_cons (hc : isBlank c = false) (h : Splits cs ws) :
    ∃ ws', Splits (c :: cs) ws' := by
  cases h with
  | nil => exact ⟨_, .word (isWord_singleton hc) startsBlank_nil .nil⟩
  | blank hb h => exact ⟨_, .word (isWord_singleton hc) hb (.blank hb h)⟩
  | word hw hcs h => exact ⟨_, .word (hw.cons hc) hcs h⟩

theorem splits_words (cs : List Char) : Splits cs (words cs) := by
  have hsome : ∃ ws, Splits cs ws := by
    induction cs with
    | nil => exact ⟨_, .nil⟩
    | cons c cs ih =>
        obtain ⟨ws, h⟩ := ih
        cases hc : isBlank c with
        | true => exact ⟨ws, .blank hc h⟩
        | false => exact h.exists_cons hc
  obtain ⟨ws, h⟩ := hsome
  rwa [h.words_eq]

theorem Splits.append_blank (hc : isBlank c = true) (h : Splits cs ws) (h' : Splits cs' ws') :
    Splits (cs ++ c :: cs') (ws ++ ws') := by
  induction h with
  | nil => exact .blank hc h'
  | blank hb _ ih => exact .blank hb ih
  | word hw hcs _ ih =>
      rw [List.append_assoc]
      exact .word hw (startsBlank_append hc hcs) ih

theorem words_append_blank (hc : isBlank c = true) (cs cs' : List Char) :
    words (cs ++ c :: cs') = words cs ++ words cs' :=
  ((splits_words cs).append_blank hc (splits_words cs')).words_eq

theorem words_append_of_endsBlank (h : EndsBlank cs) : words (cs ++ cs') = words cs ++ words cs' := by
  rcases List.eq_nil_or_concat' cs with rfl | ⟨init, c, rfl⟩
  · rfl
  · have hc : isBlank c = true := by simpa [EndsBlank] using h
    rw [List.append_assoc, List.singleton_append, words_append_blank hc, words_append_blank hc]
    simp [words]

/-- The words are the stretches without blanks that stand apart. -/
theorem mem_words_iff : w ∈ words cs ↔ IsWord w ∧ Apart w cs := by
  constructor
  · intro h
    have hsplits := splits_words cs
    generalize words cs = ws at h hsplits
    induction hsplits with
    | nil => exact absurd h List.not_mem_nil
    | @blank c cs ws hc _ ih =>
        obtain ⟨hw, before, after, rfl, hbefore, hafter⟩ := ih h
        exact ⟨hw, c :: before, after, rfl, endsBlank_cons hc hbefore, hafter⟩
    | @word w' cs ws hw' hcs _ ih =>
        rcases List.mem_cons.mp h with rfl | h
        · exact ⟨hw', [], cs, rfl, rfl, hcs⟩
        · obtain ⟨hw, before, after, rfl, hbefore, hafter⟩ := ih h
          cases before with
          | nil =>
              have hcs : StartsBlank (w ++ after) := hcs
              exact absurd hcs hw.not_startsBlank_append
          | cons x before =>
              refine ⟨hw, w' ++ x :: before, after, by rw [List.append_assoc], ?_, hafter⟩
              exact (endsBlank_append (List.cons_ne_nil x before)).mpr hbefore
  · rintro ⟨hw, before, after, rfl, hbefore, hafter⟩
    rw [words_append_of_endsBlank hbefore, words_word_append hw hafter]
    exact List.mem_append_right _ List.mem_cons_self

/-- Words with single blanks between them are found again. -/
theorem splits_intercalate (hws : ∀ w ∈ ws, IsWord w) : Splits ([' '].intercalate ws) ws := by
  induction ws with
  | nil => exact .nil
  | cons w ws ih =>
      obtain ⟨hw, hrest⟩ := List.forall_mem_cons.mp hws
      have h := ih hrest
      cases ws with
      | nil =>
          have hword := Splits.word hw startsBlank_nil .nil
          rw [List.append_nil] at hword
          rwa [List.intercalate_singleton]
      | cons w' ws =>
          have hblank : isBlank ' ' = true := by decide
          rw [List.intercalate_cons_cons, List.append_assoc]
          exact .word hw hblank (.blank hblank h)

theorem not_startsBlank_intercalate (hw : IsWord w) :
    ¬ StartsBlank ([' '].intercalate (w :: ws)) := by
  cases ws with
  | nil =>
      rw [List.intercalate_singleton, ← List.append_nil w]
      exact hw.not_startsBlank_append
  | cons w' ws =>
      rw [List.intercalate_cons_cons, List.append_assoc]
      exact hw.not_startsBlank_append

/-- Between words with single blanks, a character is part of a word, or it is a blank and stands
between two words. -/
theorem placed_of_intercalate {before after : List Char} (hws : ∀ w ∈ ws, IsWord w)
    (h : [' '].intercalate ws = before ++ c :: after) :
    (∃ w ∈ ws, ∃ b x y a, w = x ++ c :: y ∧ before = b ++ x ∧ after = y ++ a ∧ EndsBlank b ∧
      StartsBlank a) ∨
    c = ' ' ∧ ¬ EndsBlank before ∧ ¬ StartsBlank after := by
  have hblank : isBlank ' ' = true := by decide
  induction ws generalizing before with
  | nil => exact absurd h (by simp)
  | cons w ws ih =>
      obtain ⟨hw, hrest⟩ := List.forall_mem_cons.mp hws
      cases ws with
      | nil =>
          rw [List.intercalate_singleton] at h
          exact .inl ⟨w, List.mem_cons_self, [], before, after, [], h, rfl,
            (List.append_nil after).symm, rfl, rfl⟩
      | cons w' ws =>
          have hstart : ¬ StartsBlank ([' '].intercalate (w' :: ws)) :=
            not_startsBlank_intercalate (hrest w' List.mem_cons_self)
          rw [List.intercalate_cons_cons, List.append_assoc, List.singleton_append] at h
          rcases List.append_eq_append_iff.mp h with ⟨front, rfl, hfront⟩ | ⟨back, rfl, hback⟩
          · cases front with
            | nil =>
                obtain ⟨rfl, rfl⟩ := List.cons.inj hfront
                rw [List.append_nil]
                exact .inr ⟨rfl, hw.not_endsBlank, hstart⟩
            | cons x front =>
                rw [List.cons_append, List.cons.injEq] at hfront
                obtain ⟨rfl, hfront⟩ := hfront
                rcases ih hrest hfront with
                  ⟨v, hv, b, x, y, a, hsplit, rfl, rfl, hb, ha⟩ | ⟨rfl, hbefore, hafter⟩
                · refine .inl ⟨v, List.mem_cons_of_mem w hv, w ++ ' ' :: b, x, y, a, hsplit, ?_,
                    rfl, ?_, ha⟩
                  · rw [List.append_assoc, List.cons_append]
                  · exact (endsBlank_append (List.cons_ne_nil ' ' b)).mpr (endsBlank_cons hblank hb)
                · have hne : front ≠ [] := fun hnil => hbefore (hnil ▸ endsBlank_nil)
                  refine .inr ⟨rfl, ?_, hafter⟩
                  rwa [List.append_cons, endsBlank_append hne]
          · cases back with
            | nil =>
                obtain ⟨rfl, rfl⟩ := List.cons.inj hback
                rw [List.append_nil] at hw
                exact .inr ⟨rfl, hw.not_endsBlank, hstart⟩
            | cons x back =>
                obtain ⟨rfl, rfl⟩ := List.cons.inj hback
                exact .inl ⟨_, List.mem_cons_self, [], before, back, _, rfl, rfl, rfl, rfl, hblank⟩

theorem dropBlank_cons_blank (hc : isBlank c = true) : dropBlank (c :: cs) = dropBlank cs := by
  rw [dropBlank, List.dropWhile_cons, if_pos hc, dropBlank]

theorem dropBlank_of_not_startsBlank (h : ¬ StartsBlank cs) : dropBlank cs = cs := by
  refine dropBlank_of_head fun c hc => Bool.eq_false_iff.mpr fun hblank => h ?_
  rw [StartsBlank, Option.mem_def.mp hc, Option.all_some, hblank]

theorem Splits.intercalate_eq (h : Splits cs ws) (hblank : ∀ c ∈ cs, isBlank c = true → c = ' ')
    (hend : ¬ [' '] <:+ cs) (hdouble : ¬ [' ', ' '] <:+: cs) :
    [' '].intercalate ws = dropBlank cs := by
  induction h with
  | nil => rfl
  | @blank c cs ws hc _ ih =>
      rw [dropBlank_cons_blank hc]
      exact ih (fun x hx => hblank x (List.mem_cons_of_mem c hx))
        (fun h => hend (h.trans (List.suffix_cons c cs)))
        (fun h => hdouble (h.trans (List.suffix_cons c cs).isInfix))
  | @word w cs ws hw hcs h ih =>
      have hsuffix : cs <:+ w ++ cs := List.suffix_append w cs
      have hrest := ih (fun x hx => hblank x (List.mem_append_right w hx))
        (fun h => hend (h.trans hsuffix)) (fun h => hdouble (h.trans hsuffix.isInfix))
      rw [dropBlank_of_not_startsBlank hw.not_startsBlank_append]
      cases cs with
      | nil =>
          obtain rfl : [] = ws := h.words_eq
          rw [List.intercalate_singleton, List.append_nil]
      | cons c cs =>
          obtain rfl : c = ' ' := hblank c (List.mem_append_right w List.mem_cons_self) hcs
          have hstart : ¬ StartsBlank cs := by
            intro hstart
            cases cs with
            | nil => exact hend (List.suffix_append w [' '])
            | cons x cs =>
                obtain rfl : x = ' ' := hblank x (by simp) hstart
                exact hdouble ⟨w, cs, by simp⟩
          rw [dropBlank_cons_blank hcs, dropBlank_of_not_startsBlank hstart] at hrest
          have hne : ws ≠ [] := by
            rintro rfl
            exact hstart (hrest ▸ startsBlank_nil)
          rw [List.intercalate_cons_of_ne_nil hne, hrest, List.append_assoc, List.singleton_append]

end Words

end Signoff.Text

/-
# `Signoff.Proofs.PathSpellings` — the spellings that a path has in common

Three things may be done to the text of a path without changing the path (`Respelled`): slashes may be
turned, blanks may be put around it, and `./` may be put before it, unless a blank would come to stand
behind them.  The leading `./` are taken off in rounds; a round takes off as many as it likes.  Every
round makes the text shorter, so the rounds come to an end, and wherever they end, all `./` are gone
(`finishes_iff`).  What comes out is the path in its one spelling, and the texts that come out as they
went in are exactly the ones that look like it (`normalChars_eq_self_iff`).
-/
import Mathlib.Data.List.Forall2
import Mathlib.Logic.Relation
import Signoff.Proofs.SourcePaths

namespace Signoff.SourcePath

open Text (isBlank dropBlank trimChars Trimmed)

/-- A number of `./`. -/
def heres (n : Nat) : List Char := (List.replicate n ['.', '/']).flatten

/-- Some of the leading `./` are taken off. -/
inductive Round : List Char → List Char → Prop
  | take (n : Nat) (cs : List Char) : Round (heres (n + 1) ++ cs) cs

/-- After some rounds there is nothing left to take off. -/
def Finishes (cs out : List Char) : Prop :=
  Relation.ReflTransGen Round cs out ∧ ∀ next, ¬ Round out next

def turned (s : String) : List Char := (trimChars s.toList).map forwardSlash

/-- The same character, or two slashes. -/
def SameButSlash (c d : Char) : Prop :=
  c = d ∨ (c = '/' ∨ c = '\\') ∧ (d = '/' ∨ d = '\\')

/-- Another spelling of the same path. -/
inductive Respelled : List Char → List Char → Prop
  | slashes {cs cs' : List Char} : List.Forall₂ SameButSlash cs cs' → Respelled cs cs'
  | blanks {cs before after : List Char} : (∀ c ∈ before, isBlank c = true) →
      (∀ c ∈ after, isBlank c = true) → Respelled cs (before ++ (cs ++ after))
  | here {cs here : List Char} : Here here → (∀ c ∈ cs.head?, isBlank c = false) →
      Respelled cs (here ++ cs)

variable {cs cs' out : List Char}

/-! ## Rounds -/

theorem heres_succ (n : Nat) : heres (n + 1) = '.' :: '/' :: heres n := by
  rw [heres, List.replicate_succ, List.flatten_cons]
  rfl

theorem Round.length_lt (h : Round cs cs') : cs'.length < cs.length := by
  obtain ⟨n, _⟩ := h
  rw [heres_succ, List.length_append, List.length_cons]
  omega

/-- The rounds come to an end, however they are made. -/
theorem wellFounded_round : WellFounded fun after before => Round before after :=
  Subrelation.wf Round.length_lt (measure List.length).wf

theorem exists_heres_append (cs : List Char) : ∃ n, cs = heres n ++ dropHere cs := by
  induction cs using dropHere.induct with
  | case1 cs ih =>
      obtain ⟨n, hcs⟩ := ih
      refine ⟨n + 1, ?_⟩
      rw [dropHere, heres_succ, List.cons_append, List.cons_append, ← hcs]
  | case2 cs hne => exact ⟨0, (dropHere_of_ne hne).symm⟩

theorem dropHere_heres_append (n : Nat) (cs : List Char) :
    dropHere (heres n ++ cs) = dropHere cs := by
  induction n with
  | zero => rfl
  | succ n ih => rw [heres_succ, List.cons_append, List.cons_append, dropHere, ih]

theorem Round.dropHere_eq (h : Round cs cs') : dropHere cs = dropHere cs' := by
  obtain ⟨n, _⟩ := h
  exact dropHere_heres_append (n + 1) cs'

theorem dropHere_eq_of_rounds (h : Relation.ReflTransGen Round cs out) :
    dropHere cs = dropHere out := by
  induction h with
  | refl => rfl
  | tail _ hround ih => exact ih.trans hround.dropHere_eq

theorem exists_round_iff : (∃ next, Round cs next) ↔ ['.', '/'] <+: cs := by
  constructor
  · rintro ⟨next, ⟨n, _⟩⟩
    exact ⟨heres n ++ next, by rw [heres_succ]; rfl⟩
  · rintro ⟨rest, rfl⟩
    exact ⟨rest, .take 0 rest⟩

theorem round_dropHere (h : ['.', '/'] <+: cs) : Round cs (dropHere cs) := by
  obtain ⟨n, hcs⟩ := exists_heres_append cs
  cases n with
  | zero =>
      rw [heres, List.replicate_zero, List.flatten_nil, List.nil_append] at hcs
      exact absurd (hcs ▸ h) (not_here_dropHere cs)
  | succ n =>
      have hround := Round.take n (dropHere cs)
      rwa [← hcs] at hround

/-- Wherever the rounds end, all that is in front is gone. -/
theorem finishes_iff : Finishes cs out ↔ out = dropHere cs := by
  constructor
  · rintro ⟨hrun, hstop⟩
    have hout : ¬ ['.', '/'] <+: out := mt exists_round_iff.mpr (not_exists.mpr hstop)
    rw [dropHere_eq_of_rounds hrun, dropHere_of_not_here hout]
  · rintro rfl
    refine ⟨?_, fun next hround => not_here_dropHere cs (exists_round_iff.mp ⟨next, hround⟩)⟩
    by_cases h : ['.', '/'] <+: cs
    · exact .single (round_dropHere h)
    · rw [dropHere_of_not_here h]

/-! ## Slashes -/

theorem trimChars_map_forwardSlash (cs : List Char) :
    trimChars (cs.map forwardSlash) = (trimChars cs).map forwardSlash := by
  have hdrop : ∀ cs : List Char,
      dropBlank (cs.map forwardSlash) = (dropBlank cs).map forwardSlash := by
    intro cs
    rw [dropBlank, List.dropWhile_map]
    congr 2
    funext c
    exact isBlank_forwardSlash c
  rw [trimChars, hdrop, ← List.map_reverse, hdrop, ← List.map_reverse, trimChars]

theorem map_forwardSlash_of_sameButSlash (h : List.Forall₂ SameButSlash cs cs') :
    cs.map forwardSlash = cs'.map forwardSlash := by
  induction h with
  | nil => rfl
  | cons hc _ ih =>
      rw [List.map_cons, List.map_cons, ih]
      rcases hc with rfl | ⟨hc, hd⟩
      · rfl
      · rw [forwardSlash_of_slash hc, forwardSlash_of_slash hd]

/-! ## Putting `./` in front -/

theorem Here.trimmed {here : List Char} (h : Here here) : Trimmed here := by
  induction h with
  | nil => exact ⟨nofun, nofun⟩
  | @step slash here hslash _ ih =>
      have hstep : Trimmed ['.', slash] := by
        rcases hslash with rfl | rfl <;> exact ⟨by rintro c ⟨⟩; decide, by rintro c ⟨⟩; decide⟩
      exact hstep.append ih

theorem Here.trimChars_append {here : List Char} (h : Here here)
    (hcs : ∀ c ∈ cs.head?, isBlank c = false) : trimChars (here ++ cs) = here ++ trimChars cs := by
  obtain ⟨before, after, hbefore, hafter, hsplit⟩ := Text.exists_blanks_around cs
  have htrimmed := h.trimmed.append (Text.trimmed_trimChars cs)
  cases before with
  | nil =>
      have htext : here ++ cs = [] ++ (here ++ trimChars cs ++ after) := by
        conv_lhs => rw [hsplit]
        simp
      rw [htext]
      exact Text.trimChars_eq nofun htrimmed hafter
  | cons c before =>
      -- a blank would stand in front of the text
      have hblank := hbefore c List.mem_cons_self
      rw [hsplit] at hcs
      rw [hcs c rfl] at hblank
      cases hblank

/-! ## Spellings -/

theorem Respelled.normalChars_eq (h : Respelled cs cs') : normalChars cs = normalChars cs' := by
  have hleft : dropHere ((trimChars cs).map forwardSlash) =
      dropHere ((trimChars cs').map forwardSlash) := by
    cases h with
    | slashes hslashes =>
        rw [← trimChars_map_forwardSlash, map_forwardSlash_of_sameButSlash hslashes,
          trimChars_map_forwardSlash]
    | blanks hbefore hafter => rw [Text.trimChars_blanks_around hbefore hafter]
    | here hhere hcs => rw [hhere.trimChars_append hcs, List.map_append, hhere.dropHere_append]
  rw [normalChars, normalChars, hleft]

theorem normalChars_eq_of_respelled (h : Relation.EqvGen Respelled cs cs') :
    normalChars cs = normalChars cs' := by
  induction h with
  | rel _ _ h => exact h.normalChars_eq
  | refl _ => rfl
  | symm _ _ _ ih => exact ih.symm
  | trans _ _ _ _ _ ih ih' => exact ih.trans ih'

theorem normalChars_eq_self_iff : normalChars cs = cs ↔ Plain cs ∧ Trimmed cs := by
  constructor
  · intro h
    have hplain : Plain cs := h ▸ plain_normalChars cs
    refine ⟨hplain, fun c hc => Bool.eq_false_iff.mpr fun hblank => ?_, hplain.last_not_blank⟩
    have hlt := hplain.length_normalChars_lt hc hblank
    rw [h] at hlt
    exact Nat.lt_irrefl _ hlt
  · rintro ⟨hplain, htrimmed⟩
    exact hplain.normalChars_eq htrimmed.head_not_blank

/-- **The one spelling of a path.**  The rounds that take off leading `./` come to an end and always
leave the same text, which is the path unless it is empty.  The path is not empty, has no backslash
and does not begin with `./`; it is the text as it was given exactly if that looks the same way and
no blank stands around it; and all spellings of a text give one path. -/
theorem ofText_normal :
    (∀ s : String,
      Acc (fun after before => Round before after) (turned s) ∧
        ∃ out, (∀ out', Finishes (turned s) out' ↔ out' = out) ∧
          (ofText s).text.toList = if out = [] then ['.'] else out) ∧
      (∀ s : String, Plain (ofText s).text.toList) ∧
      (∀ s : String, (ofText s).text = s ↔ Plain s.toList ∧ Trimmed s.toList) ∧
      ∀ s t : String, Relation.EqvGen Respelled s.toList t.toList → ofText s = ofText t := by
  refine ⟨fun s => ⟨wellFounded_round.apply _, dropHere (turned s), fun _ => finishes_iff, ?_⟩,
    fun s => ?_, fun s => ?_, fun s t h => ?_⟩
  · rw [toList_ofText]
    split
    · next hnil => exact normalChars_of_eq_nil hnil
    · next hne => exact normalChars_of_ne_nil hne
  · rw [toList_ofText]
    exact plain_normalChars s.toList
  · rw [← String.toList_inj, toList_ofText]
    exact normalChars_eq_self_iff
  · exact ofText_eq_iff.mpr (normalChars_eq_of_respelled h)

/-- Blanks around, two `./` in front and slashes turned. -/
theorem ofText_normal_log :
    Relation.EqvGen Respelled "logs/sta.log".toList "\t.\\./logs\\sta.log\x0b".toList ∧
      ofText "logs/sta.log" = ofText "\t.\\./logs\\sta.log\x0b" := by
  have hhere : Respelled "logs/sta.log".toList "././logs/sta.log".toList :=
    .here (.step (.inl rfl) (.step (.inl rfl) .nil)) (by rintro c ⟨⟩; decide)
  have hslashes : Respelled "././logs/sta.log".toList ".\\./logs\\sta.log".toList :=
    .slashes (by simp [SameButSlash])
  have hblanks : Respelled ".\\./logs\\sta.log".toList
      (['\t'] ++ (".\\./logs\\sta.log".toList ++ ['\x0b'])) :=
    .blanks (List.forall_mem_singleton.mpr rfl) (List.forall_mem_singleton.mpr rfl)
  have hspelled : Relation.EqvGen Respelled "logs/sta.log".toList
      "\t.\\./logs\\sta.log\x0b".toList :=
    .trans _ _ _ (.rel _ _ hhere) (.trans _ _ _ (.rel _ _ hslashes) (.rel _ _ hblanks))
  exact ⟨hspelled, ofText_normal.2.2.2 _ _ hspelled⟩

end Signoff.SourcePath

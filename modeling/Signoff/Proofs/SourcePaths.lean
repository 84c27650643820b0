/-
# `Signoff.Proofs.SourcePaths` — the one spelling of a path

A path is trimmed, then its slashes are turned, then its leading `./` are dropped.  What is left is
not empty, has no backslash, does not begin with `./` and has no blank at its end (`Plain`).  But
nothing trims it after the last step, so a blank that stands behind the `./` comes to the front.
Such a path is changed again if it is normalized again: the blank is trimmed away then, and another
`./` may stand behind it.  Every other path stays as it is.
-/
import Signoff.Finding
import Signoff.Proofs.Text.Blank

namespace Signoff.SourcePath

open Text (isBlank trimChars Trimmed)

/-- Any number of `./`, each with either slash. -/
inductive Here : List Char → Prop
  | nil : Here []
  | step {slash : Char} {cs : List Char} :
      slash = '/' ∨ slash = '\\' → Here cs → Here ('.' :: slash :: cs)

/-- Behind blanks and one or more `./` stands a blank, and then something that is none. -/
inductive BlankBehindHere : List Char → Prop
  | intro {before here rest : List Char} {c : Char} :
      (∀ d ∈ before, isBlank d = true) → Here here → here ≠ [] → isBlank c = true →
      (∃ d ∈ rest, isBlank d = false) → BlankBehindHere (before ++ (here ++ c :: rest))

/-- What is left of a path when it is normalized. -/
structure Plain (cs : List Char) : Prop where
  ne_nil : cs ≠ []
  no_backslash : '\\' ∉ cs
  no_here : ¬ ['.', '/'] <+: cs
  last_not_blank : ∀ c ∈ cs.getLast?, isBlank c = false

variable {c : Char} {cs here : List Char}

/-! ## Slashes -/

theorem forwardSlash_of_ne (hc : c ≠ '\\') : forwardSlash c = c := if_neg hc

theorem forwardSlash_ne (c : Char) : forwardSlash c ≠ '\\' := by
  rw [forwardSlash]
  split
  · decide
  · assumption

theorem forwardSlash_of_slash (hc : c = '/' ∨ c = '\\') : forwardSlash c = '/' := by
  rcases hc with rfl | rfl <;> decide

theorem eq_of_forwardSlash_eq_slash (h : forwardSlash c = '/') : c = '/' ∨ c = '\\' := by
  by_cases hc : c = '\\'
  · exact .inr hc
  · rw [forwardSlash_of_ne hc] at h
    exact .inl h

theorem forwardSlash_eq_dot (h : forwardSlash c = '.') : c = '.' := by
  by_cases hc : c = '\\'
  · subst hc
    exact absurd h (by decide)
  · rwa [forwardSlash_of_ne hc] at h

theorem isBlank_forwardSlash (c : Char) : isBlank (forwardSlash c) = isBlank c := by
  by_cases hc : c = '\\'
  · subst hc
    decide
  · rw [forwardSlash_of_ne hc]

theorem not_mem_map_forwardSlash : '\\' ∉ cs.map forwardSlash := by
  intro h
  obtain ⟨c, -, hc⟩ := List.mem_map.mp h
  exact forwardSlash_ne c hc

theorem map_forwardSlash_of_not_mem (h : '\\' ∉ cs) : cs.map forwardSlash = cs := by
  have hsame : cs.map forwardSlash = cs.map id :=
    List.map_congr_left fun c hc => forwardSlash_of_ne fun heq => h (heq ▸ hc)
  rw [hsame, List.map_id]

theorem trimmed_map_forwardSlash (h : Trimmed cs) : Trimmed (cs.map forwardSlash) := by
  constructor
  · intro d hd
    rw [List.head?_map] at hd
    obtain ⟨c, hc, rfl⟩ := Option.map_eq_some_iff.mp hd
    rw [isBlank_forwardSlash, h.head_not_blank c hc]
  · intro d hd
    rw [List.getLast?_map] at hd
    obtain ⟨c, hc, rfl⟩ := Option.map_eq_some_iff.mp hd
    rw [isBlank_forwardSlash, h.last_not_blank c hc]

/-! ## Leading `./` -/

theorem dropHere_of_ne (h : ∀ rest, cs ≠ '.' :: '/' :: rest) : dropHere cs = cs := by
  rw [dropHere]
  exact h

theorem dropHere_of_not_here (h : ¬ ['.', '/'] <+: cs) : dropHere cs = cs :=
  dropHere_of_ne fun rest hcs => h ⟨rest, hcs.symm⟩

theorem not_here_dropHere (cs : List Char) : ¬ ['.', '/'] <+: dropHere cs := by
  induction cs using dropHere.induct with
  | case1 cs ih => rwa [dropHere]
  | case2 cs hne =>
      rw [dropHere_of_ne hne]
      rintro ⟨rest, rfl⟩
      exact hne rest rfl

theorem exists_here_append (cs : List Char) : ∃ here, Here here ∧ cs = here ++ dropHere cs := by
  induction cs using dropHere.induct with
  | case1 cs ih =>
      obtain ⟨here, hhere, hcs⟩ := ih
      refine ⟨'.' :: '/' :: here, .step (.inl rfl) hhere, ?_⟩
      rw [dropHere, List.cons_append, List.cons_append, ← hcs]
  | case2 cs hne => exact ⟨[], .nil, (dropHere_of_ne hne).symm⟩

theorem Here.dropHere_append (h : Here here) (cs : List Char) :
    dropHere (here.map forwardSlash ++ cs) = dropHere cs := by
  induction h with
  | nil => rfl
  | step hslash _ ih =>
      rw [List.map_cons, List.map_cons, forwardSlash_of_slash hslash,
        show forwardSlash '.' = '.' from rfl, List.cons_append, List.cons_append, dropHere, ih]

theorem Here.of_map (h : Here (cs.map forwardSlash)) : Here cs := by
  generalize hds : cs.map forwardSlash = ds at h
  induction h generalizing cs with
  | nil =>
      rw [List.map_eq_nil_iff.mp hds]
      exact .nil
  | step hslash _ ih =>
      obtain ⟨d, ds, rfl, hd, hds⟩ := List.map_eq_cons_iff.mp hds
      obtain ⟨e, es, rfl, he, hes⟩ := List.map_eq_cons_iff.mp hds
      obtain rfl := forwardSlash_eq_dot hd
      -- turned slashes are no backslashes
      rcases hslash with rfl | rfl
      · exact .step (eq_of_forwardSlash_eq_slash he) (ih hes)
      · exact absurd he (forwardSlash_ne e)

theorem Here.head_not_blank (h : Here here) : ∀ c ∈ here.head?, isBlank c = false := by
  cases h with
  | nil => nofun
  | step _ _ =>
      rintro c ⟨⟩
      decide

/-! ## What is left -/

theorem normalChars_of_eq_nil (h : dropHere ((trimChars cs).map forwardSlash) = []) :
    normalChars cs = ['.'] := by
  rw [normalChars, h]

theorem normalChars_of_ne_nil (h : dropHere ((trimChars cs).map forwardSlash) ≠ []) :
    normalChars cs = dropHere ((trimChars cs).map forwardSlash) := by
  rw [normalChars]
  split
  · next hnil => exact absurd hnil h
  · next hcons => exact hcons.symm

theorem plain_normalChars (cs : List Char) : Plain (normalChars cs) := by
  by_cases hnil : dropHere ((trimChars cs).map forwardSlash) = []
  · rw [normalChars_of_eq_nil hnil]
    exact ⟨by decide, by decide, by decide, by rintro c ⟨⟩; decide⟩
  · obtain ⟨here, -, hsplit⟩ := exists_here_append ((trimChars cs).map forwardSlash)
    have hsuffix : dropHere ((trimChars cs).map forwardSlash) <:+
        (trimChars cs).map forwardSlash := ⟨here, hsplit.symm⟩
    rw [normalChars_of_ne_nil hnil]
    refine ⟨hnil, fun hmem => not_mem_map_forwardSlash (hsuffix.subset hmem), not_here_dropHere _,
      fun c hc => ?_⟩
    have hlast := (trimmed_map_forwardSlash (Text.trimmed_trimChars cs)).last_not_blank c
    rw [hsplit, List.getLast?_append_of_ne_nil here hnil] at hlast
    exact hlast hc

theorem Plain.normalChars_eq (h : Plain cs) (hhead : ∀ c ∈ cs.head?, isBlank c = false) :
    normalChars cs = cs := by
  have htrimmed : Trimmed cs := ⟨hhead, h.last_not_blank⟩
  have hcs : dropHere ((trimChars cs).map forwardSlash) = cs := by
    rw [htrimmed.trimChars_eq, map_forwardSlash_of_not_mem h.no_backslash,
      dropHere_of_not_here h.no_here]
  rw [normalChars_of_ne_nil (hcs.symm ▸ h.ne_nil), hcs]

theorem length_normalChars_le (cs : List Char) :
    (normalChars cs).length ≤ max 1 (trimChars cs).length := by
  by_cases hnil : dropHere ((trimChars cs).map forwardSlash) = []
  · rw [normalChars_of_eq_nil hnil]
    exact Nat.le_max_left 1 _
  · obtain ⟨here, -, hsplit⟩ := exists_here_append ((trimChars cs).map forwardSlash)
    have hlength := congrArg List.length hsplit
    rw [List.length_map, List.length_append] at hlength
    rw [normalChars_of_ne_nil hnil]
    omega

/-- If a blank stands in front, it is trimmed away, and the text gets shorter. -/
theorem Plain.length_normalChars_lt (h : Plain cs) (hc : c ∈ cs.head?) (hblank : isBlank c = true) :
    (normalChars cs).length < cs.length := by
  obtain ⟨rest, rfl⟩ := List.head?_eq_some_iff.mp hc
  have hrest : rest ≠ [] := by
    rintro rfl
    have hlast := h.last_not_blank c rfl
    rw [hblank] at hlast
    cases hlast
  have htrim : trimChars (c :: rest) = trimChars rest := by
    have hblanks : ∀ d ∈ [c], isBlank d = true := fun d hd => List.mem_singleton.mp hd ▸ hblank
    have haround : trimChars ([c] ++ (rest ++ [])) = trimChars rest :=
      Text.trimChars_blanks_around hblanks nofun
    rwa [List.append_nil] at haround
  have hle := length_normalChars_le (c :: rest)
  have hpos := List.length_pos_iff.mpr hrest
  have htrimLe := Text.length_trimChars_le rest
  rw [htrim] at hle
  rw [List.length_cons]
  omega

/-! ## Normalizing again -/

theorem head_dropHere_blank_iff :
    (∃ c ∈ (dropHere (cs.map forwardSlash)).head?, isBlank c = true) ↔
      ∃ here c rest, cs = here ++ c :: rest ∧ Here here ∧ isBlank c = true := by
  constructor
  · rintro ⟨c, hc, hblank⟩
    obtain ⟨rest, hrest⟩ := List.head?_eq_some_iff.mp hc
    obtain ⟨here, hhere, hsplit⟩ := exists_here_append (cs.map forwardSlash)
    rw [hrest] at hsplit
    obtain ⟨here, tail, rfl, rfl, htail⟩ := List.map_eq_append_iff.mp hsplit
    obtain ⟨d, rest, rfl, rfl, -⟩ := List.map_eq_cons_iff.mp htail
    rw [isBlank_forwardSlash] at hblank
    exact ⟨here, d, rest, rfl, hhere.of_map, hblank⟩
  · rintro ⟨here, c, rest, rfl, hhere, hblank⟩
    have hblank : isBlank (forwardSlash c) = true := by rwa [isBlank_forwardSlash]
    have hstop : ¬ ['.', '/'] <+: forwardSlash c :: rest.map forwardSlash := by
      rintro ⟨tail, htail⟩
      rw [← (List.cons.inj htail).1] at hblank
      exact absurd hblank (by decide)
    rw [List.map_append, List.map_cons, hhere.dropHere_append, dropHere_of_not_here hstop]
    exact ⟨_, rfl, hblank⟩

/-- In the trimmed text, the blanks before and the characters behind need not be said. -/
theorem blankBehindHere_iff :
    BlankBehindHere cs ↔
      ∃ here c rest, trimChars cs = here ++ c :: rest ∧ Here here ∧ isBlank c = true := by
  constructor
  · rintro @⟨before, here, rest, c, hbefore, hhere, hne, hc, d, hd, hnot⟩
    have hleft : trimChars rest ≠ [] := by
      intro hnil
      rw [Text.trimChars_eq_nil_iff.mp hnil d hd] at hnot
      cases hnot
    have hlast := (Text.trimmed_trimChars rest).last_not_blank
    -- what is trimmed off at the end of the text stands behind all this
    obtain ⟨u, v, -, hv, hrest⟩ := Text.exists_blanks_around rest
    generalize trimChars rest = left at hleft hlast hrest
    subst hrest
    have htrimmed : Trimmed (here ++ c :: u ++ left) :=
      Text.trimmed_append (by rw [List.head?_append_of_ne_nil here hne]; exact hhere.head_not_blank)
        (by simp) hlast hleft
    have htext : before ++ (here ++ c :: (u ++ (left ++ v))) =
        before ++ ((here ++ c :: u ++ left) ++ v) := by simp
    refine ⟨here, c, u ++ left, ?_, hhere, hc⟩
    rw [htext, Text.trimChars_eq hbefore htrimmed hv, List.append_assoc, List.cons_append]
  · rintro ⟨here, c, rest, hsplit, hhere, hc⟩
    obtain ⟨u, v, hu, -, hcs⟩ := Text.exists_blanks_around cs
    have htrimmed := Text.trimmed_trimChars cs
    rw [hsplit] at hcs htrimmed
    have hne : here ≠ [] := by
      rintro rfl
      rw [htrimmed.head_not_blank c rfl] at hc
      cases hc
    have hrest : rest ≠ [] := by
      rintro rfl
      rw [htrimmed.last_not_blank c (List.getLast?_concat)] at hc
      cases hc
    have hlast : isBlank (rest.getLast hrest) = false := by
      refine htrimmed.last_not_blank _ ?_
      rw [List.append_cons, List.getLast?_append_of_ne_nil _ hrest,
        List.getLast?_eq_some_getLast hrest]
      rfl
    rw [hcs, List.append_assoc, List.cons_append]
    exact .intro hu hhere hne hc ⟨_, List.mem_append_left v (List.getLast_mem hrest), hlast⟩

theorem head_normalChars_blank_iff :
    (∃ c ∈ (normalChars cs).head?, isBlank c = true) ↔ BlankBehindHere cs := by
  rw [blankBehindHere_iff, ← head_dropHere_blank_iff]
  by_cases hnil : dropHere ((trimChars cs).map forwardSlash) = []
  · rw [normalChars_of_eq_nil hnil, hnil]
    refine iff_of_false ?_ nofun
    rintro ⟨c, ⟨⟩, hdot⟩
    exact absurd hdot (by decide)
  · rw [normalChars_of_ne_nil hnil]

theorem toList_ofText (s : String) : (ofText s).text.toList = normalChars s.toList :=
  String.toList_ofList

theorem ofText_eq_iff {s t : String} :
    ofText s = ofText t ↔ normalChars s.toList = normalChars t.toList := by
  rw [ofText, ofText, SourcePath.mk.injEq, String.ofList_inj]

/-- **Normalizing twice.**  A path that was normalized stays as it is when it is normalized again,
unless a blank stands behind the `./` that it began with; then it gets shorter. -/
theorem ofText_again (s : String) :
    (ofText (ofText s).text = ofText s ↔ ¬ BlankBehindHere s.toList) ∧
      (BlankBehindHere s.toList →
        (ofText (ofText s).text).text.length < (ofText s).text.length) := by
  have hplain := plain_normalChars s.toList
  have hshorter : BlankBehindHere s.toList →
      (normalChars (normalChars s.toList)).length < (normalChars s.toList).length := by
    intro h
    obtain ⟨c, hc, hblank⟩ := head_normalChars_blank_iff.mpr h
    exact hplain.length_normalChars_lt hc hblank
  constructor
  · rw [ofText_eq_iff, toList_ofText]
    constructor
    · intro hsame h
      have hlt := hshorter h
      rw [hsame] at hlt
      exact Nat.lt_irrefl _ hlt
    · intro h
      refine hplain.normalChars_eq fun c hc => Bool.eq_false_iff.mpr fun hblank => ?_
      exact h (head_normalChars_blank_iff.mp ⟨c, hc, hblank⟩)
  · intro h
    rw [← String.length_toList, ← String.length_toList, toList_ofText, toList_ofText]
    exact hshorter h

/-- The path `./ a` becomes ` a` first, and then `a`. -/
theorem ofText_again_shorter :
    BlankBehindHere "./ a".toList ∧
      (ofText (ofText "./ a").text).text.length < (ofText "./ a").text.length := by
  have hblank : BlankBehindHere ([] ++ (['.', '/'] ++ ' ' :: ['a'])) :=
    .intro nofun (.step (.inl rfl) .nil) (by simp) (by decide) ⟨'a', by simp, by decide⟩
  exact ⟨hblank, (ofText_again "./ a").2 hblank⟩

theorem not_ofText_ofText : ¬ ∀ s : String, ofText (ofText s).text = ofText s := by
  intro h
  exact absurd (h "./ a") (by decide)

end Signoff.SourcePath

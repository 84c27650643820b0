/-
# `Signoff.Proofs.FileTexts` — what writing leaves in the files

The actions on files in memory follow paths and may fail on the way; what they leave behind is said by
two functions of the files before.  A path names one place, whatever stands there (`Files.place`), and
a place holds a text or none (`Files.text?`).  An action that succeeds has put some texts into some
files, one after another, and every other file holds what it held (`Files.Wrote`): setting a file is
one such step, making directories is none, and steps compose.

Directories that were made are left out of the account on purpose: they are no files.
-/
import Mathlib
import Signoff.Disk
import Signoff.Proofs.Firsts

namespace Signoff.Files

variable {f g h : Files} {path text : String} {p q : List String} {names : List String}

/-! ## Places and texts -/

def place (f : Files) (path : String) : List String :=
  (PathText.steps path).foldl step (f.start path)

/-- The text of the file at a place; `none` where there is no file. -/
def text? (f : Files) (p : List String) : Option String :=
  match f.entry? p with
  | some (.file text) => some text
  | _ => none

theorem entry?_nil : f.entry? [] = some .directory := rfl

theorem entry?_of_ne (hp : p ≠ []) : f.entry? p = f.entries.lookup p := if_neg hp

/-- Where paths lead depends only on where they start. -/
theorem place_congr (hhere : g.here = f.here) : g.place path = f.place path := by
  rw [place, place, start, start, hhere]

/-! ## Following a path -/

theorem walk_eq_ok (hwalk : f.walk p names = .ok q) : q = names.foldl step p := by
  induction names generalizing p with
  | nil => exact (Except.ok.inj hwalk).symm
  | cons name names ih =>
      rw [walk] at hwalk
      split at hwalk
      · exact ih hwalk
      · cases hwalk
      · cases hwalk

theorem locate_eq_ok (hlocate : f.locate path = .ok q) : q = f.place path := by
  rw [locate] at hlocate
  split at hlocate
  · cases hlocate
  · exact walk_eq_ok hlocate

theorem find_eq_ok {e : Option Entry} (hfind : f.find path = .ok (q, e)) :
    q = f.place path ∧ f.entry? q = e := by
  cases hlocate : f.locate path with
  | error fault => simp [find, hlocate, Bind.bind, Except.bind] at hfind
  | ok p =>
      have hp := locate_eq_ok hlocate
      simp only [find, hlocate, Bind.bind, Except.bind] at hfind
      split at hfind
      · split at hfind
        · cases hfind
        · rename_i hentry _
          obtain ⟨rfl, rfl⟩ := Prod.mk.inj (Except.ok.inj hfind)
          exact ⟨hp, hentry⟩
      · obtain ⟨rfl, rfl⟩ := Prod.mk.inj (Except.ok.inj hfind)
        exact ⟨hp, rfl⟩

/-! ## Putting something at a place -/

theorem here_put (e : Entry) : (f.put p e).here = f.here := by
  rw [put]
  split <;> rfl

theorem lookup_map_replace (entries : List (List String × Entry)) (e : Entry) :
    (entries.map fun x => if x.1 == p then (p, e) else x).lookup q =
      if q = p then (entries.lookup p).map fun _ => e else entries.lookup q := by
  induction entries with
  | nil => simp
  | cons x entries ih =>
      obtain ⟨k, old⟩ := x
      by_cases hk : k = p
      · subst hk
        simp only [List.map_cons, beq_self_eq_true, if_true, lookup_cons_eq_ite, ih]
        by_cases hq : q = k <;> simp [hq]
      · simp only [List.map_cons, beq_iff_eq, hk, if_false, lookup_cons_eq_ite] at ih ⊢
        rw [ih]
        by_cases hq : q = p
        · simp [hq, Ne.symm hk]
        · simp [hq]

/-- What stands at a place after something was put somewhere. -/
theorem entry?_put (hp : p ≠ []) (e : Entry) :
    entry? (f.put p e) q = if q = p then some e else f.entry? q := by
  by_cases hq : q = []
  · rw [hq, entry?_nil, entry?_nil, if_neg hp.symm]
  · rw [entry?_of_ne hq, entry?_of_ne hq, put]
    cases hlookup : f.entries.lookup p with
    | some old =>
        simp only [Option.isSome_some, if_true, lookup_map_replace, hlookup, Option.map_some]
    | none =>
        simp only [Option.isSome_none, Bool.false_eq_true, if_false, List.lookup_append,
          lookup_cons_eq_ite, List.lookup_nil]
        by_cases hqp : q = p
        · simp [hqp, hlookup]
        · simp [hqp]

theorem ne_nil_of_ne_directory (hp : f.entry? p ≠ some .directory) : p ≠ [] := by
  rintro rfl
  exact hp entry?_nil

theorem text?_put_file (hp : p ≠ []) :
    (f.put p (.file text)).text? q = if q = p then some text else f.text? q := by
  rw [text?, entry?_put hp]
  by_cases hq : q = p <;> simp [hq, text?]

theorem text?_put_directory (hp : f.entry? p = none) :
    (f.put p .directory).text? q = f.text? q := by
  rw [text?, entry?_put (ne_nil_of_ne_directory (by rw [hp]; nofun))]
  by_cases hq : q = p
  · simp [hq, text?, hp]
  · simp [hq, text?]

/-! ## Texts that were written -/

/-- What the file at a place holds after a text was put into a file, if it held `old` before. -/
def textWith (f : Files) (q : List String) (old : Option String) (out : String × String) :
    Option String :=
  if q = f.place out.1 then some out.2 else old

/-- From some files to others, texts were put into files, one after another; every other file holds
what it held. -/
structure Wrote (f : Files) (outs : List (String × String)) (g : Files) : Prop where
  here_eq : g.here = f.here
  text?_eq : ∀ q, g.text? q = outs.foldl (f.textWith q) (f.text? q)

/-- Texts for other places leave a place as it is. -/
theorem foldl_textWith_of_ne {outs : List (String × String)} {old : Option String}
    (hq : ∀ o ∈ outs, q ≠ f.place o.1) : outs.foldl (f.textWith q) old = old := by
  induction outs with
  | nil => rfl
  | cons o outs ih =>
      rw [List.foldl_cons, textWith, if_neg (hq o List.mem_cons_self)]
      exact ih fun o ho => hq o (List.mem_cons_of_mem _ ho)

namespace Wrote

variable {outs outs₁ outs₂ : List (String × String)}

theorem refl (f : Files) : Wrote f [] f := ⟨rfl, fun _ => rfl⟩

theorem append (hfg : Wrote f outs₁ g) (hgh : Wrote g outs₂ h) : Wrote f (outs₁ ++ outs₂) h where
  here_eq := hgh.here_eq.trans hfg.here_eq
  text?_eq q := by
    have hwith : g.textWith q = f.textWith q := by
      funext old out
      rw [textWith, textWith, place_congr hfg.here_eq]
    rw [hgh.text?_eq, hfg.text?_eq, hwith, List.foldl_append]

theorem text?_of_ne (hw : Wrote f outs g) (hq : ∀ o ∈ outs, q ≠ f.place o.1) :
    g.text? q = f.text? q :=
  (hw.text?_eq q).trans (foldl_textWith_of_ne hq)

theorem text?_of_mem (hw : Wrote f outs g) (hplaces : (outs.map fun o => f.place o.1).Nodup)
    (hout : (path, text) ∈ outs) : g.text? (f.place path) = some text := by
  obtain ⟨before, after, rfl⟩ := List.append_of_mem hout
  rw [List.map_append, List.map_cons, List.nodup_append, List.nodup_cons] at hplaces
  have hafter : ∀ o ∈ after, f.place path ≠ f.place o.1 := by
    intro o ho heq
    exact hplaces.2.1.1 (List.mem_map.mpr ⟨o, ho, heq.symm⟩)
  rw [hw.text?_eq, List.foldl_append, List.foldl_cons, foldl_textWith_of_ne hafter, textWith,
    if_pos rfl]

end Wrote

/-! ## The actions -/

theorem wrote_of_write (hwrite : f.write path text = .ok g) : Wrote f [(path, text)] g := by
  have hput : ∀ {p}, p = f.place path → f.entry? p ≠ some .directory →
      Wrote f [(path, text)] (f.put p (.file text)) := by
    rintro p rfl hentry
    exact ⟨here_put _, fun q => text?_put_file (ne_nil_of_ne_directory hentry)⟩
  rw [write] at hwrite
  split at hwrite
  · cases hwrite
  · cases hwrite
  · rename_i hfind
    obtain ⟨hp, hentry⟩ := find_eq_ok hfind
    rw [← Except.ok.inj hwrite]
    exact hput hp (by rw [hentry]; nofun)
  · rename_i hfind
    obtain ⟨hp, hentry⟩ := find_eq_ok hfind
    split at hwrite
    · cases hwrite
    · rw [← Except.ok.inj hwrite]
      exact hput hp (by rw [hentry]; nofun)

theorem wrote_of_makeAlong (hmake : f.makeAlong p names = .ok g) : Wrote f [] g := by
  induction names generalizing f p with
  | nil =>
      rw [← Except.ok.inj hmake]
      exact Wrote.refl f
  | cons name names ih =>
      simp only [makeAlong] at hmake
      split at hmake
      · exact ih hmake
      · rename_i hentry
        have hput : Wrote f [] (f.put (step p name) .directory) :=
          ⟨here_put _, fun q => text?_put_directory hentry⟩
        exact hput.append (ih hmake)
      · cases hmake

theorem wrote_of_makeDirs (hmake : f.makeDirs path = .ok g) : Wrote f [] g :=
  wrote_of_makeAlong hmake

end Signoff.Files

/-
# `Signoff.Proofs.Matchers` — when a matcher can be built

Building a matcher can only go wrong for globs, where every waiver name has to read as a pattern and
to compile.  The names are taken in their order, so what is reported is the fault of the first name
that is no pattern, whatever comes after it (`MatchKind.build_eq_error_iff`).  This is said of an
engine that takes every pattern; with any other the matcher is the same, unless one of the names
spells what the engine refuses (`MatchKind.agrees_buildOn`).
-/
import Signoff.Matcher
import Signoff.Proofs.Firsts

namespace Signoff

/-- The text reads as a glob pattern. -/
def Glob.reads (text : String) : Bool := (Pattern.ofText text).isOk

theorem Glob.reads_iff {text : String} :
    reads text = true ↔ ∃ p, Pattern.ofText text = .ok p := by
  rw [reads]
  cases Pattern.ofText text with
  | error fault => simp [Except.isOk, Except.toBool]
  | ok p => simp [Except.isOk, Except.toBool]

theorem Glob.not_reads_of_ofText {text : String} {fault : Fault}
    (h : Pattern.ofText text = .error fault) : reads text = false := by
  rw [reads, h]
  rfl

theorem Glob.ofText_bracket : Pattern.ofText "[" = .error .unclosedClass := by cbv

/-- What is reported for the first of the names that is no glob pattern. -/
inductive GlobFault (names : List String) : ConfigError → Prop
  | first {name : String} {fault : Glob.Fault} : IsFirst (fun n => !Glob.reads n) name names →
      Glob.Pattern.ofText name = .error fault →
      GlobFault names (.invalidWaiverPattern name (fault.fullMessage name))

namespace Matcher.GlobTable

theorem ofNames_isOk_iff {names : List String} :
    (∃ table, ofNames names = .ok table) ↔ ∀ name ∈ names, Glob.reads name = true := by
  induction names with
  | nil => simp [ofNames_nil]
  | cons name names ih =>
      cases hname : Glob.Pattern.ofText name with
      | error fault => simp [ofNames_cons, hname, Glob.not_reads_of_ofText hname]
      | ok p =>
          rw [List.forall_mem_cons, and_iff_right (Glob.reads_iff.mpr ⟨p, hname⟩), ← ih]
          cases h : ofNames names <;> simp [ofNames_cons, hname, h, Except.map]

/-- If no table can be made, the first name that is no pattern is reported. -/
theorem ofNames_eq_error_iff {names : List String} {err : ConfigError} :
    ofNames names = .error err ↔ GlobFault names err := by
  induction names with
  | nil =>
      constructor
      · intro h
        simp [ofNames_nil] at h
      · rintro ⟨hfirst, -⟩
        exact absurd hfirst.mem List.not_mem_nil
  | cons name names ih =>
      cases hname : Glob.Pattern.ofText name with
      | error fault =>
          have hfirst : IsFirst (fun n => !Glob.reads n) name (name :: names) :=
            .head (by simp [Glob.not_reads_of_ofText hname])
          simp only [ofNames_cons, hname, Except.error.injEq]
          constructor
          · rintro rfl
            exact .first hfirst hname
          · rintro ⟨hfirst', hfault⟩
            obtain rfl := hfirst.unique hfirst'
            rw [hname] at hfault
            rw [Except.error.inj hfault]
      | ok p =>
          have hskip : ∀ n, IsFirst (fun n => !Glob.reads n) n (name :: names) ↔
              IsFirst (fun n => !Glob.reads n) n names :=
            fun n => isFirst_cons_of_neg (by simp [Glob.reads_iff.mpr ⟨p, hname⟩])
          have hrest : ofNames (name :: names) = .error err ↔ ofNames names = .error err := by
            cases h : ofNames names <;> simp [ofNames_cons, hname, h, Except.map]
          rw [hrest, ih]
          constructor
          · rintro ⟨hfirst, hfault⟩
            exact .first ((hskip _).mpr hfirst) hfault
          · rintro ⟨hfirst, hfault⟩
            exact .first ((hskip _).mp hfirst) hfault

theorem agrees_compile {σ : Type} (engine : Glob.Engine σ) (names : List String) :
    Call.Agrees (ofNames names) (engine.Refuses names) (compile engine names) := by
  induction names with
  | nil => exact .returned
  | cons name names ih =>
      rw [compile, ofNames_cons]
      cases hname : Glob.Pattern.ofText name with
      | error fault => exact .returned
      | ok p =>
          cases hp : engine p with
          | error s =>
              simp only [hp]
              exact .stopped ⟨name, List.mem_cons_self, p, hname, hp⟩
          | ok u =>
              simp only [hp]
              refine (ih.mono ?_).map
              rintro s ⟨n, hn, hs⟩
              exact ⟨n, List.mem_cons_of_mem name hn, hs⟩

theorem compiles_of_compile {σ : Type} {engine : Glob.Engine σ} {names : List String}
    {table : GlobTable} (h : compile engine names = .ok table) : engine.Compiles names := by
  induction names generalizing table with
  | nil =>
      intro name hname
      cases hname
  | cons name names ih =>
      rw [compile] at h
      cases hname : Glob.Pattern.ofText name with
      | error fault => simp [hname] at h
      | ok p =>
          cases hp : engine p with
          | error s => simp [hname, hp] at h
          | ok u =>
              simp only [hname, hp] at h
              obtain ⟨rest, hrest, -⟩ := Call.bind_eq_ok_iff.mp h
              refine List.forall_mem_cons.mpr ⟨?_, ih hrest⟩
              intro p' hp'
              obtain rfl := Except.ok.inj (hname.symm.trans hp')
              exact hp

end Matcher.GlobTable

namespace MatchKind

variable {k : MatchKind} {ws : List NamedWaiver}

theorem build_of_ne_glob (ws : List NamedWaiver) (hk : k ≠ .glob) :
    ∃ matcher, k.build ws = .ok matcher := by
  cases k with
  | glob => exact absurd rfl hk
  | exact => exact ⟨_, rfl⟩
  | caseInsensitive => exact ⟨_, rfl⟩
  | normalized => exact ⟨_, rfl⟩
  | view c => exact ⟨_, rfl⟩

theorem build_isOk_iff :
    (∃ matcher, k.build ws = .ok matcher) ↔
      (k = .glob → ∀ w ∈ ws, Glob.reads w.name = true) := by
  by_cases hk : k = .glob
  · subst hk
    have hnames : (∃ table, Matcher.GlobTable.ofNames (ws.map NamedWaiver.name) = .ok table) ↔
        ∀ w ∈ ws, Glob.reads w.name = true :=
      Matcher.GlobTable.ofNames_isOk_iff.trans List.forall_mem_map
    rw [imp_iff_right rfl, ← hnames]
    cases h : Matcher.GlobTable.ofNames (ws.map NamedWaiver.name) <;>
      simp [build_glob, h, Except.map]
  · exact iff_of_true (build_of_ne_glob ws hk) fun h => absurd h hk

theorem build_eq_error_iff {err : ConfigError} :
    k.build ws = .error err ↔ k = .glob ∧ GlobFault (ws.map NamedWaiver.name) err := by
  by_cases hk : k = .glob
  · subst hk
    rw [and_iff_right rfl, ← Matcher.GlobTable.ofNames_eq_error_iff]
    cases h : Matcher.GlobTable.ofNames (ws.map NamedWaiver.name) <;>
      simp [build_glob, h, Except.map]
  · obtain ⟨matcher, h⟩ := build_of_ne_glob ws hk
    rw [h]
    exact iff_of_false nofun fun hfault => hk hfault.1

theorem agrees_buildOn {σ : Type} (engine : Glob.Engine σ) (k : MatchKind) (ws : List NamedWaiver) :
    Call.Agrees (k.build ws)
      (fun s => k = .glob ∧ engine.Refuses (ws.map NamedWaiver.name) s) (k.buildOn engine ws) := by
  cases k with
  | glob =>
      rw [build_glob, buildOn]
      refine ((Matcher.GlobTable.agrees_compile engine _).mono ?_).map
      intro s hs
      exact ⟨rfl, hs⟩
  | exact => exact .returned
  | caseInsensitive => exact .returned
  | normalized => exact .returned
  | view c => exact .returned

theorem compiles_of_buildOn {σ : Type} {engine : Glob.Engine σ} {matcher : Matcher}
    (h : glob.buildOn engine ws = .ok matcher) :
    engine.Compiles (ws.map NamedWaiver.name) := by
  rw [buildOn] at h
  obtain ⟨table, htable, -⟩ := Call.bind_eq_ok_iff.mp h
  exact Matcher.GlobTable.compiles_of_compile htable

end MatchKind

end Signoff

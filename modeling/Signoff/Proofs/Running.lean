/-
# `Signoff.Proofs.Running` — what keeps a check that loads from running

A configuration that loads and evidence that fits it leave one thing to fail: the matcher.  It is
built from all waive entries in every mode, while loading looks at them in selective mode only.  So
a check that declares globs and is disabled or forced to pass fails at an entry that is no glob,
although nothing is matched there and a comment is never read as a pattern anywhere else.  No other
failure is reported (`run_of_loads`).

An entry that is a glob is compiled, and there the program may also stop without a report.  In
selective mode it cannot stop here, since the engine has taken the same globs on loading; in the
other modes the engine is asked for the first time, and that it takes the entries is a hypothesis of
the success half.  A run that ends with a report ends with the same report under an engine that
refuses nothing (`Run.eq_ok_of_runOn`).
-/
import Mathlib
import Signoff.Run
import Signoff.Proofs.EvidenceRecords
import Signoff.Proofs.Matchers
import Signoff.Proofs.Resolution

namespace Signoff

/-! ## Evidence -/

theorem EvidenceFile.fits_of_parse {text : String} {type : CheckType} {e : FlaggedEvidence}
    (h : EvidenceFile.parse text type = .ok e) : e.evidence.Fits type := by
  obtain ⟨f, -, -, h⟩ := parse_eq_ok_iff.mp h
  cases hp : type.usesPatterns with
  | true =>
      by_cases hlists : (f.violations.isSome || f.passes.isSome) = true
      · simp [evidence, hp, hlists] at h
      · simp only [evidence, hp, hlists, if_true, Bool.false_eq_true, if_false,
          Except.ok.injEq] at h
        rw [← h]
        exact hp
  | false =>
      by_cases hlist : f.findings.isSome = true
      · simp [evidence, hp, hlist] at h
      · simp only [evidence, hp, hlist, Bool.false_eq_true, if_false, Except.ok.injEq] at h
        rw [← h]
        exact hp

theorem CheckModel.evaluate_isOk {m : CheckModel} {ws : List String} {e : Evidence}
    {ctx : CheckContext} (hvalid : m.validate = .ok ws) (hfits : e.Fits m.type) :
    ∃ r, m.evaluate e ctx = .ok r := by
  obtain ⟨c, hc⟩ := Classification.classify_isOk_iff.mpr hfits
  exact ⟨_, CheckModel.evaluate_eq_ok_iff.mpr ⟨(validate_eq_ok_iff.mp hvalid).1, c, hc, rfl⟩⟩

/-! ## The run -/

namespace Run

variable {stamp : Stamp} {config evidence : String} {c : Config.Resolved} {e : FlaggedEvidence}

theorem mapError_eq_ok_iff {ε ε' α : Type} {x : Except ε α} {f : ε → ε'} {a : α} :
    x.mapError f = .ok a ↔ x = .ok a := by
  cases x <;> simp [Except.mapError]

theorem evaluate_eq :
    evaluate c e = (do
      let matcher ← (c.checker.matchKind.build c.model.waivers.named).mapError fun err =>
        ⟨["build waiver matcher"], .config err⟩
      (c.model.evaluate e.evidence
        { checkId := c.checker.id
          descriptions := some c.checker.descriptions
          scoping := scoping c.checker.mode e
          matcher := matcher }).mapError fun err => ⟨["evaluate check"], .config err⟩) := by
  simp only [evaluate, evaluateOn, inStep, Call.result_bind, Call.result_mapError,
    Call.result_lift]
  rfl

theorem run_eq :
    run stamp config evidence = (do
      let c ← (Config.load config).mapError fun err => ⟨["load check configuration"], .config err⟩
      let e ← (EvidenceFile.parse evidence c.type).mapError (Failure.within "read evidence")
      let result ← evaluate c e
      .ok (report stamp c result)) := by
  simp only [run, runOn, inStep, Call.result_bind, Call.result_mapError, Call.result_lift,
    Call.result_pure]
  rfl

theorem evaluate_eq_ok_iff {result : Evaluation} :
    evaluate c e = .ok result ↔
      ∃ matcher, c.checker.matchKind.build c.model.waivers.named = .ok matcher ∧
        c.model.evaluate e.evidence
          { checkId := c.checker.id
            descriptions := some c.checker.descriptions
            scoping := scoping c.checker.mode e
            matcher := matcher } = .ok result := by
  simp only [evaluate_eq, bind_eq_ok_iff, mapError_eq_ok_iff]

theorem evaluate_of_build_eq_error {err : ConfigError}
    (h : c.checker.matchKind.build c.model.waivers.named = .error err) :
    evaluate c e = .error ⟨["build waiver matcher"], .config err⟩ := by
  rw [evaluate_eq, h]
  rfl

theorem run_eq_map (hc : Config.load config = .ok c)
    (he : EvidenceFile.parse evidence c.type = .ok e) :
    run stamp config evidence = (evaluate c e).map (report stamp c) := by
  rw [run_eq, hc]
  show ((EvidenceFile.parse evidence c.type).mapError _ >>= _) = _
  rw [he]
  show (evaluate c e >>= _) = _
  cases evaluate c e <;> rfl

/-- A run that ends with a report has read both texts, built the matcher and evaluated the check. -/
theorem run_eq_ok_iff {r : Report} :
    run stamp config evidence = .ok r ↔
      ∃ c e matcher result,
        Config.load config = .ok c ∧
        EvidenceFile.parse evidence c.type = .ok e ∧
        c.checker.matchKind.build c.model.waivers.named = .ok matcher ∧
        c.model.evaluate e.evidence
          { checkId := c.checker.id
            descriptions := some c.checker.descriptions
            scoping := scoping c.checker.mode e
            matcher := matcher } = .ok result ∧
        r = report stamp c result := by
  simp only [run_eq, bind_eq_ok_iff, mapError_eq_ok_iff, evaluate_eq_ok_iff, Except.ok.injEq]
  constructor
  · rintro ⟨c, hc, e, he, result, ⟨matcher, hmatcher, hresult⟩, rfl⟩
    exact ⟨c, e, matcher, result, hc, he, hmatcher, hresult, rfl⟩
  · rintro ⟨c, e, matcher, result, hc, he, hmatcher, hresult, rfl⟩
    exact ⟨c, hc, e, he, result, ⟨matcher, hmatcher, hresult⟩, rfl⟩

theorem evaluate_of_build {matcher : Matcher} (hc : Config.load config = .ok c)
    (he : EvidenceFile.parse evidence c.type = .ok e)
    (hbuild : c.checker.matchKind.build c.model.waivers.named = .ok matcher) :
    ∃ r, evaluate c e = .ok r := by
  obtain ⟨d, -, hd⟩ := Config.load_eq_ok_iff.mp hc
  obtain ⟨id, required, waived, warnings, mode, sep, kind, -, -, -, -, hvalid, -, -, -, rfl⟩ :=
    Config.Document.settle_eq_ok_iff.mp (Config.Document.resolve_eq_ok_iff.mp hd).1
  obtain ⟨r, hr⟩ := CheckModel.evaluate_isOk hvalid (EvidenceFile.fits_of_parse he)
  exact ⟨r, evaluate_eq_ok_iff.mpr ⟨matcher, hbuild, hr⟩⟩

theorem build_of_loads (hc : Config.load config = .ok c)
    (hmode : c.model.waivers.mode = .selective) :
    ∃ matcher, c.checker.matchKind.build c.model.waivers.named = .ok matcher := by
  obtain ⟨d, -, hd⟩ := Config.load_eq_ok_iff.mp hc
  exact (Config.Document.resolve_eq_ok_iff.mp hd).2 hmode

/-- The two ways in which a run of texts that load ends. -/
theorem run_outcomes (hc : Config.load config = .ok c)
    (he : EvidenceFile.parse evidence c.type = .ok e) :
    ((∃ report, run stamp config evidence = .ok report) ↔
      (c.checker.matchKind = .glob → c.model.waivers.mode ≠ .selective →
        ∀ w ∈ c.model.waivers.named, Glob.reads w.name = true)) ∧
    ∀ failure, run stamp config evidence = .error failure ↔
      c.checker.matchKind = .glob ∧ c.model.waivers.mode ≠ .selective ∧
        ∃ err, GlobFault (c.model.waivers.named.map NamedWaiver.name) err ∧
          failure = ⟨["build waiver matcher"], .config err⟩ := by
  rw [run_eq_map hc he]
  cases hbuild : c.checker.matchKind.build c.model.waivers.named with
  | ok matcher =>
      have hread := MatchKind.build_isOk_iff.mp ⟨matcher, hbuild⟩
      obtain ⟨r, hr⟩ := evaluate_of_build hc he hbuild
      rw [hr]
      refine ⟨⟨fun _ hkind _ => hread hkind, fun _ => ⟨_, rfl⟩⟩, fun failure => ⟨nofun, ?_⟩⟩
      rintro ⟨hkind, -, err, hfault, -⟩
      have herror := MatchKind.build_eq_error_iff.mpr ⟨hkind, hfault⟩
      rw [hbuild] at herror
      cases herror
  | error err =>
      obtain ⟨hkind, hfault⟩ := MatchKind.build_eq_error_iff.mp hbuild
      have hmode : c.model.waivers.mode ≠ .selective := by
        intro hmode
        obtain ⟨matcher, hmatcher⟩ := build_of_loads hc hmode
        rw [hbuild] at hmatcher
        cases hmatcher
      rw [evaluate_of_build_eq_error hbuild]
      constructor
      · constructor
        · rintro ⟨report, hreport⟩
          cases hreport
        · intro hread
          obtain ⟨matcher, hmatcher⟩ := MatchKind.build_isOk_iff.mpr fun _ => hread hkind hmode
          rw [hbuild] at hmatcher
          cases hmatcher
      · intro failure
        constructor
        · intro h
          exact ⟨hkind, hmode, err, hfault, (Except.error.inj h).symm⟩
        · rintro ⟨-, -, err', hfault', rfl⟩
          have herror := MatchKind.build_eq_error_iff.mpr ⟨hkind, hfault'⟩
          rw [Except.error.inj (hbuild.symm.trans herror)]
          rfl

/-! ### Engines -/

section Engines

variable {σ : Type} {engine : Glob.Engine σ}

theorem agrees_evaluateOn (engine : Glob.Engine σ) (c : Config.Resolved) (e : FlaggedEvidence) :
    Call.Agrees (evaluate c e)
      (fun s => c.checker.matchKind = .glob ∧
        engine.Refuses (c.model.waivers.named.map NamedWaiver.name) s)
      (evaluateOn engine c e) := by
  rw [evaluate_eq, evaluateOn]
  refine (MatchKind.agrees_buildOn engine _ _).mapError.bind fun matcher _ => ?_
  exact Call.Agrees.returned.mapError

/-- A run of texts that load reports the evaluation, or is stopped in it. -/
theorem agrees_runOn (hc : Config.loadOn engine config = .ok c)
    (he : EvidenceFile.parse evidence c.type = .ok e) :
    Call.Agrees (run stamp config evidence)
      (fun s => c.checker.matchKind = .glob ∧
        engine.Refuses (c.model.waivers.named.map NamedWaiver.name) s)
      (runOn engine stamp config evidence) := by
  have hrun : runOn engine stamp config evidence =
      evaluateOn engine c e >>= fun result => pure (report stamp c result) := by
    rw [runOn, hc, inStep, Call.mapError, Call.ok_bind, he, Except.mapError, Call.lift_ok,
      Call.ok_bind]
  rw [run_eq_map (Config.load_of_loadOn hc) he, hrun]
  exact (agrees_evaluateOn engine c e).map

/-- What is proved of the reports of `run` holds of the reports that are made with any engine. -/
theorem eq_ok_of_runOn {r : Report} (h : runOn engine stamp config evidence = .ok r) :
    run stamp config evidence = .ok r := by
  have hsteps := h
  simp only [runOn, inStep, Call.bind_eq_ok_iff, Call.mapError_eq_ok_iff, Call.lift_eq_ok_iff,
    mapError_eq_ok_iff] at hsteps
  obtain ⟨c, hc, e, he, -⟩ := hsteps
  exact (agrees_runOn hc he).eq_ok h

end Engines

end Run

/-- **Loading and running.**  A check whose configuration and evidence load runs, if the engine
takes the globs that it is given, unless it declares globs, has no waivers in effect, and one of its
waive entries is no glob; then the first of these is reported.  No other failure is reported with
any engine. -/
theorem run_of_loads {σ : Type} {engine : Glob.Engine σ} {stamp : Run.Stamp}
    {config evidence : String} {c : Config.Resolved} {e : FlaggedEvidence}
    (hc : Config.loadOn engine config = .ok c)
    (he : EvidenceFile.parse evidence c.type = .ok e) :
    (∀ failure, Run.runOn engine stamp config evidence = .error failure →
      c.checker.matchKind = .glob ∧ c.model.waivers.mode ≠ .selective ∧
        ∃ err, GlobFault (c.model.waivers.named.map NamedWaiver.name) err ∧
          failure = ⟨["build waiver matcher"], .config err⟩) ∧
    ((c.checker.matchKind = .glob → c.model.waivers.mode ≠ .selective →
        engine.Compiles (c.model.waivers.named.map NamedWaiver.name)) →
      ((∃ report, Run.runOn engine stamp config evidence = .ok report) ↔
        (c.checker.matchKind = .glob → c.model.waivers.mode ≠ .selective →
          ∀ w ∈ c.model.waivers.named, ∃ p, Glob.Pattern.ofText w.name = .ok p)) ∧
      ∀ failure, Run.runOn engine stamp config evidence = .error failure ↔
        c.checker.matchKind = .glob ∧ c.model.waivers.mode ≠ .selective ∧
          ∃ err, GlobFault (c.model.waivers.named.map NamedWaiver.name) err ∧
            failure = ⟨["build waiver matcher"], .config err⟩) := by
  obtain ⟨d, -, hresolve⟩ := Config.loadOn_eq_ok_iff.mp hc
  obtain ⟨hreports, hfails⟩ := @Run.run_outcomes stamp _ _ _ _ (Config.load_of_loadOn hc) he
  have hagrees := @Run.agrees_runOn stamp _ _ _ _ _ _ hc he
  refine ⟨fun failure hfailure => (hfails failure).mp (hagrees.eq_error hfailure), ?_⟩
  intro hcompiles
  have hnone : ∀ s, ¬ (c.checker.matchKind = .glob ∧
      engine.Refuses (c.model.waivers.named.map NamedWaiver.name) s) := by
    rintro s ⟨hkind, hs⟩
    refine Glob.Engine.compiles_iff.mp ?_ s hs
    -- in selective mode the engine has taken the same globs when the configuration was loaded
    by_cases hmode : c.model.waivers.mode = .selective
    · exact Config.Document.compiles_of_resolveOn hresolve hmode hkind
    · exact hcompiles hkind hmode
  rw [hagrees.eq_ofExcept hnone]
  simp only [Call.ofExcept_eq_ok_iff, Call.ofExcept_eq_error_iff, ← Glob.reads_iff]
  exact ⟨hreports, hfails⟩

/-! ## A comment that is no glob -/

section Bracket

/-- Globs are declared, but the pass is forced, so that the only entry is a comment. -/
def bracketConfig : String :=
  "[checker]\nid = \"C\"\nwaiver_match = \"glob\"\n[waivers]\nvalue = 0\nwaive_items = [\"[\"]\n"

def bracketToml : Toml.Value :=
  .table
    [("checker", .table [("id", .string "C"), ("waiver_match", .string "glob")]),
     ("waivers", .table [("value", .integer 0), ("waive_items", .array [.string "["])])]

def bracketCheck : Config.Resolved where
  checker := ⟨"C", "", .existence, .glob, .usual .boolean⟩
  model := { waivers := .forcedPass ["["] }
  type := .boolean
  warnings := ["checker.waiver_match is ignored by Type 1 (waivers.value is not > 0)"]

set_option maxRecDepth 10000 in
theorem ofText_bracketConfig : Toml.Value.ofText? bracketConfig = some bracketToml := by cbv

theorem load_bracketConfig : Config.load bracketConfig = .ok bracketCheck :=
  Config.load_of_tables ofText_bracketConfig (by decide) (by cbv) (by decide) rfl (by cbv)

theorem parse_noEvidence :
    EvidenceFile.parse "\x7b\x7d" bracketCheck.type = .ok ⟨.split [] [], []⟩ := by cbv

theorem globFault_bracket :
    GlobFault (bracketCheck.model.waivers.named.map NamedWaiver.name)
      (.invalidWaiverPattern "["
        "error parsing glob '[': unclosed character class; missing ']'") := by
  have hreads : Glob.reads "[" = false := Glob.not_reads_of_ofText Glob.ofText_bracket
  exact .first (.head (by rw [hreads]; rfl)) Glob.ofText_bracket

theorem compiles_bracket {σ : Type} (engine : Glob.Engine σ) :
    engine.Compiles (bracketCheck.model.waivers.named.map NamedWaiver.name) := by
  show engine.Compiles ["["]
  intro name hname p hp
  obtain rfl := List.mem_singleton.mp hname
  rw [Glob.ofText_bracket] at hp
  cases hp

/-- The comment `[` of a forced pass ends the run before the engine is asked anything. -/
theorem run_of_loads_bracket :
    let start : Timestamp := ⟨⟨2026, 1, 1, 0, 0, 0, 0, false, 0, 0⟩, by decide⟩
    Run.runOn (Glob.Engine.upTo 250) ⟨"1", start, start⟩ bracketConfig "\x7b\x7d" =
      .error ⟨["build waiver matcher"], .config (.invalidWaiverPattern "["
        "error parsing glob '[': unclosed character class; missing ']'")⟩ := by
  have hload : Config.loadOn (Glob.Engine.upTo 250) bracketConfig = .ok bracketCheck :=
    Config.loadOn_of_load load_bracketConfig nofun
  exact (((run_of_loads hload parse_noEvidence).2 fun _ _ => compiles_bracket _).2 _).mpr
    ⟨rfl, by decide, _, globFault_bracket, rfl⟩

/-- That texts load does not promise a report. -/
theorem not_run_of_loads :
    ¬ ∀ (stamp : Run.Stamp) (config evidence : String) (c : Config.Resolved) (e : FlaggedEvidence),
      Config.load config = .ok c → EvidenceFile.parse evidence c.type = .ok e →
        ∃ report, Run.run stamp config evidence = .ok report := by
  intro h
  let start : Timestamp := ⟨⟨2026, 1, 1, 0, 0, 0, 0, false, 0, 0⟩, by decide⟩
  obtain ⟨report, hrun⟩ := h ⟨"1", start, start⟩ _ _ _ _ load_bracketConfig parse_noEvidence
  have hbuild : bracketCheck.checker.matchKind.build bracketCheck.model.waivers.named = _ :=
    MatchKind.build_eq_error_iff.mpr ⟨rfl, globFault_bracket⟩
  rw [Run.run_eq_map load_bracketConfig parse_noEvidence,
    Run.evaluate_of_build_eq_error hbuild] at hrun
  cases hrun

end Bracket

end Signoff

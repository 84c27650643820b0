/-
# `Signoff.Proofs.ConfigFaults` — exactly which configurations are rejected

Nine things can be wrong with a configuration, in any combination, and one of them is reported.
`Fault` says of each what it is and what is reported of it, by the document alone: no fault is
defined by what an earlier check has left over.  `FirstFault` says which one is reported, and
`Document.resolve_eq_error_iff` that resolution does so.  Its proof has the shape of resolution: one
step, one fault, one use of `bind_eq_error_iff`.  What has no fault resolves, whatever else is odd
about it, as long as the engine takes the globs that it is given to compile.  A glob that is nested
too deep is no fault, and there the program stops (`Document.stops_at_nested`).
-/
import Signoff.Proofs.Counts
import Signoff.Proofs.Matchers
import Signoff.Proofs.Resolution

namespace Signoff.Config

variable {d : Document} {err : ConfigError}

/-! ## Faults -/

/-- What can be wrong with a configuration. -/
inductive FaultKind where
  | schema
  | checkerId
  | requiredCount
  | waivedCount
  | noComments
  | mode
  | separator
  | matchKind
  | pattern
  deriving DecidableEq, Repr

/-- All of it, in the order in which it is looked for. -/
def FaultKind.all : List FaultKind :=
  [schema, checkerId, requiredCount, waivedCount, noComments, mode, separator, matchKind, pattern]

/-- What is looked for before the matcher is built. -/
def FaultKind.early : List FaultKind :=
  [schema, checkerId, requiredCount, waivedCount, noComments, mode, separator, matchKind]

theorem FaultKind.mem_all (k : FaultKind) : k ∈ all := by
  cases k <;> decide

theorem FaultKind.mem_early_of_ne {k : FaultKind} (h : k ≠ pattern) : k ∈ early := by
  revert h
  cases k <;> decide

/-- The document has the fault, and this is reported of it. -/
inductive Fault (d : Document) : FaultKind → ConfigError → Prop
  /-- The schema is given and is not the known one. -/
  | schema {s : String} : d.schema = some s → s ≠ "chkgate.check.v1" →
      Fault d .schema (.unknownOption "schema" s "chkgate.check.v1")
  /-- The identifier is left out, or there is nothing in it but blanks. -/
  | checkerId : (∀ s, d.checker.id = some s → ∀ c ∈ s.toList, Text.isBlank c = true) →
      Fault d .checkerId (.missingInput "checker.id")
  | requiredCount {v : CountValue} : d.requirements.value = some v →
      (∀ n, ¬ Declares d.requirements.value n) →
      Fault d .requiredCount (.invalidCount "requirements.value" v.shown)
  | waivedCount {v : CountValue} : d.waivers.value = some v →
      (∀ n, ¬ Declares d.waivers.value n) →
      Fault d .waivedCount (.invalidCount "waivers.value" v.shown)
  /-- A pass is forced and nothing justifies it. -/
  | noComments : Declares d.waivers.value (some 0) → d.waivers.waiveItems = [] →
      Fault d .noComments .forcedPassWithoutComments
  | mode {s : String} : d.checker.mode = some s → s ∉ ["existence", "status"] →
      Fault d .mode (.unknownOption "checker.mode" s "existence|status")
  /-- The separator is not one character, whatever the kind of matcher. -/
  | separator {s : String} : d.checker.viewSeparator = some s → s.length ≠ 1 →
      Fault d .separator (.unknownOption "checker.view_separator" s "a single character")
  | matchKind {s : String} : d.checker.waiverMatch = some s →
      s ∉ ["exact", "case_insensitive", "normalized", "view", "glob"] →
      Fault d .matchKind (.unknownOption "checker.waiver_match" s
        "exact|case_insensitive|normalized|view|glob")
  /-- Globs are matched, and a waiver is none; the first of these is reported. -/
  | pattern {n : UInt32} {err : ConfigError} : Declares d.waivers.value (some n) → 0 < n →
      d.checker.waiverMatch = some "glob" →
      GlobFault (d.waivers.waiveItems.map fun item => item.waiver.name) err →
      Fault d .pattern err

/-- This is reported of the first fault that the document has among the kinds. -/
inductive FirstFault (d : Document) (err : ConfigError) : List FaultKind → Prop
  | here {k : FaultKind} {ks : List FaultKind} : Fault d k err → FirstFault d err (k :: ks)
  | later {k : FaultKind} {ks : List FaultKind} : (∀ e, ¬ Fault d k e) → FirstFault d err ks →
      FirstFault d err (k :: ks)

/-- Among the kinds there is a first fault if there is any. -/
theorem exists_firstFault_iff {ks : List FaultKind} :
    (∃ err, FirstFault d err ks) ↔ ∃ k ∈ ks, ∃ err, Fault d k err := by
  induction ks with
  | nil =>
      constructor
      · rintro ⟨err, h⟩
        cases h
      · rintro ⟨k, hk, -⟩
        cases hk
  | cons k ks ih =>
      by_cases hk : ∃ err, Fault d k err
      · obtain ⟨err, hfault⟩ := hk
        constructor
        · intro _
          exact ⟨k, List.mem_cons_self, err, hfault⟩
        · intro _
          exact ⟨err, .here hfault⟩
      · have hnone := not_exists.mp hk
        constructor
        · rintro ⟨err, h | ⟨-, h⟩⟩
          · exact absurd h (hnone err)
          · obtain ⟨j, hj, hfault⟩ := ih.mp ⟨err, h⟩
            exact ⟨j, List.mem_cons_of_mem k hj, hfault⟩
        · rintro ⟨j, hj, err, hfault⟩
          rcases List.mem_cons.mp hj with rfl | hj
          · exact absurd hfault (hnone err)
          · obtain ⟨err', h⟩ := ih.mpr ⟨j, hj, err, hfault⟩
            exact ⟨err', .later hnone h⟩

theorem bind_eq_error_iff {α β : Type} {x : Except ConfigError α} {f : α → Except ConfigError β}
    {k : FaultKind} {ks : List FaultKind} (hstep : ∀ e, x = .error e ↔ Fault d k e)
    (hrest : ∀ a, x = .ok a → (f a = .error err ↔ FirstFault d err ks)) :
    x >>= f = .error err ↔ FirstFault d err (k :: ks) := by
  cases x with
  | error e =>
      have hfault := (hstep e).mp rfl
      constructor
      · rintro ⟨⟩
        exact .here hfault
      · rintro (h | ⟨hnone, -⟩)
        · rw [(hstep err).mpr h]
          rfl
        · exact absurd hfault (hnone e)
  | ok a =>
      have hnone : ∀ e, ¬ Fault d k e := by
        intro e he
        cases (hstep e).mpr he
      rw [show (Except.ok a >>= f) = f a from rfl, hrest a rfl]
      constructor
      · exact .later hnone
      · rintro (h | ⟨-, h⟩)
        · exact absurd h (hnone err)
        · exact h

/-! ## Steps -/

theorem checkSchema_eq_error_iff : checkSchema d.schema = .error err ↔ Fault d .schema err := by
  constructor
  · intro h
    cases hs : d.schema with
    | none => simp [checkSchema, hs] at h
    | some s =>
        by_cases hname : s = schemaName
        · simp [checkSchema, hs, hname] at h
        · simp only [checkSchema, hs, if_neg hname, Except.error.injEq] at h
          rw [← h]
          exact .schema hs hname
  · intro hfault
    cases hfault with
    | schema hs hname =>
        rw [hs]
        exact if_neg hname

theorem checkerId_eq_error_iff : checkerId d.checker.id = .error err ↔ Fault d .checkerId err := by
  constructor
  · intro h
    cases hid : d.checker.id with
    | none =>
        simp only [checkerId, hid, Option.map_none, Except.error.injEq] at h
        rw [← h]
        refine .checkerId fun s hs => ?_
        rw [hid] at hs
        cases hs
    | some s =>
        by_cases hs : (Text.trim s).isEmpty = true
        · simp only [checkerId, hid, Option.map_some, hs, if_true, Except.error.injEq] at h
          rw [← h]
          refine .checkerId fun s' hs' => ?_
          obtain rfl := Option.some.inj (hid.symm.trans hs')
          exact isEmpty_trim_iff.mp hs
        · simp [checkerId, hid, hs] at h
  · intro hfault
    cases hfault with
    | checkerId hblank =>
        cases hid : d.checker.id with
        | none => rfl
        | some s => exact if_pos (isEmpty_trim_iff.mpr (hblank s hid))

theorem requiredCount_eq_error_iff :
    parseCount "requirements.value" d.requirements.value = .error err ↔
      Fault d .requiredCount err := by
  rw [parseCount_eq_error_iff]
  constructor
  · rintro ⟨v, hv, hnone, rfl⟩
    exact .requiredCount hv hnone
  · intro hfault
    cases hfault with
    | requiredCount hv hnone => exact ⟨_, hv, hnone, rfl⟩

theorem waivedCount_eq_error_iff :
    parseCount "waivers.value" d.waivers.value = .error err ↔ Fault d .waivedCount err := by
  rw [parseCount_eq_error_iff]
  constructor
  · rintro ⟨v, hv, hnone, rfl⟩
    exact .waivedCount hv hnone
  · intro hfault
    cases hfault with
    | waivedCount hv hnone => exact ⟨_, hv, hnone, rfl⟩

theorem validate_eq_error_iff {required waived : Option UInt32}
    (hwaived : Declares d.waivers.value waived) :
    (d.model required waived).validate = .error err ↔ Fault d .noComments err := by
  have hforced : (d.model required waived).waivers.mode = .forcedPass ↔ waived = some 0 :=
    WaiverPolicy.mode_eq_forcedPass_iff
  have hitems : (d.model required waived).waivers.entries = [] ↔ d.waivers.waiveItems = [] :=
    List.map_eq_nil_iff
  rw [CheckModel.validate_eq_error_iff, hforced, hitems]
  constructor
  · rintro ⟨⟨rfl, hnil⟩, rfl⟩
    exact .noComments hwaived hnil
  · intro hfault
    cases hfault with
    | noComments hzero hnil => exact ⟨⟨hwaived.unique hzero, hnil⟩, rfl⟩

theorem scopingMode_eq_error_iff : scopingMode d.checker.mode = .error err ↔ Fault d .mode err := by
  constructor
  · intro h
    unfold scopingMode at h
    split at h
    · cases h
    · cases h
    · cases h
    · rename_i s hexistence hstatus hs
      cases h
      refine .mode hs fun hname => ?_
      rcases List.mem_pair.mp hname with rfl | rfl
      · exact hexistence rfl
      · exact hstatus rfl
  · intro hfault
    cases hfault with
    | mode hs hname =>
        rw [List.mem_pair, not_or] at hname
        rw [hs, scopingMode]
        · exact hname.1
        · exact hname.2

theorem separator_eq_error_iff :
    separator d.checker.viewSeparator = .error err ↔ Fault d .separator err := by
  constructor
  · intro h
    unfold separator at h
    split at h
    · cases h
    · rename_i s hs
      split at h
      · cases h
      · rename_i hchars
        cases h
        refine .separator hs fun hlength => ?_
        rw [← String.length_toList, List.length_eq_one_iff] at hlength
        obtain ⟨c, hc⟩ := hlength
        exact hchars c hc
  · intro hfault
    cases hfault with
    | separator hs hlength =>
        rw [hs, separator]
        split
        · rename_i c hc
          rw [← String.length_toList, hc] at hlength
          exact absurd rfl hlength
        · rfl

theorem matchKind_eq_error_iff {sep : Char} :
    matchKind sep d.checker.waiverMatch = .error err ↔ Fault d .matchKind err := by
  constructor
  · intro h
    unfold matchKind at h
    split at h
    · cases h
    · rename_i s hs
      split at h
      · cases h
      · rename_i hnone
        cases h
        exact .matchKind hs (MatchKind.ofName?_eq_none_iff.mp hnone)
  · intro hfault
    cases hfault with
    | matchKind hs hname =>
        rw [hs, matchKind, MatchKind.ofName?_eq_none_iff.mpr hname]
        rfl

/-- Globs are matched: they are declared, and waivers are in effect. -/
structure Document.MatchesGlobs (d : Document) : Prop where
  waived : ∃ n, Declares d.waivers.value (some n) ∧ 0 < n
  declared : d.checker.waiverMatch = some "glob"

/-- The names of the items, taken as waivers. -/
def Document.waiverNames (d : Document) : List String :=
  d.waivers.waiveItems.map fun item => item.waiver.name

variable {c : Resolved}

theorem Document.matchesGlobs_iff (h : d.settle = .ok c) :
    c.model.waivers.mode = .selective ∧ c.checker.matchKind = .glob ↔ d.MatchesGlobs := by
  obtain ⟨id, required, waived, warnings, mode, sep, kind, -, -, -, hwaived, -, -, -, hkind, rfl⟩ :=
    settle_eq_ok_iff.mp h
  have hwaived := parseCount_eq_ok_iff.mp hwaived
  show (d.model required waived).waivers.mode = .selective ∧ kind = .glob ↔ _
  rw [WaiverPolicy.mode_eq_selective_iff]
  constructor
  · rintro ⟨⟨n, hn, hpos⟩, rfl⟩
    obtain rfl : waived = some n := hn
    exact ⟨⟨n, hwaived, hpos⟩, matchKind_eq_glob_iff.mp hkind⟩
  · rintro ⟨⟨n, hn, hpos⟩, hname⟩
    have hglobs := (@matchKind_eq_glob_iff sep _).mpr hname
    exact ⟨⟨n, hwaived.unique hn, hpos⟩, Except.ok.inj (hkind.symm.trans hglobs)⟩

theorem Document.names_of_settle (h : d.settle = .ok c)
    (hmode : c.model.waivers.mode = .selective) :
    c.model.waivers.named.map NamedWaiver.name = d.waiverNames := by
  obtain ⟨id, required, waived, warnings, mode, sep, kind, -, -, -, -, -, -, -, -, rfl⟩ :=
    settle_eq_ok_iff.mp h
  obtain ⟨n, hn, hpos⟩ := WaiverPolicy.mode_eq_selective_iff.mp hmode
  obtain rfl : waived = some n := hn
  have hne : some n ≠ some 0 := by
    rw [Ne, Option.some.injEq]
    exact UInt32.pos_iff_ne_zero.mp hpos
  show (d.model required (some n)).waivers.named.map NamedWaiver.name = _
  rw [WaiverPolicy.named, d.entries_model_of_ne hne, List.map_map, List.map_map]
  rfl

theorem checkMatcher_eq_error_iff (h : d.settle = .ok c) :
    (checkMatcher .tireless c.checker.matchKind c.model.waivers).result = .error err ↔
      Fault d .pattern err := by
  have hbuild : (checkMatcher .tireless c.checker.matchKind c.model.waivers).result = .error err ↔
      c.model.waivers.mode = .selective ∧ c.checker.matchKind = .glob ∧
        GlobFault (c.model.waivers.named.map NamedWaiver.name) err := by
    rw [← MatchKind.build_eq_error_iff]
    cases hmode : c.model.waivers.mode with
    | selective =>
        rw [checkMatcher, hmode, Call.result_bind, ← MatchKind.build]
        cases h : c.checker.matchKind.build c.model.waivers.named <;>
          simp [Bind.bind, Except.bind]
    | disabled => simp [checkMatcher, hmode]
    | forcedPass => simp [checkMatcher, hmode]
  rw [hbuild]
  constructor
  · rintro ⟨hmode, hkind, hfault⟩
    obtain ⟨⟨n, hn, hpos⟩, hname⟩ := (d.matchesGlobs_iff h).mp ⟨hmode, hkind⟩
    rw [d.names_of_settle h hmode] at hfault
    exact .pattern hn hpos hname hfault
  · intro hfault
    cases hfault with
    | pattern hn hpos hname hglob =>
        obtain ⟨hmode, hkind⟩ := (d.matchesGlobs_iff h).mpr ⟨⟨_, hn, hpos⟩, hname⟩
        rw [d.names_of_settle h hmode]
        exact ⟨hmode, hkind, hglob⟩

/-! ## The whole -/

/-- What is settled has none of the early faults; what follows looks for the others. -/
theorem Document.settle_bind_eq_error_iff {β : Type} {f : Resolved → Except ConfigError β}
    {ks : List FaultKind}
    (hrest : ∀ c, d.settle = .ok c → (f c = .error err ↔ FirstFault d err ks)) :
    d.settle >>= f = .error err ↔ FirstFault d err (FaultKind.early ++ ks) := by
  have hsettle := @settle_eq_ok_iff d
  simp only [settle, bind_assoc, pure_bind]
  refine bind_eq_error_iff (fun _ => checkSchema_eq_error_iff) fun _ hschema => ?_
  refine bind_eq_error_iff (fun _ => checkerId_eq_error_iff) fun id hid => ?_
  refine bind_eq_error_iff (fun _ => requiredCount_eq_error_iff) fun required hrequired => ?_
  refine bind_eq_error_iff (fun _ => waivedCount_eq_error_iff) fun waived hwaived => ?_
  refine bind_eq_error_iff (fun _ => validate_eq_error_iff (parseCount_eq_ok_iff.mp hwaived))
    fun warnings hvalid => ?_
  refine bind_eq_error_iff (fun _ => scopingMode_eq_error_iff) fun mode hmode => ?_
  refine bind_eq_error_iff (fun _ => separator_eq_error_iff) fun sep hsep => ?_
  refine bind_eq_error_iff (fun _ => matchKind_eq_error_iff) fun kind hkind => ?_
  exact hrest _ (hsettle.mpr ⟨id, required, waived, warnings, mode, sep, kind, hschema, hid,
    hrequired, hwaived, hvalid, hmode, hsep, hkind, rfl⟩)

theorem Document.settle_eq_error_iff :
    d.settle = .error err ↔ FirstFault d err FaultKind.early := by
  have h := @settle_bind_eq_error_iff d err _ .ok [] fun c _ => ⟨nofun, nofun⟩
  rw [List.append_nil] at h
  rw [← h]
  cases d.settle <;> rfl

/-- Resolution reports the first fault. -/
theorem Document.resolve_eq_error_iff : d.resolve = .error err ↔ FirstFault d err FaultKind.all := by
  rw [resolve_eq]
  refine settle_bind_eq_error_iff fun c hc => ?_
  exact bind_eq_error_iff (fun _ => checkMatcher_eq_error_iff hc) fun _ _ => ⟨nofun, nofun⟩

theorem Document.firstFault_of_settle (h : d.settle = .ok c) (hfault : Fault d .pattern err) :
    FirstFault d err FaultKind.all := by
  rw [← resolve_eq_error_iff, resolve_eq, h]
  show (checkMatcher .tireless c.checker.matchKind c.model.waivers).result >>= _ = _
  rw [(checkMatcher_eq_error_iff h).mpr hfault]
  rfl

theorem Document.resolve_isOk_iff : (∃ c, d.resolve = .ok c) ↔ ∀ kind err, ¬ Fault d kind err := by
  have hok : (∃ c, d.resolve = .ok c) ↔ ¬ ∃ err, d.resolve = .error err := by
    cases d.resolve with
    | ok c => simp
    | error err => simp
  simp only [hok, resolve_eq_error_iff, exists_firstFault_iff, FaultKind.mem_all, true_and,
    not_exists]

/-- **Rejected configurations.**  Resolution fails only if something is wrong with the document, and
then it reports the first fault in the order of `FaultKind.all`; no document with a fault is
accepted, and whatever is found before the matcher is built is always reported.  Where the engine
takes the globs that it is given to compile, the first fault is always reported, and every other
document is accepted, whatever its counts, its repeated patterns and its ignored options are. -/
theorem Document.resolve_fails_iff {σ : Type} (engine : Glob.Engine σ) (d : Document) :
    (∀ err, d.resolveOn engine = .error err → FirstFault d err FaultKind.all) ∧
    (∀ c, d.resolveOn engine = .ok c → ∀ kind err, ¬ Fault d kind err) ∧
    (∀ kind err, kind ≠ .pattern → Fault d kind err → ∃ err', d.resolveOn engine = .error err') ∧
    ((d.MatchesGlobs → engine.Compiles d.waiverNames) →
      (∀ err, d.resolveOn engine = .error err ↔ FirstFault d err FaultKind.all) ∧
      ((∃ err, d.resolveOn engine = .error err) ↔ ∃ kind err, Fault d kind err) ∧
      ((∃ c, d.resolveOn engine = .ok c) ↔ ∀ kind err, ¬ Fault d kind err)) := by
  have hagrees := d.agrees_resolveOn engine
  refine ⟨?_, ?_, ?_, ?_⟩
  · intro err herr
    exact resolve_eq_error_iff.mp (hagrees.eq_error herr)
  · intro c hc
    exact resolve_isOk_iff.mp ⟨c, hagrees.eq_ok hc⟩
  · intro kind err hkind hfault
    obtain ⟨err', hfirst⟩ :=
      exists_firstFault_iff.mpr ⟨kind, FaultKind.mem_early_of_ne hkind, err, hfault⟩
    refine ⟨err', ?_⟩
    rw [resolveOn, settle_eq_error_iff.mpr hfirst]
    rfl
  · intro hcompiles
    have hresolve : d.resolveOn engine = .ofExcept d.resolve := by
      refine hagrees.eq_ofExcept ?_
      rintro s ⟨c, hsettle, hmode, hkind, hs⟩
      rw [d.names_of_settle hsettle hmode] at hs
      have hglobs := (d.matchesGlobs_iff hsettle).mp ⟨hmode, hkind⟩
      exact Glob.Engine.compiles_iff.mp (hcompiles hglobs) s hs
    simp only [hresolve, Call.ofExcept_eq_ok_iff, Call.ofExcept_eq_error_iff]
    refine ⟨fun err => resolve_eq_error_iff, ?_, resolve_isOk_iff⟩
    simp only [resolve_eq_error_iff, exists_firstFault_iff, FaultKind.mem_all, true_and]

/-! ## Globs -/

/-- Waivers in effect that are matched as globs. -/
def globDocument (names : List String) : Document where
  checker := { id := some "C", waiverMatch := some "glob" }
  waivers := { value := some (.number 1), waiveItems := names.map .text }

theorem matchesGlobs_globDocument (names : List String) : (globDocument names).MatchesGlobs :=
  ⟨⟨1, .number (by decide), by decide⟩, rfl⟩

theorem settle_globDocument (names : List String) : ∃ c, (globDocument names).settle = .ok c :=
  ⟨_, rfl⟩

theorem fault_globDocument {names : List String} (h : GlobFault names err) :
    Fault (globDocument names) .pattern err := by
  refine .pattern (.number (v := 1) (by decide)) (by decide) rfl ?_
  rw [globDocument, List.map_map]
  exact (List.map_id names).symm ▸ h

theorem ofText_group :
    Glob.Pattern.ofText "\x7bA,B\x7d*" = .ok [.oneOf [[.literal 'A'], [.literal 'B']], .star] := by
  cbv

theorem Document.resolve_fails_iff_group :
    (globDocument ["\x7bA,B\x7d*", "["]).resolveOn (.upTo 250) =
      .error (.invalidWaiverPattern "["
        "error parsing glob '[': unclosed character class; missing ']'") := by
  have hcompiles :
      (Glob.Engine.upTo 250).Compiles (globDocument ["\x7bA,B\x7d*", "["]).waiverNames := by
    intro name hname p hp
    rcases List.mem_pair.mp hname with rfl | rfl
    · obtain rfl := Except.ok.inj (ofText_group.symm.trans hp)
      rfl
    · cases Glob.ofText_bracket.symm.trans hp
  have hreads : Glob.reads "\x7bA,B\x7d*" = true := Glob.reads_iff.mpr ⟨_, ofText_group⟩
  have hnot : Glob.reads "[" = false := Glob.not_reads_of_ofText Glob.ofText_bracket
  obtain ⟨c, hsettle⟩ := settle_globDocument ["\x7bA,B\x7d*", "["]
  refine (((resolve_fails_iff _ _).2.2.2 fun _ => hcompiles).1 _).mpr ?_
  refine firstFault_of_settle hsettle (fault_globDocument ?_)
  refine .first ((isFirst_cons_of_neg ?_).mpr (.head ?_)) Glob.ofText_bracket
  · rw [hreads]
    rfl
  · rw [hnot]
    rfl

/-! ## Nested globs -/

/-- A character in so many groups, one in the other. -/
def nestedPiece : Nat → Glob.Piece
  | 0 => .literal 'a'
  | n + 1 => .oneOf [[nestedPiece n]]

def nestedChars : Nat → List Char
  | 0 => ['a']
  | n + 1 => '\x7b' :: nestedChars n ++ ['\x7d']

theorem depth_nestedPiece (n : Nat) : (nestedPiece n).depth = n := by
  induction n with
  | zero => rfl
  | succ n ih => simp [nestedPiece, Glob.Piece.depth, Glob.deepest, Glob.depth, ih]

open Glob in
theorem foldlM_take_nestedChars (n : Nat) (last : Option Char) (gs : List OpenGroup) :
    ∃ last', (nestedChars n).foldlM Reader.take ⟨.plain, last, [], gs⟩ =
      .ok ⟨.plain, last', [nestedPiece n], gs⟩ := by
  induction n generalizing last gs with
  | zero => exact ⟨some 'a', rfl⟩
  | succ n ih =>
      obtain ⟨last', h⟩ := ih (some '\x7b') (⟨[], []⟩ :: gs)
      refine ⟨some '\x7d', ?_⟩
      rw [nestedChars, List.foldlM_append, List.foldlM_cons]
      show ((nestedChars n).foldlM Reader.take ⟨.plain, some '\x7b', [], ⟨[], []⟩ :: gs⟩) >>= _ = _
      rw [h]
      rfl

theorem ofText_nestedChars (n : Nat) :
    Glob.Pattern.ofText (String.ofList (nestedChars n)) = .ok [nestedPiece n] := by
  obtain ⟨last, h⟩ := foldlM_take_nestedChars n none []
  rw [Glob.Pattern.ofText, String.toList_ofList, h]
  rfl

/-- A glob that is nested too deep for the engine is no fault, and the program stops at it. -/
theorem Document.stops_at_nested (limit : Nat) :
    let d := globDocument [String.ofList (nestedChars (limit + 1))]
    (∀ kind err, ¬ Fault d kind err) ∧ ∃ p, d.resolveOn (.upTo limit) = .stopped p := by
  intro d
  obtain ⟨c, hsettle⟩ := settle_globDocument [String.ofList (nestedChars (limit + 1))]
  obtain ⟨hmode, hkind⟩ := (d.matchesGlobs_iff hsettle).mpr (matchesGlobs_globDocument _)
  have hnames : c.model.waivers.named.map NamedWaiver.name =
      [String.ofList (nestedChars (limit + 1))] :=
    d.names_of_settle hsettle hmode
  have hresolve : d.resolve = .ok c := by
    refine resolve_eq_ok_iff.mpr ⟨hsettle, fun _ => MatchKind.build_isOk_iff.mpr fun _ w hw => ?_⟩
    have hname := List.mem_map_of_mem (f := NamedWaiver.name) hw
    rw [hnames, List.mem_singleton] at hname
    rw [hname]
    exact Glob.reads_iff.mpr ⟨_, ofText_nestedChars _⟩
  refine ⟨resolve_isOk_iff.mp ⟨c, hresolve⟩, (exists_stopped_iff hresolve).mpr ?_⟩
  refine ⟨hmode, hkind, fun hcompiles => ?_⟩
  rw [hnames] at hcompiles
  have htaken := hcompiles _ List.mem_cons_self _ (ofText_nestedChars _)
  have hdepth : ¬ Glob.depth [nestedPiece (limit + 1)] ≤ limit := by
    simp [Glob.depth, depth_nestedPiece]
  rw [Glob.Engine.upTo, if_neg hdepth] at htaken
  cases htaken

end Signoff.Config

/-
# `Signoff.Proofs.Resolution` — what a configuration has passed once it is resolved

Resolution is one line of steps, each of which may end it.  A configuration that is resolved has
passed all of them, and what it comes to is put together from their results
(`Document.settle_eq_ok_iff`); later proofs read the steps off there.  The last step builds the
matcher and throws it away, which is the only place where an engine may stop the program
(`Document.agrees_resolveOn`); it does exactly if it refuses a glob (`Document.exists_stopped_iff`).
-/
import Signoff.Config.Resolution
import Signoff.Proofs.Matchers

namespace Signoff

/-! ## Steps that may fail -/

section Steps

variable {ε α β : Type} {x : Except ε α} {f : α → Except ε β}

theorem bind_eq_ok_iff {b : β} : x >>= f = .ok b ↔ ∃ a, x = .ok a ∧ f a = .ok b := by
  cases x with
  | error e => simp [Bind.bind, Except.bind]
  | ok a => simp [Bind.bind, Except.bind]

theorem pure_eq_ok_iff {a a' : α} : (pure a : Except ε α) = .ok a' ↔ a = a' := by
  simp [pure, Except.pure]

end Steps

namespace Config

variable {d : Document} {c : Resolved}

theorem Document.settle_eq_ok_iff :
    d.settle = .ok c ↔
      ∃ id required waived warnings mode sep kind,
        checkSchema d.schema = .ok () ∧
        checkerId d.checker.id = .ok id ∧
        parseCount "requirements.value" d.requirements.value = .ok required ∧
        parseCount "waivers.value" d.waivers.value = .ok waived ∧
        (d.model required waived).validate = .ok warnings ∧
        scopingMode d.checker.mode = .ok mode ∧
        separator d.checker.viewSeparator = .ok sep ∧
        matchKind sep d.checker.waiverMatch = .ok kind ∧
        c = {
          checker :=
            { id := id
              description := d.checker.description.getD ""
              mode := mode
              matchKind := kind
              descriptions :=
                (Descriptions.usual (d.model required waived).type).override
                  d.checker.descriptions }
          model := d.model required waived
          type := (d.model required waived).type
          warnings := duplicateWarnings [] d.requirements.patternItems ++
            ignoredWarnings d.checker (d.model required waived).type ++ warnings } := by
  simp only [settle, bind_eq_ok_iff, pure_eq_ok_iff]
  constructor
  · rintro ⟨⟨⟩, hschema, id, hid, required, hrequired, waived, hwaived, warnings, hvalid, mode,
      hmode, sep, hsep, kind, hkind, rfl⟩
    exact ⟨id, required, waived, warnings, mode, sep, kind, hschema, hid, hrequired, hwaived,
      hvalid, hmode, hsep, hkind, rfl⟩
  · rintro ⟨id, required, waived, warnings, mode, sep, kind, hschema, hid, hrequired, hwaived,
      hvalid, hmode, hsep, hkind, rfl⟩
    exact ⟨(), hschema, id, hid, required, hrequired, waived, hwaived, warnings, hvalid, mode,
      hmode, sep, hsep, kind, hkind, rfl⟩

theorem Document.resolve_eq :
    d.resolve = d.settle >>= fun c =>
      (checkMatcher .tireless c.checker.matchKind c.model.waivers).result >>= fun _ => .ok c := by
  simp only [resolve, resolveOn, Call.result_bind, Call.result_lift, Call.result_pure]

theorem result_checkMatcher_eq_ok_iff {k : MatchKind} {w : WaiverPolicy} {u : Unit} :
    (checkMatcher .tireless k w).result = .ok u ↔
      (w.mode = .selective → ∃ matcher, k.build w.named = .ok matcher) := by
  cases hmode : w.mode with
  | selective =>
      rw [checkMatcher, hmode, Call.result_bind, ← MatchKind.build, bind_eq_ok_iff]
      simp
  | disabled => simp [checkMatcher, hmode]
  | forcedPass => simp [checkMatcher, hmode]

/-- What is resolved is settled, and in selective mode its matcher has been built once. -/
theorem Document.resolve_eq_ok_iff :
    d.resolve = .ok c ↔
      d.settle = .ok c ∧ (c.model.waivers.mode = .selective →
        ∃ matcher, c.checker.matchKind.build c.model.waivers.named = .ok matcher) := by
  rw [resolve_eq, bind_eq_ok_iff]
  simp only [bind_eq_ok_iff, result_checkMatcher_eq_ok_iff, Except.ok.injEq]
  constructor
  · rintro ⟨c', hsettle, -, hbuild, rfl⟩
    exact ⟨hsettle, hbuild⟩
  · rintro ⟨hsettle, hbuild⟩
    exact ⟨c, hsettle, (), hbuild, rfl⟩

theorem load_eq_ok_iff {text : String} :
    load text = .ok c ↔ ∃ d, Document.ofText text = .ok d ∧ d.resolve = .ok c := by
  rw [load, loadOn, Call.result_bind, Call.result_lift, bind_eq_ok_iff]
  rfl

theorem Document.ofText_of_tables {text : String} {v : Toml.Value}
    (htext : Toml.Value.ofText? text = some v) (hblank : Text.isBlankText text = false)
    (htrim : trimDocument v = v) (hrange : v.inRange = true)
    (hread : Document.ofJson? v.toJson = some d) : Document.ofText text = .ok d := by
  rw [Document.ofText, hblank, htext, Option.bind_some, Document.ofToml?, htrim, hrange, if_pos rfl,
    hread]
  rfl

theorem load_of_tables {text : String} {v : Toml.Value} {d : Document}
    (htext : Toml.Value.ofText? text = some v) (hblank : Text.isBlankText text = false)
    (htrim : trimDocument v = v) (hrange : v.inRange = true)
    (hread : Document.ofJson? v.toJson = some d) (hresolve : d.resolve = .ok c) :
    load text = .ok c :=
  load_eq_ok_iff.mpr ⟨d, Document.ofText_of_tables htext hblank htrim hrange hread, hresolve⟩

/-! ## Engines -/

section Engines

variable {σ : Type} (engine : Glob.Engine σ)

theorem agrees_checkMatcher (k : MatchKind) (w : WaiverPolicy) :
    Call.Agrees (checkMatcher .tireless k w).result
      (fun s => w.mode = .selective ∧ k = .glob ∧
        engine.Refuses (w.named.map NamedWaiver.name) s)
      (checkMatcher engine k w) := by
  unfold checkMatcher
  cases hmode : w.mode with
  | selective =>
      rw [Call.result_bind]
      refine ((MatchKind.agrees_buildOn engine k w.named).mono fun s hs => ⟨rfl, hs⟩).bind ?_
      intro matcher _
      exact .returned
  | disabled => exact .returned
  | forcedPass => exact .returned

/-- With any engine a configuration comes to the same, unless its globs are compiled and one of them
is refused. -/
theorem Document.agrees_resolveOn (d : Document) :
    Call.Agrees d.resolve
      (fun s => ∃ c, d.settle = .ok c ∧ c.model.waivers.mode = .selective ∧
        c.checker.matchKind = .glob ∧
        engine.Refuses (c.model.waivers.named.map NamedWaiver.name) s)
      (d.resolveOn engine) := by
  rw [resolve_eq]
  refine Call.Agrees.returned.bind fun c hc => ?_
  refine ((agrees_checkMatcher engine _ _).mono fun s hs => ⟨c, hc, hs⟩).bind ?_
  intro _ _
  exact .returned

variable {engine}

theorem Document.eq_ok_of_resolveOn (h : d.resolveOn engine = .ok c) : d.resolve = .ok c :=
  (d.agrees_resolveOn engine).eq_ok h

theorem Document.compiles_of_resolveOn (h : d.resolveOn engine = .ok c)
    (hmode : c.model.waivers.mode = .selective) (hkind : c.checker.matchKind = .glob) :
    engine.Compiles (c.model.waivers.named.map NamedWaiver.name) := by
  rw [resolveOn, Call.bind_eq_ok_iff] at h
  obtain ⟨c', -, h⟩ := h
  rw [Call.bind_eq_ok_iff] at h
  obtain ⟨u, hmatcher, h⟩ := h
  obtain rfl : c' = c := Call.ok.inj h
  rw [checkMatcher, hmode, hkind, Call.bind_eq_ok_iff] at hmatcher
  obtain ⟨matcher, hmatcher, -⟩ := hmatcher
  exact MatchKind.compiles_of_buildOn hmatcher

/-- What resolves where nothing is refused either resolves or stops the program. -/
theorem Document.exists_stopped_iff (h : d.resolve = .ok c) :
    (∃ s, d.resolveOn engine = .stopped s) ↔
      c.model.waivers.mode = .selective ∧ c.checker.matchKind = .glob ∧
        ¬ engine.Compiles (c.model.waivers.named.map NamedWaiver.name) := by
  have hagrees := d.agrees_resolveOn engine
  constructor
  · rintro ⟨s, hs⟩
    obtain ⟨c', hsettle, hmode, hkind, hrefuses⟩ := hagrees.of_stopped hs
    obtain rfl := Except.ok.inj (hsettle.symm.trans (resolve_eq_ok_iff.mp h).1)
    exact ⟨hmode, hkind, fun hcompiles => Glob.Engine.compiles_iff.mp hcompiles s hrefuses⟩
  · rintro ⟨hmode, hkind, hnot⟩
    cases hresolve : d.resolveOn engine with
    | ok c' =>
        obtain rfl := Except.ok.inj (h.symm.trans (hagrees.eq_ok hresolve))
        exact absurd (compiles_of_resolveOn hresolve hmode hkind) hnot
    | error err => cases h.symm.trans (hagrees.eq_error hresolve)
    | stopped s => exact ⟨s, rfl⟩

theorem loadOn_eq_ok_iff {text : String} :
    loadOn engine text = .ok c ↔
      ∃ d, Document.ofText text = .ok d ∧ d.resolveOn engine = .ok c := by
  simp only [loadOn, Call.bind_eq_ok_iff, Call.lift_eq_ok_iff]

theorem load_of_loadOn {text : String} (h : loadOn engine text = .ok c) : load text = .ok c := by
  obtain ⟨d, hd, hresolve⟩ := loadOn_eq_ok_iff.mp h
  exact load_eq_ok_iff.mpr ⟨d, hd, Document.eq_ok_of_resolveOn hresolve⟩

/-- What loads where nothing is refused loads with an engine that takes what it is given. -/
theorem loadOn_of_load {text : String} (h : load text = .ok c)
    (hcompiles : c.model.waivers.mode = .selective → c.checker.matchKind = .glob →
      engine.Compiles (c.model.waivers.named.map NamedWaiver.name)) :
    loadOn engine text = .ok c := by
  obtain ⟨d, hd, hresolve⟩ := load_eq_ok_iff.mp h
  refine loadOn_eq_ok_iff.mpr ⟨d, hd, ?_⟩
  rw [(d.agrees_resolveOn engine).eq_ofExcept, hresolve]
  · rfl
  · rintro s ⟨c', hsettle, hmode, hkind, hs⟩
    obtain rfl := Except.ok.inj (hsettle.symm.trans (Document.resolve_eq_ok_iff.mp hresolve).1)
    exact Glob.Engine.compiles_iff.mp (hcompiles hmode hkind) s hs

end Engines

/-! ## What is read off the document -/

theorem isEmpty_trim_iff {s : String} :
    (Text.trim s).isEmpty = true ↔ ∀ c ∈ s.toList, Text.isBlank c = true := by
  rw [← Text.trimChars_eq_nil_iff, Text.trim, String.isEmpty_iff]
  exact String.ofList_eq_empty_iff

theorem Document.entries_model_of_ne {required waived : Option UInt32} (d : Document)
    (h : waived ≠ some 0) :
    (d.model required waived).waivers.entries =
      d.waivers.waiveItems.map fun item => .named item.waiver := by
  refine List.map_congr_left fun item _ => ?_
  rw [WaiveItem.tag, if_neg h]

theorem matchKind_eq_glob_iff {sep : Char} {declared : Option String} :
    matchKind sep declared = .ok .glob ↔ declared = some "glob" := by
  unfold matchKind
  split
  · simp
  · rename_i s
    rw [Option.some.injEq, ← @MatchKind.ofName?_eq_glob_iff sep]
    cases MatchKind.ofName? sep s with
    | none => simp
    | some k => simp

end Config

end Signoff

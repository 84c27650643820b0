/-
# `Signoff.Proofs.StatusMode` — status mode judges and shows the same record

In status mode a pattern is judged by the flag of a record, and what is shown for it are the line,
the path and the text of a record.  The flag and the finding are parted when the file is read and
meet again by name only, after the findings have been deduplicated and sorted.  Where a name is
recorded more than once and the records disagree, a pattern could be judged by one of them and shown
by another.

It is not: both are the first record with the name (`JudgedByFirst`).  For an evaluation of records
this follows from two facts about them, that the flag of a name is the flag of its first record and
that its first finding is the finding of that record (`exists_flagged_iff`).  The rest is to carry
it through a run of two texts (`Run.status_judges_first`).
-/
import Signoff.Proofs.EvaluationFaults
import Signoff.Proofs.PatternBuckets

namespace Signoff

open FindingRecord (FirstFor)

/-! ## Judging by flags -/

/-- The name is judged, in a bucket and in the details, by its first record. -/
structure JudgedByFirst (m : CheckModel) (rs : List FindingRecord) (r : Evaluation)
    (b : PatternPartition) (name : String) : Prop where
  found_iff : name ∈ b.found.map Finding.identifier ↔ ∃ x, FirstFor name x rs ∧ x.correct = true
  missing_iff : name ∈ b.missing.map Finding.identifier ↔
    ∃ x, FirstFor name x rs ∧ x.correct = false
  left_out_iff : name ∉ b.found.map Finding.identifier ∧ name ∉ b.missing.map Finding.identifier ↔
    ∀ x ∈ rs, x.identifier ≠ name
  /-- Where waivers are in effect, they share out what is missing. -/
  waived_or_not : ∀ o, r.waivers = some o →
    (name ∈ b.missing.map Finding.identifier ↔
      name ∈ o.unwaived.map Finding.identifier ∨ name ∈ o.waived.map (·.finding.identifier))
  kept : ∀ f ∈ b.found ++ b.missing, f.identifier = name → ∃ x, FirstFor name x rs ∧ x.finding = f
  /-- One item of the result stands for the name, and it shows the record. -/
  shown : ∀ x, FirstFor name x rs → ∃ d, (r.accounts m).filter (·.name == name) = [d] ∧
    d.line = x.line ∧ d.path = x.path.map SourcePath.ofText ∧
    d.detail = if x.detail = "" then none else some x.detail
  /-- What is not recorded is not shown. -/
  hidden : (∀ x ∈ rs, x.identifier ≠ name) → (r.accounts m).filter (·.name == name) = []

section Records

variable {m : CheckModel} {rs : List FindingRecord} {ctx : CheckContext} {r : Evaluation}
  {patterns : List String} {name : String}

/-- The flag that is looked up for a first finding is the one it was recorded with. -/
theorem exists_flagged_iff {flag : Bool} :
    (∃ f, Finding.FirstFor name f (rs.map FindingRecord.finding) ∧
        (FlaggedEvidence.ofRecords rs).isCorrect f.identifier = flag) ↔
      ∃ x, FirstFor name x rs ∧ x.correct = flag := by
  constructor
  · rintro ⟨f, hf, hflag⟩
    obtain ⟨x, hx, rfl⟩ := FindingRecord.firstFor_findings.mp hf
    refine ⟨x, hx, ?_⟩
    rw [← hflag, hf.name_eq, FlaggedEvidence.isCorrect_of_firstFor hx]
  · rintro ⟨x, hx, hflag⟩
    have hf := FindingRecord.firstFor_findings.mpr ⟨x, hx, rfl⟩
    refine ⟨x.finding, hf, ?_⟩
    rw [hf.name_eq, FlaggedEvidence.isCorrect_of_firstFor hx, hflag]

theorem rawSatisfied_ofRecords (hp : name ∈ patterns) :
    RawSatisfied (Run.scoping .status (.ofRecords rs)) patterns
        (FlaggedEvidence.ofRecords rs).evidence name ↔
      ∃ x, FirstFor name x rs ∧ x.correct = true :=
  (and_iff_right hp).trans exists_flagged_iff

theorem rawViolation_ofRecords (hp : name ∈ patterns) :
    RawViolation (Run.scoping .status (.ofRecords rs)) patterns
        (FlaggedEvidence.ofRecords rs).evidence name ↔
      ∃ x, FirstFor name x rs ∧ x.correct = false :=
  (and_iff_right hp).trans exists_flagged_iff

theorem not_judged_iff :
    ((¬ ∃ x, FirstFor name x rs ∧ x.correct = true) ∧
        ¬ ∃ x, FirstFor name x rs ∧ x.correct = false) ↔
      ∀ x ∈ rs, x.identifier ≠ name := by
  have hnone : (¬ ∃ x, FirstFor name x rs) ↔ ∀ x ∈ rs, x.identifier ≠ name := by
    rw [FindingRecord.exists_firstFor_iff]
    simp only [not_exists, not_and, ne_eq]
  rw [← hnone, ← not_or, ← exists_or]
  refine not_congr (exists_congr fun x => ?_)
  rw [← and_or_left]
  cases x.correct <;> simp

theorem WaiverOutcome.mem_names_resolve {matcher : Matcher} {vs : List Finding}
    {ws : List NamedWaiver} :
    name ∈ vs.map Finding.identifier ↔
      name ∈ (resolve matcher vs ws).unwaived.map Finding.identifier ∨
        name ∈ (resolve matcher vs ws).waived.map (·.finding.identifier) := by
  have hperm := (perm_findings matcher vs ws).map Finding.identifier
  rw [← hperm.mem_iff, List.map_append, List.map_map, List.mem_append]
  rfl

theorem Evaluation.outcome?_eq_some {c : Classification} {matcher : Matcher} {o : WaiverOutcome}
    (h : outcome? m c matcher = some o) : o = .resolve matcher c.violations m.waivers.named := by
  rw [outcome?] at h
  split at h
  · exact (Option.some.inj h).symm
  · cases h
  · cases h

namespace Evaluation

variable {c : Classification}
  (hcomments : m.waivers.mode = .forcedPass → m.waivers.entries ≠ [])
  (hscoping : ctx.scoping = Run.scoping .status (.ofRecords rs))
  (hsorts : c.Sorts ctx.scoping m.requirements.patterns (FlaggedEvidence.ofRecords rs).evidence)

include hcomments hscoping hsorts

theorem shown_of_firstFor {x : FindingRecord} (hx : FirstFor name x rs) :
    ∃ d, ((ofClassification m ctx c).accounts m).filter (·.name == name) = [d] ∧
      d.line = x.line ∧ d.path = x.path.map SourcePath.ofText ∧
      d.detail = if x.detail = "" then none else some x.detail := by
  have hfirst : Finding.FirstFor name x.finding (rs.map FindingRecord.finding) :=
    FindingRecord.firstFor_findings.mpr ⟨x, hx, rfl⟩
  have hmem : name ∈ ((ofClassification m ctx c).accounts m).map DetailItem.name := by
    rw [mem_names_accounts hcomments hsorts, hscoping]
    exact hfirst.reported
  obtain ⟨d, hd, rfl⟩ := List.mem_map.mp hmem
  obtain ⟨f, hshows, horigin, -⟩ := shows_of_mem_accounts hcomments hsorts hd
  obtain rfl : f = x.finding := horigin.eq_of_firstFor (hshows.name_eq ▸ hfirst)
  have honly := filter_key_eq_singleton (nodup_names_accounts hcomments hsorts) hd
  exact ⟨d, honly, hshows.line_eq, hshows.path_eq, hshows.detail_eq⟩

theorem hidden_of_not_recorded (hnone : ∀ x ∈ rs, x.identifier ≠ name) :
    ((ofClassification m ctx c).accounts m).filter (·.name == name) = [] := by
  rw [List.filter_eq_nil_iff]
  intro d hd hname
  have hmem : name ∈ ((ofClassification m ctx c).accounts m).map DetailItem.name :=
    List.mem_map.mpr ⟨d, hd, beq_iff_eq.mp hname⟩
  rw [mem_names_accounts hcomments hsorts, hscoping] at hmem
  obtain ⟨x, hx, hx'⟩ := FindingRecord.reported_findings.mp hmem
  exact hnone x hx hx'

end Evaluation

/-- In an evaluation of records that is scoped by their flags, every pattern is judged by its first
record. -/
theorem judgedByFirst_of_evaluate
    (hscoping : ctx.scoping = Run.scoping .status (.ofRecords rs))
    (h : m.evaluate (FlaggedEvidence.ofRecords rs).evidence ctx = .ok r) :
    ∃ b, r.classification = .pattern b ∧
      ∀ name ∈ m.requirements.patterns, JudgedByFirst m rs r b name := by
  obtain ⟨hcomments, c, hc, rfl⟩ := CheckModel.evaluate_eq_ok_iff.mp h
  have hsorts := Classification.classify_sorts hc
  have hflagged := hsorts
  rw [hscoping] at hflagged
  obtain ⟨-, rfl⟩ := Classification.classify_scoped_eq_ok_iff.mp hc
  refine ⟨_, rfl, fun name hp => ?_⟩
  have hfound := (hflagged.mem_satisfied name).trans (rawSatisfied_ofRecords hp)
  have hmissing := (hflagged.mem_violations name).trans (rawViolation_ofRecords hp)
  refine ⟨hfound, hmissing, ?_, ?_, ?_, ?_, ?_⟩
  · exact (and_congr (not_congr hfound) (not_congr hmissing)).trans not_judged_iff
  · intro o ho
    rw [Evaluation.outcome?_eq_some ho]
    exact WaiverOutcome.mem_names_resolve
  · rintro f hf rfl
    rw [hscoping] at hf
    refine FindingRecord.firstFor_findings.mp ?_
    rcases List.mem_append.mp hf with hf | hf
    · exact PatternPartition.firstFor_of_mem_found hf
    · exact PatternPartition.firstFor_of_mem_missing hf
  · intro x hx
    exact Evaluation.shown_of_firstFor hcomments hscoping hsorts hx
  · intro hnone
    exact Evaluation.hidden_of_not_recorded hcomments hscoping hsorts hnone

end Records

/-! ## The run -/

namespace Config

variable {d : Document} {c : Resolved}

/-- What a document that declares patterns and status mode comes to. -/
theorem Document.status_of_resolve (h : d.resolve = .ok c) (hmode : d.checker.mode = some "status")
    (hpatterns : d.requirements.patternItems ≠ []) :
    c.checker.mode = .status ∧ c.type.usesPatterns = true ∧
      c.model.requirements.patterns = distinct d.requirements.patternItems := by
  obtain ⟨id, required, waived, warnings, mode, sep, kind, -, -, -, -, -, hscoping, -, -, rfl⟩ :=
    settle_eq_ok_iff.mp (resolve_eq_ok_iff.mp h).1
  rw [hmode] at hscoping
  refine ⟨(Except.ok.inj hscoping).symm, ?_, rfl⟩
  obtain ⟨p, hp⟩ := List.exists_mem_of_ne_nil _ hpatterns
  have hdistinct : (distinct d.requirements.patternItems).isEmpty = false :=
    List.isEmpty_eq_false_iff_exists_mem.mpr ⟨p, mem_distinct.mpr hp⟩
  show (d.model required waived).type.usesPatterns = true
  rw [CheckModel.usesPatterns_type, Requirements.searchesPatterns, Bool.not_eq_true']
  exact hdistinct

end Config

/-- **Status mode.**  In a run that declares it, every pattern item is judged by the first record
with its name, and this record is what is shown for it. -/
theorem Run.status_judges_first {stamp : Run.Stamp} {config evidence : String}
    {d : Config.Document} {file : EvidenceFile} {report : Report}
    (hconfig : Config.Document.ofText config = .ok d) (hmode : d.checker.mode = some "status")
    (hpatterns : d.requirements.patternItems ≠ [])
    (hevidence : EvidenceFile.ofText evidence = .ok file)
    (hrun : Run.run stamp config evidence = .ok report) :
    ∃ c e r b, d.resolve = .ok c ∧ EvidenceFile.parse evidence c.type = .ok e ∧
      Run.evaluate c e = .ok r ∧ report = Run.report stamp c r ∧ r.classification = .pattern b ∧
      ∀ p ∈ d.requirements.patternItems,
        JudgedByFirst c.model (file.findings.getD []) r b p := by
  obtain ⟨c, e, matcher, r, hload, hparse, hmatcher, hevaluate, hreport⟩ := run_eq_ok_iff.mp hrun
  obtain ⟨d', hd', hresolve⟩ := Config.load_eq_ok_iff.mp hload
  obtain rfl := Except.ok.inj (hconfig.symm.trans hd')
  obtain ⟨hstatus, huses, hdeclared⟩ :=
    Config.Document.status_of_resolve hresolve hmode hpatterns
  obtain ⟨file', hfile', -, hlists⟩ := EvidenceFile.parse_eq_ok_iff.mp hparse
  obtain rfl := Except.ok.inj (hevidence.symm.trans hfile')
  obtain rfl := EvidenceFile.evidence_of_usesPatterns huses hlists
  have hresult : Run.evaluate c (.ofRecords (file.findings.getD [])) = .ok r := by
    exact evaluate_eq_ok_iff.mpr ⟨matcher, hmatcher, hevaluate⟩
  rw [hstatus] at hevaluate
  obtain ⟨b, hb, hjudged⟩ := judgedByFirst_of_evaluate rfl hevaluate
  refine ⟨c, _, r, b, hresolve, hparse, hresult, hreport, hb, fun p hp => hjudged p ?_⟩
  rw [hdeclared]
  exact mem_distinct.mpr hp

section Clocks

def clockConfig : String :=
  "[checker]\nid = \" CLK \"\nmode = \"status\"\n[requirements]\n" ++
    ("pattern_items = [\"CLK_A\", \"CLK_B\", \"CLK_A\", \"CLK_C\"]\n[waivers]\nvalue = 1\n" ++
      "waive_items = [\x7bname = \"CLK_A\", reason = \"known\"\x7d]\n")

def clockToml : Toml.Value :=
  .table
    [("checker", .table [("id", .string " CLK "), ("mode", .string "status")]),
     ("requirements",
      .table
        [("pattern_items",
          .array [.string "CLK_A", .string "CLK_B", .string "CLK_A", .string "CLK_C"])]),
     ("waivers",
      .table
        [("value", .integer 1),
         ("waive_items",
          .array [.table [("name", .string "CLK_A"), ("reason", .string "known")]])])]

set_option maxRecDepth 10000 in
theorem ofText_clockConfig : Config.Document.ofText clockConfig = .ok clockDocument := by
  have hchars : clockConfig.toList = _ :=
    toList_append_of String.toList_ofList <|
      toList_append_of String.toList_ofList String.toList_ofList
  have hblank : Text.isBlankText clockConfig = false := by
    rw [Text.isBlankText, hchars]
    rfl
  have hwords : Toml.Value.ofText? clockConfig = some clockToml := by
    rw [Toml.Value.ofText?, hchars]
    cbv
  exact Config.Document.ofText_of_tables hwords hblank (by cbv) (by decide) rfl

theorem load_clockConfig : Config.load clockConfig = .ok clockCheck :=
  Config.load_eq_ok_iff.mpr ⟨clockDocument, ofText_clockConfig, resolve_clockDocument⟩

/-- `CLK_A` is missing and waived, although it is correct where it is recorded again, `CLK_B` is
found, and `CLK_C`, which is not recorded, is left out. -/
theorem Run.status_judges_first_clocks :
    let start : Timestamp := ⟨⟨2026, 1, 1, 0, 0, 0, 0, false, 0, 0⟩, by decide⟩
    ∃ report, Run.run ⟨"1", start, start⟩ clockConfig clockEvidence = .ok report ∧
      report.result.details.map (fun d => (d.name, d.severity, d.line)) =
        [("CLK_A", .info, some 7), ("CLK_B", .info, none)] ∧
      ∃ c r b, clockDocument.resolve = .ok c ∧ r.classification = .pattern b ∧
        ∀ p ∈ ["CLK_A", "CLK_B", "CLK_A", "CLK_C"], JudgedByFirst c.model clockRecords r b p := by
  intro start
  have hrun : Run.run ⟨"1", start, start⟩ clockConfig clockEvidence = .ok _ :=
    Run.run_eq_ok_iff.mpr
      ⟨clockCheck, _, _, _, load_clockConfig, parse_clockEvidence rfl, rfl, rfl, rfl⟩
  obtain ⟨c, e, r, b, hresolve, -, -, -, hb, hjudged⟩ :=
    status_judges_first ofText_clockConfig rfl (by decide) ofText_clockEvidence hrun
  exact ⟨_, hrun, by decide, c, r, b, hresolve, hb, hjudged⟩

end Clocks

end Signoff

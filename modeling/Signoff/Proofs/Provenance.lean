/-
# `Signoff.Proofs.Provenance` — where the items of a result come from

The items of a result are the comments of a forced pass, the waivers without use, and the findings.
The first two stand in one group that its label tells apart (`Evaluation.asideLabel?`); all other
items stand for findings (`Evaluation.accounts`).  Whatever the mode, these are the three buckets,
each finding listed once as its bucket asks for, in some order (`perm_entries_accounts`).  With what
the buckets have from the evidence (`Classification.Sorts`), every item is traced back to the record
it was made from.
-/
import Signoff.Evaluation
import Signoff.Proofs.Buckets
import Signoff.Proofs.Layout
import Signoff.Proofs.Waivers

namespace Signoff

open Finding (FirstFor Reported)

/-! ## How a finding is listed -/

/-- The texts of an evaluation. -/
def CheckContext.texts (ctx : CheckContext) (m : CheckModel) : Descriptions :=
  ctx.descriptions.getD (.usual m.type)

section Listing

variable (m : CheckModel) (ctx : CheckContext)

/-- The severity and the reason of a violation that is waived for the given reason. -/
def waivedListing (reason : String) : Severity × String :=
  (.info,
    (if reason = "" then (ctx.texts m).waivedReason
      else (ctx.texts m).waivedReason ++ ": " ++ reason) ++ "[WAIVER]")

/-- The severity and the reason of a violation.  It is an error, unless the pass is forced or a
waiver covers it; then the reason says so. -/
def violationListing (name : String) : Severity × String :=
  match m.waivers.mode with
  | .disabled => (.error, (ctx.texts m).missingReason)
  | .forcedPass => (.info, (ctx.texts m).missingReason ++ "[WAIVED_AS_INFO]")
  | .selective =>
      match m.waivers.named.find? fun w => ctx.matcher name w.name with
      | none => (.error, (ctx.texts m).missingReason)
      | some w => waivedListing m ctx w.reason

def extraListing : Severity × String :=
  match m.waivers.mode with
  | .forcedPass => (.info, (ctx.texts m).extraReason)
  | .disabled | .selective => (.warn, (ctx.texts m).extraReason)

def satisfiedListing : Severity × String := (.info, (ctx.texts m).foundReason)

/-- The entry of a finding in a group of the severity, with the reason. -/
def CheckContext.entry (listing : Severity × String) (f : Finding) : Severity × ItemDraft :=
  (listing.1, Assembly.findingItem ctx.checkId listing.1 listing.2 f)

end Listing

/-! ## The sections of a result -/

namespace Assembly

variable {checkId : String} {c : Classification} {w : WaiverPolicy}
  {outcome : Option WaiverOutcome} {d : Descriptions}

theorem sections_forcedPass (hmode : w.mode = .forcedPass) :
    sections checkId c w outcome d =
      groupOf .info d.waiveCommentDesc (fun s => commentItem checkId s d.waiveCommentReason)
          w.comments ::
        [findings checkId .info d.waivedAsInfoDesc (d.missingReason ++ waivedAsInfoTag) c.violations,
         findings checkId .info d.foundDesc d.foundReason c.satisfied,
         findings checkId .info d.extraDesc d.extraReason c.extra] := by
  simp only [sections, hmode]

theorem sections_selective (hmode : w.mode = .selective) :
    sections checkId c w outcome d =
      [findings checkId .error d.missingDesc d.missingReason (outcomeOr c outcome).unwaived,
       findings checkId .warn d.extraDesc d.extraReason c.extra] ++
        groupOf .warn d.unusedDesc (fun s => unusedItem checkId s d.unusedReason)
            (outcomeOr c outcome).unused ::
          [groupOf .info d.waivedDesc (fun s => waivedItem checkId s d.waivedReason)
             (outcomeOr c outcome).waived,
           findings checkId .info d.foundDesc d.foundReason c.satisfied] := by
  simp only [sections, hmode, List.cons_append, List.nil_append]

theorem labelAfter_extra {description description' reason reason' : String}
    {unwaived extra : List Finding} :
    ResultBuilder.labelAfter
        [findings checkId .error description reason unwaived,
         findings checkId .warn description' reason' extra] .warn =
      if extra.isEmpty then "WARN01" else "WARN02" := by
  have hone : Severity.warn.tag ++ Text.twoDigits 1 = "WARN01" := by decide
  have htwo : Severity.warn.tag ++ Text.twoDigits 2 = "WARN02" := by decide
  cases extra with
  | nil => simp [ResultBuilder.labelAfter, ResultBuilder.filled, findings, groupOf, hone]
  | cons f fs => simp [ResultBuilder.labelAfter, ResultBuilder.filled, findings, groupOf, htwo]

end Assembly

/-! ## Items that stand for findings -/

namespace Evaluation

/-- The label of the group whose items stand for no finding: the comments come first among the
infos, the waivers without use come after the extra findings among the warnings. -/
def asideLabel? (m : CheckModel) (r : Evaluation) : Option String :=
  match m.waivers.mode with
  | .disabled => none
  | .forcedPass => some "INFO01"
  | .selective => some (if r.classification.extra.isEmpty then "WARN01" else "WARN02")

/-- The items that stand for findings. -/
def accounts (m : CheckModel) (r : Evaluation) : List DetailItem :=
  r.result.details.filter fun d => some d.group != asideLabel? m r

/-- The items that stand for comments or for waivers without use. -/
def asides (m : CheckModel) (r : Evaluation) : List DetailItem :=
  r.result.details.filter fun d => some d.group == asideLabel? m r

variable {m : CheckModel} {ctx : CheckContext} {c : Classification}

theorem entries_findings {s : Severity} {description reason : String} {bucket : List Finding} :
    (Assembly.findings ctx.checkId s description reason bucket).entries =
      bucket.map (ctx.entry (s, reason)) := by
  rw [Assembly.findings, Assembly.groupOf, GroupDraft.entries, List.map_map]
  rfl

theorem entries_waived {description : String} {bucket : List WaivedFinding} :
    (Assembly.groupOf .info description
        (fun s => Assembly.waivedItem ctx.checkId s (ctx.texts m).waivedReason) bucket).entries =
      bucket.map fun w => ctx.entry (waivedListing m ctx w.reason) w.finding := by
  rw [Assembly.groupOf, GroupDraft.entries, List.map_map]
  refine List.map_congr_left fun w _ => ?_
  simp [waivedListing, Assembly.waivedItem, CheckContext.entry, Assembly.waiverTag]

theorem entries_of_sections (before : List GroupDraft) {after : List GroupDraft} {a : GroupDraft}
    (hsections : Assembly.sections ctx.checkId c m.waivers (outcome? m c ctx.matcher)
      (ctx.texts m) = before ++ a :: after)
    (hkeeps : ResultBuilder.Keeps a after)
    (hlabel : (ofClassification m ctx c).asideLabel? m =
      some (ResultBuilder.labelAfter before a.severity)) :
    (((ofClassification m ctx c).accounts m).map DetailItem.entry).Perm
        ((before ++ after).flatMap GroupDraft.entries) ∧
      ((ofClassification m ctx c).asides m).map DetailItem.entry = a.entries := by
  have hresult : (ofClassification m ctx c).result =
      (ResultBuilder.mk (before ++ a :: after)).finish (ofClassification m ctx c).verdict.status
        (ofClassification m ctx c).verdict.waived := by
    rw [← hsections]
    rfl
  rw [accounts, asides, hlabel, hresult]
  exact ⟨ResultBuilder.perm_entries_ne hkeeps, ResultBuilder.entries_eq hkeeps⟩

theorem entries_forcedPass (hmode : m.waivers.mode = .forcedPass)
    (hentries : m.waivers.entries ≠ []) :
    (((ofClassification m ctx c).accounts m).map DetailItem.entry).Perm
        (c.violations.map
            (ctx.entry (.info, (ctx.texts m).missingReason ++ Assembly.waivedAsInfoTag)) ++
          (c.satisfied.map (ctx.entry (.info, (ctx.texts m).foundReason)) ++
            c.extra.map (ctx.entry (.info, (ctx.texts m).extraReason)))) ∧
      ((ofClassification m ctx c).asides m).map DetailItem.entry =
        m.waivers.comments.map fun text =>
          (.info, Assembly.commentItem ctx.checkId .info (ctx.texts m).waiveCommentReason text) := by
  have hfirst : ResultBuilder.labelAfter [] .info = "INFO01" := by decide
  have hlabel : (ofClassification m ctx c).asideLabel? m =
      some (ResultBuilder.labelAfter [] .info) := by
    rw [asideLabel?, hmode, hfirst]
  have hkeeps : m.waivers.comments ≠ [] := by simpa [WaiverPolicy.comments] using hentries
  obtain ⟨haccounts, hasides⟩ :=
    entries_of_sections [] (Assembly.sections_forcedPass hmode)
      (fun hnil => absurd (List.map_eq_nil_iff.mp hnil) hkeeps) hlabel
  constructor
  · simpa only [List.nil_append, List.flatMap_cons, List.flatMap_nil, entries_findings,
      List.append_nil] using haccounts
  · rw [hasides, Assembly.groupOf, GroupDraft.entries, List.map_map]
    rfl

theorem entries_selective (hmode : m.waivers.mode = .selective) :
    let o := WaiverOutcome.resolve ctx.matcher c.violations m.waivers.named
    (((ofClassification m ctx c).accounts m).map DetailItem.entry).Perm
        (o.unwaived.map (ctx.entry (.error, (ctx.texts m).missingReason)) ++
          (c.extra.map (ctx.entry (.warn, (ctx.texts m).extraReason)) ++
            (o.waived.map (fun w => ctx.entry (waivedListing m ctx w.reason) w.finding) ++
              c.satisfied.map (ctx.entry (.info, (ctx.texts m).foundReason))))) ∧
      ((ofClassification m ctx c).asides m).map DetailItem.entry =
        o.unused.map fun w =>
          (.warn, Assembly.unusedItem ctx.checkId .warn (ctx.texts m).unusedReason w) := by
  intro o
  have houtcome : Assembly.outcomeOr c (outcome? m c ctx.matcher) = o := by
    rw [outcome?, hmode]
    rfl
  obtain ⟨haccounts, hasides⟩ :=
    entries_of_sections _ (Assembly.sections_selective hmode)
      (fun _ => by simp [Assembly.groupOf, Assembly.findings])
      (by rw [asideLabel?, hmode, Assembly.groupOf, Assembly.labelAfter_extra]; rfl)
  rw [houtcome] at haccounts hasides
  constructor
  · simpa only [List.cons_append, List.nil_append, List.flatMap_cons, List.flatMap_nil,
      entries_findings, entries_waived, List.append_nil] using haccounts
  · rw [hasides, Assembly.groupOf, GroupDraft.entries, List.map_map]
    rfl

/-- The items that stand for findings are the buckets, every finding listed as its bucket asks. -/
theorem perm_entries_accounts (ctx : CheckContext) (c : Classification)
    (h : m.waivers.mode = .forcedPass → m.waivers.entries ≠ []) :
    (((ofClassification m ctx c).accounts m).map DetailItem.entry).Perm
      (c.violations.map (fun f => ctx.entry (violationListing m ctx f.identifier) f) ++
        (c.extra.map (ctx.entry (extraListing m ctx)) ++
          c.satisfied.map (ctx.entry (satisfiedListing m ctx)))) := by
  cases hmode : m.waivers.mode with
  | disabled =>
      have hall : (ofClassification m ctx c).accounts m =
          (ofClassification m ctx c).result.details := by
        simp [accounts, asideLabel?, hmode]
      rw [hall]
      refine ResultBuilder.perm_entries_finish.trans ?_
      simp only [Assembly.sections, hmode, List.flatMap_cons, List.flatMap_nil, entries_findings,
        List.append_nil, violationListing, extraListing]
      exact .refl _
  | forcedPass =>
      refine (entries_forcedPass hmode (h hmode)).1.trans ?_
      simp only [violationListing, extraListing, hmode]
      exact List.perm_append_comm.append_left _
  | selective =>
      have hviolations :
          ((WaiverOutcome.resolve ctx.matcher c.violations m.waivers.named).unwaived.map
              (ctx.entry (.error, (ctx.texts m).missingReason)) ++
            (WaiverOutcome.resolve ctx.matcher c.violations m.waivers.named).waived.map
              fun w => ctx.entry (waivedListing m ctx w.reason) w.finding).Perm
            (c.violations.map fun f => ctx.entry (violationListing m ctx f.identifier) f) := by
        refine WaiverOutcome.perm_resolve ?_ ?_
        · intro f hf
          have hfind := Option.map_eq_none_iff.mp hf
          simp only [violationListing, hmode, hfind]
        · intro f w hw
          obtain ⟨v, hfind, rfl⟩ := Option.map_eq_some_iff.mp hw
          simp only [violationListing, hmode, hfind]
      refine (entries_selective hmode).1.trans ?_
      refine ((List.perm_append_comm_assoc _ _ _).append_left _).trans ?_
      rw [← List.append_assoc]
      simp only [extraListing, hmode]
      exact hviolations.append_right _

/-- The items that are set aside, with their severities and reasons. -/
def asideListings (m : CheckModel) (ctx : CheckContext) (r : Evaluation) :
    List (String × Severity × String) :=
  match m.waivers.mode with
  | .disabled => []
  | .forcedPass =>
      m.waivers.comments.map fun text =>
        (text, .info, (ctx.texts m).waiveCommentReason ++ "[WAIVED_INFO]")
  | .selective =>
      (r.waivers.elim [] WaiverOutcome.unused).map fun w =>
        (w.name, .warn, (ctx.texts m).unusedReason ++ "[WAIVER]")

theorem listings_asides (h : m.waivers.mode = .forcedPass → m.waivers.entries ≠ []) :
    ((ofClassification m ctx c).asides m).map (fun d => (d.name, d.severity, d.reason)) =
      asideListings m ctx (ofClassification m ctx c) := by
  have hentry : ∀ ds : List DetailItem, ds.map (fun d => (d.name, d.severity, d.reason)) =
      (ds.map DetailItem.entry).map fun x => (x.2.name, x.1, x.2.reason) := by
    intro ds
    rw [List.map_map]
    rfl
  rw [hentry, asideListings]
  cases hmode : m.waivers.mode with
  | disabled => simp [asides, asideLabel?, hmode]
  | forcedPass =>
      rw [(entries_forcedPass hmode (h hmode)).2, List.map_map]
      rfl
  | selective =>
      have houtcome : (ofClassification m ctx c).waivers =
          some (.resolve ctx.matcher c.violations m.waivers.named) := by
        simp only [ofClassification, outcome?, hmode]
      rw [(entries_selective hmode).2, List.map_map, houtcome]
      rfl

end Evaluation

/-! ## Every finding is accounted for -/

/-- The names that the evidence and the patterns ask an account of. -/
def Answerable (s : Scoping) (patterns : List String) (e : Evidence) (name : String) : Prop :=
  match e, s with
  | .split violations passes, _ => Reported name violations ∨ Reported name passes
  | .scoped findings, .existence => Reported name findings ∨ name ∈ patterns
  | .scoped findings, .status _ => Reported name findings

theorem answerable_iff {s : Scoping} {patterns : List String} {name : String} : ∀ {e : Evidence},
    Answerable s patterns e name ↔
      RawViolation s patterns e name ∨ RawExtra patterns e name ∨ RawSatisfied s patterns e name
  | .split violations passes => by
      simp only [Answerable, RawViolation, RawExtra, RawSatisfied]
      by_cases hv : Reported name violations <;> simp [hv]
  | .scoped findings => by
      cases s with
      | existence =>
          simp only [Answerable, RawViolation, RawExtra, RawSatisfied]
          by_cases hr : Reported name findings <;> by_cases hp : name ∈ patterns <;> simp [hr, hp]
      | status correct =>
          simp only [Answerable, RawViolation, RawExtra, RawSatisfied]
          by_cases hp : name ∈ patterns
          · simp only [hp, true_and, not_true_eq_false, and_false, false_or,
              ← Finding.exists_firstFor_iff, ← exists_or, ← and_or_left]
            simp
          · simp [hp]

/-- The severity and the reason that a name is listed with are those of its bucket. -/
inductive ListedAs (m : CheckModel) (e : Evidence) (ctx : CheckContext) (name : String) :
    Severity × String → Prop
  | violation : RawViolation ctx.scoping m.requirements.patterns e name →
      ListedAs m e ctx name (violationListing m ctx name)
  | extra : RawExtra m.requirements.patterns e name → ListedAs m e ctx name (extraListing m ctx)
  | satisfied : RawSatisfied ctx.scoping m.requirements.patterns e name →
      ListedAs m e ctx name (satisfiedListing m ctx)

/-- What the items of an evaluation say of the evidence. -/
structure Evaluation.Accounted (m : CheckModel) (e : Evidence) (ctx : CheckContext)
    (r : Evaluation) : Prop where
  /-- Only comments and waivers without use are set aside. -/
  listings_asides : (r.asides m).map (fun d => (d.name, d.severity, d.reason)) =
    Evaluation.asideListings m ctx r
  nodup_names : ((r.accounts m).map DetailItem.name).Nodup
  mem_names_iff : ∀ name, name ∈ (r.accounts m).map DetailItem.name ↔
    Answerable ctx.scoping m.requirements.patterns e name
  /-- What was recorded is listed with the place and the text of its first record. -/
  recorded : ∀ d ∈ r.accounts m, ∀ f, FirstFor d.name f e.records →
    d.line = f.line ∧ d.path = f.path ∧ d.detail = if f.detail = "" then none else some f.detail
  /-- What was not recorded is listed by its name alone. -/
  unrecorded : ∀ d ∈ r.accounts m, ¬ Reported d.name e.records →
    d.line = none ∧ d.path = none ∧ d.detail = none
  listed_iff : ∀ d ∈ r.accounts m, ∀ severity reason,
    d.severity = severity ∧ d.reason = reason ↔ ListedAs m e ctx d.name (severity, reason)

theorem ListedAs.unique {m : CheckModel} {e : Evidence} {ctx : CheckContext} {name : String}
    {l l' : Severity × String} (h : ListedAs m e ctx name l) (h' : ListedAs m e ctx name l') :
    l = l' := by
  cases h with
  | violation hv =>
      cases h' with
      | violation _ => rfl
      | extra hx => exact absurd hv hx.not_violation
      | satisfied hs => exact absurd hs hv.not_satisfied
  | extra hx =>
      cases h' with
      | violation hv => exact absurd hv hx.not_violation
      | extra _ => rfl
      | satisfied hs => exact absurd hs hx.not_satisfied
  | satisfied hs =>
      cases h' with
      | violation hv => exact absurd hs hv.not_satisfied
      | extra hx => exact absurd hs hx.not_satisfied
      | satisfied _ => rfl

/-- The item has the name, the place and the text of the finding. -/
structure DetailItem.Shows (d : DetailItem) (f : Finding) : Prop where
  name_eq : d.name = f.identifier
  line_eq : d.line = f.line
  path_eq : d.path = f.path
  detail_eq : d.detail = if f.detail = "" then none else some f.detail

theorem CheckContext.shows_of_entry {ctx : CheckContext} {listing : Severity × String} {f : Finding}
    {d : DetailItem} (h : ctx.entry listing f = d.entry) :
    d.Shows f ∧ listing = (d.severity, d.reason) := by
  obtain ⟨hseverity, hitem⟩ := Prod.mk.inj h
  injection hitem with hname hreason hline hpath hdetail
  refine ⟨⟨hname.symm, hline.symm, hpath.symm, ?_⟩, Prod.ext hseverity hreason⟩
  rw [← hdetail]
  show Assembly.nonEmpty? f.detail = _
  simp [Assembly.nonEmpty?]

namespace Evaluation

variable {m : CheckModel} {e : Evidence} {ctx : CheckContext} {c : Classification}

/-- An item that stands for a finding shows one that comes from the evidence, as its bucket asks. -/
theorem shows_of_mem_accounts (h : m.waivers.mode = .forcedPass → m.waivers.entries ≠ [])
    (hsorts : c.Sorts ctx.scoping m.requirements.patterns e) {d : DetailItem}
    (hd : d ∈ (ofClassification m ctx c).accounts m) :
    ∃ f, d.Shows f ∧ Origin e f ∧ ListedAs m e ctx d.name (d.severity, d.reason) := by
  have hentry := (perm_entries_accounts ctx c h).mem_iff.mp (List.mem_map_of_mem hd)
  simp only [List.mem_append, List.mem_map] at hentry
  rcases hentry with ⟨f, hf, hfd⟩ | ⟨f, hf, hfd⟩ | ⟨f, hf, hfd⟩
  · obtain ⟨hshows, hlisting⟩ := CheckContext.shows_of_entry hfd
    refine ⟨f, hshows, hsorts.origin f (.inl hf), ?_⟩
    rw [← hlisting, hshows.name_eq]
    exact .violation ((hsorts.mem_violations _).mp (List.mem_map_of_mem hf))
  · obtain ⟨hshows, hlisting⟩ := CheckContext.shows_of_entry hfd
    refine ⟨f, hshows, hsorts.origin f (.inr (.inr hf)), ?_⟩
    rw [← hlisting, hshows.name_eq]
    exact .extra ((hsorts.mem_extra _).mp (List.mem_map_of_mem hf))
  · obtain ⟨hshows, hlisting⟩ := CheckContext.shows_of_entry hfd
    refine ⟨f, hshows, hsorts.origin f (.inr (.inl hf)), ?_⟩
    rw [← hlisting, hshows.name_eq]
    exact .satisfied ((hsorts.mem_satisfied _).mp (List.mem_map_of_mem hf))

theorem perm_names_accounts (ctx : CheckContext) (c : Classification)
    (h : m.waivers.mode = .forcedPass → m.waivers.entries ≠ []) :
    (((ofClassification m ctx c).accounts m).map DetailItem.name).Perm
      (c.violations.map Finding.identifier ++
        (c.extra.map Finding.identifier ++ c.satisfied.map Finding.identifier)) := by
  have hnames := (perm_entries_accounts ctx c h).map fun x => x.2.name
  simp only [List.map_append, List.map_map] at hnames
  exact hnames

end Evaluation

theorem Classification.Sorts.nodup_names {s : Scoping} {patterns : List String} {e : Evidence}
    {c : Classification} (h : c.Sorts s patterns e) :
    (c.violations.map Finding.identifier ++
      (c.extra.map Finding.identifier ++ c.satisfied.map Finding.identifier)).Nodup := by
  refine h.nodup_violations.append (h.nodup_extra.append h.nodup_satisfied ?_) ?_
  · intro name hx hs
    exact ((h.mem_extra name).mp hx).not_satisfied ((h.mem_satisfied name).mp hs)
  · intro name hv hrest
    have hv := (h.mem_violations name).mp hv
    rcases List.mem_append.mp hrest with hx | hs
    · exact ((h.mem_extra name).mp hx).not_violation hv
    · exact hv.not_satisfied ((h.mem_satisfied name).mp hs)

namespace Evaluation

variable {m : CheckModel} {e : Evidence} {ctx : CheckContext} {c : Classification}

theorem nodup_names_accounts (h : m.waivers.mode = .forcedPass → m.waivers.entries ≠ [])
    (hsorts : c.Sorts ctx.scoping m.requirements.patterns e) :
    (((ofClassification m ctx c).accounts m).map DetailItem.name).Nodup :=
  (perm_names_accounts ctx c h).nodup_iff.mpr hsorts.nodup_names

theorem mem_names_accounts {name : String}
    (h : m.waivers.mode = .forcedPass → m.waivers.entries ≠ [])
    (hsorts : c.Sorts ctx.scoping m.requirements.patterns e) :
    name ∈ ((ofClassification m ctx c).accounts m).map DetailItem.name ↔
      Answerable ctx.scoping m.requirements.patterns e name := by
  rw [(perm_names_accounts ctx c h).mem_iff, List.mem_append, List.mem_append,
    hsorts.mem_violations, hsorts.mem_extra, hsorts.mem_satisfied, answerable_iff]

end Evaluation

/-- **Accounts.**  No finding is lost, listed twice or listed as something else between the evidence
and the result. -/
theorem evaluate_accounted {m : CheckModel} {e : Evidence} {ctx : CheckContext} {r : Evaluation}
    (h : m.evaluate e ctx = .ok r) : r.Accounted m e ctx := by
  obtain ⟨hcomments, c, hc, rfl⟩ := CheckModel.evaluate_eq_ok_iff.mp h
  have hsorts := Classification.classify_sorts hc
  have hnames := Evaluation.perm_names_accounts ctx c hcomments
  refine ⟨Evaluation.listings_asides hcomments, hnames.nodup_iff.mpr hsorts.nodup_names, ?_, ?_, ?_,
    ?_⟩
  · intro name
    rw [hnames.mem_iff, List.mem_append, List.mem_append, hsorts.mem_violations, hsorts.mem_extra,
      hsorts.mem_satisfied, answerable_iff]
  · intro d hd g hg
    obtain ⟨f, hshows, horigin, -⟩ := Evaluation.shows_of_mem_accounts hcomments hsorts hd
    obtain rfl := horigin.eq_of_firstFor (hshows.name_eq ▸ hg)
    exact ⟨hshows.line_eq, hshows.path_eq, hshows.detail_eq⟩
  · intro d hd hnone
    obtain ⟨f, hshows, horigin, -⟩ := Evaluation.shows_of_mem_accounts hcomments hsorts hd
    have hbare := horigin.eq_of_not_reported (hshows.name_eq ▸ hnone)
    rw [hshows.line_eq, hshows.path_eq, hshows.detail_eq, hbare]
    exact ⟨rfl, rfl, rfl⟩
  · intro d hd severity reason
    obtain ⟨-, -, -, hlisted⟩ := Evaluation.shows_of_mem_accounts hcomments hsorts hd
    rw [← Prod.mk.injEq]
    constructor
    · intro hl
      exact hl ▸ hlisted
    · exact hlisted.unique

/-- `NET_A` is judged by its first record and waived, `NET_B` is correct, `NET_X` is extra, and the
waiver for `OLD` is set aside. -/
theorem evaluate_accounted_selective :
    let m : CheckModel :=
      { requirements := { patterns := ["NET_A", "NET_B", "NET_A"] },
        waivers := .selective [⟨"NET_A", "known"⟩, ⟨"OLD", ""⟩] }
    let e : Evidence := .scoped
      [⟨"NET_X", none, none, ""⟩, ⟨"NET_A", some 1, none, "bad"⟩, ⟨"NET_B", some 7, none, "ok"⟩,
       ⟨"NET_A", some 2, none, "ok"⟩]
    let ctx : CheckContext := { checkId := "CHK", scoping := .status fun f => f.detail == "ok" }
    ∃ r, m.evaluate e ctx = .ok r ∧ r.Accounted m e ctx ∧
      (r.accounts m).map (fun d => (d.name, d.severity, d.line)) =
        [("NET_X", .warn, none), ("NET_A", .info, some 1), ("NET_B", .info, some 7)] ∧
      (r.asides m).map DetailItem.name = ["OLD"] := by
  intro m e ctx
  exact ⟨_, rfl, evaluate_accounted rfl, by decide, by decide⟩

end Signoff

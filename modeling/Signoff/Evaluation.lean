/-
# `Signoff.Evaluation` — evaluating a check

A check is evaluated in one pass: its declarations are validated, its type is resolved, the evidence
is classified, violations are held against the waivers (in selective mode only), the verdict is
drawn, and the result is assembled and counted.  Nothing is remembered between evaluations.

Which groups a result has, and with what reasons their items are listed, hangs on the waiver mode
alone.  Each group is drafted from one bucket (`Assembly.sections`); the builder lays the drafts out.
What is listed beyond the plain buckets carries a tag at the end of its reason.
-/
import Signoff.CheckType
import Signoff.Fingerprint
import Signoff.Result
import Signoff.Verdict

namespace Signoff.Assembly

/-! ## Tags -/

/-- Marks what the waivers brought into the result. -/
def waiverTag : String := "[WAIVER]"

/-- Marks a violation that a forced pass reports as information. -/
def waivedAsInfoTag : String := "[WAIVED_AS_INFO]"

/-- Marks a comment that justifies a forced pass. -/
def waivedInfoTag : String := "[WAIVED_INFO]"

/-! ## Items -/

/-- The text, unless there is none. -/
def nonEmpty? (s : String) : Option String := if s.isEmpty then none else some s

def nameItem (checkId : String) (s : Severity) (name reason : String) (detail : Option String) :
    ItemDraft where
  name := name
  reason := reason
  detail := detail
  fingerprint := Fingerprint.ofItem checkId s name reason

def findingItem (checkId : String) (s : Severity) (reason : String) (f : Finding) : ItemDraft :=
  { nameItem checkId s f.identifier reason (nonEmpty? f.detail) with line := f.line, path := f.path }

/-- An item for a waived violation; the reason of the waiver is part of its own. -/
def waivedItem (checkId : String) (s : Severity) (reason : String) (w : WaivedFinding) :
    ItemDraft :=
  findingItem checkId s
    ((if w.reason.isEmpty then reason else reason ++ ": " ++ w.reason) ++ waiverTag) w.finding

def unusedItem (checkId : String) (s : Severity) (reason : String) (w : NamedWaiver) : ItemDraft :=
  nameItem checkId s w.name (reason ++ waiverTag) (nonEmpty? w.reason)

def commentItem (checkId : String) (s : Severity) (reason text : String) : ItemDraft :=
  nameItem checkId s text (reason ++ waivedInfoTag) none

/-! ## Groups -/

/-- A group whose items are made from a bucket. -/
def groupOf (s : Severity) (description : String) (item : Severity → α → ItemDraft)
    (bucket : List α) : GroupDraft :=
  ⟨s, description, bucket.map (item s)⟩

/-- A group of findings that share a reason. -/
def findings (checkId : String) (s : Severity) (description reason : String)
    (bucket : List Finding) : GroupDraft :=
  groupOf s description (fun s => findingItem checkId s reason) bucket

/-- Without an outcome of waiver resolution all violations are unwaived. -/
def outcomeOr (c : Classification) (outcome : Option WaiverOutcome) : WaiverOutcome :=
  outcome.getD { unwaived := c.violations }

/-- The groups of a result, in the order of opening. -/
def sections (checkId : String) (c : Classification) (w : WaiverPolicy)
    (outcome : Option WaiverOutcome) (d : Descriptions) : List GroupDraft :=
  match w.mode with
  | .disabled =>
    [findings checkId .error d.missingDesc d.missingReason c.violations,
     findings checkId .warn d.extraDesc d.extraReason c.extra,
     findings checkId .info d.foundDesc d.foundReason c.satisfied]
  | .forcedPass =>
    [groupOf .info d.waiveCommentDesc (fun s => commentItem checkId s d.waiveCommentReason)
       w.comments,
     findings checkId .info d.waivedAsInfoDesc (d.missingReason ++ waivedAsInfoTag) c.violations,
     findings checkId .info d.foundDesc d.foundReason c.satisfied,
     findings checkId .info d.extraDesc d.extraReason c.extra]
  | .selective =>
    let o := outcomeOr c outcome
    [findings checkId .error d.missingDesc d.missingReason o.unwaived,
     findings checkId .warn d.extraDesc d.extraReason c.extra,
     groupOf .warn d.unusedDesc (fun s => unusedItem checkId s d.unusedReason) o.unused,
     groupOf .info d.waivedDesc (fun s => waivedItem checkId s d.waivedReason) o.waived,
     findings checkId .info d.foundDesc d.foundReason c.satisfied]

/-- The result of a check. -/
def assemble (checkId : String) (c : Classification) (w : WaiverPolicy)
    (outcome : Option WaiverOutcome) (v : Verdict) (d : Descriptions) : CheckResult :=
  (ResultBuilder.mk (sections checkId c w outcome d)).finish v.status v.waived

end Signoff.Assembly

namespace Signoff

/-! ## The whole -/

/-- What an evaluation needs beyond the model and the evidence. -/
structure CheckContext where
  checkId : String
  /-- The texts of the result; `none` asks for the usual texts of the type. -/
  descriptions : Option Descriptions := none
  scoping : Scoping := .existence
  matcher : Matcher := Matcher.exact

/-- Everything one evaluation produces. -/
structure Evaluation where
  type : CheckType
  classification : Classification
  /-- There in selective mode only. -/
  waivers : Option WaiverOutcome
  verdict : Verdict
  result : CheckResult
  counts : BucketCounts
  deriving DecidableEq, Repr

namespace Evaluation

/-- The waiver resolution of a model, in the mode that has one. -/
def outcome? (m : CheckModel) (c : Classification) (matcher : Matcher) : Option WaiverOutcome :=
  match m.waivers.mode with
  | .selective => some (.resolve matcher c.violations m.waivers.named)
  | .disabled | .forcedPass => none

/-- The number of comments that a forced pass shows. -/
def commentCount (w : WaiverPolicy) : Nat :=
  match w.mode with
  | .forcedPass => w.entries.length
  | .disabled | .selective => 0

def ofClassification (m : CheckModel) (ctx : CheckContext) (c : Classification) : Evaluation :=
  let waivers := outcome? m c ctx.matcher
  let verdict := Verdict.resolve c waivers m.waivers.mode
  let descriptions := ctx.descriptions.getD (.usual m.type)
  { type := m.type
    classification := c
    waivers := waivers
    verdict := verdict
    result := Assembly.assemble ctx.checkId c m.waivers waivers verdict descriptions
    counts := .count c waivers (commentCount m.waivers) }

end Evaluation

def CheckModel.evaluate (m : CheckModel) (evidence : Evidence) (ctx : CheckContext) :
    Except ConfigError Evaluation :=
  match m.validate with
  | .error e => .error e
  | .ok _ =>
    (Classification.classify m.type ctx.scoping m.requirements.patterns evidence).map
      (Evaluation.ofClassification m ctx)

theorem CheckModel.evaluate_eq_ok_iff {m : CheckModel} {e : Evidence} {ctx : CheckContext}
    {r : Evaluation} :
    m.evaluate e ctx = .ok r ↔ (m.waivers.mode = .forcedPass → m.waivers.entries ≠ []) ∧
      ∃ c, Classification.classify m.type ctx.scoping m.requirements.patterns e = .ok c ∧
        Evaluation.ofClassification m ctx c = r := by
  by_cases hc : m.waivers.mode = .forcedPass → m.waivers.entries ≠ []
  · have hv := validate_eq_ok_iff.mpr ⟨hc, rfl⟩
    cases h : Classification.classify m.type ctx.scoping m.requirements.patterns e with
    | error err => simp [evaluate, hv, h, Except.map]
    | ok c => simp [evaluate, hv, h, Except.map, and_iff_right hc]
  · cases hv : m.validate with
    | error err => simp [evaluate, hv, hc]
    | ok ws => exact absurd (validate_eq_ok_iff.mp hv).1 hc

end Signoff

/-
# `Signoff.Verdict` — what the waivers leave of the violations

Every violation is held against the waivers in their order.  The first that covers it waives it and
is the only one used by it; a waiver that is the first match of no violation is unused.  The verdict
is drawn from the violations that are left: a PASS that needed waivers is marked as waived, a FAIL
never is.  The summary counts the buckets; `waived` and `unwaived` partition what the check failed
on, which is `missing` for pattern checks and `violations` for boolean checks.
-/
import Signoff.Classification
import Signoff.Finding
import Signoff.Matcher
import Signoff.Severity

namespace Signoff

/-! ## Which violations are waived -/

/-- A violation together with the waiver that covers it. -/
structure WaivedFinding where
  finding : Finding
  /-- Name of the first waiver that covers the finding. -/
  waiver : String
  reason : String
  deriving DecidableEq, Repr

/-- Violations told apart by the waivers. -/
structure WaiverOutcome where
  waived : List WaivedFinding := []
  unwaived : List Finding := []
  unused : List NamedWaiver := []
  deriving DecidableEq, Repr

namespace WaiverOutcome

/-- Position of the first waiver that covers the finding. -/
def firstMatch? (m : Matcher) (waivers : List NamedWaiver) (f : Finding) : Option Nat :=
  waivers.findIdx? fun w => m f.identifier w.name

/-- The finding with the first waiver that covers it. -/
def waive? (m : Matcher) (waivers : List NamedWaiver) (f : Finding) : Option WaivedFinding :=
  (waivers.find? fun w => m f.identifier w.name).map fun w => ⟨f, w.name, w.reason⟩

/-- The positions of the waivers that are the first match of a violation. -/
def usedPositions (m : Matcher) (violations : List Finding) (waivers : List NamedWaiver) :
    List Nat :=
  violations.filterMap (firstMatch? m waivers)

/-- The waivers whose position is not among the used ones. -/
def unusedWaivers (used : List Nat) (waivers : List NamedWaiver) : List NamedWaiver :=
  (waivers.zipIdx.filter fun w => !used.contains w.2).map (·.1)

/-- The violations, told apart by the waivers. -/
def resolve (m : Matcher) (violations : List Finding) (waivers : List NamedWaiver) :
    WaiverOutcome where
  waived := violations.filterMap (waive? m waivers)
  unwaived := violations.filter fun f => (waive? m waivers f).isNone
  unused := unusedWaivers (usedPositions m violations waivers) waivers

end WaiverOutcome

/-! ## The status -/

/-- The status of a check, and whether it took waivers to reach it. -/
structure Verdict where
  status : Status
  waived : Bool
  deriving DecidableEq, Repr

namespace Verdict

def cleanPass : Verdict := ⟨.pass, false⟩

def failure : Verdict := ⟨.fail, false⟩

/-- The verdict in a waiver mode.  Without an outcome of waiver resolution nothing is waived. -/
def resolve (c : Classification) (outcome : Option WaiverOutcome) : WaiverMode → Verdict
  | .forcedPass => ⟨.pass, true⟩
  | .selective =>
    match outcome with
    | some o => if o.unwaived.isEmpty then ⟨.pass, !o.waived.isEmpty⟩ else failure
    | none => if c.violations.isEmpty then cleanPass else failure
  | .disabled => if c.violations.isEmpty then cleanPass else failure

end Verdict

/-! ## The summary -/

/-- Number of items per bucket, as 32-bit counts. -/
structure BucketCounts where
  /-- Patterns found, or passes. -/
  found : UInt32 := 0
  /-- Patterns missing; pattern checks only. -/
  missing : UInt32 := 0
  /-- Violations; boolean checks only. -/
  violations : UInt32 := 0
  extra : UInt32 := 0
  waived : UInt32 := 0
  unwaived : UInt32 := 0
  unusedWaivers : UInt32 := 0
  waiveComments : UInt32 := 0
  deriving DecidableEq, Repr

namespace BucketCounts

def size (xs : List α) : UInt32 := UInt32.ofNat xs.length

/-- The counts of a classification, of the waiver resolution if there was one, and of the comments
of a forced pass. -/
def count (c : Classification) (outcome : Option WaiverOutcome) (waiveComments : Nat) :
    BucketCounts where
  found := size c.satisfied
  missing := match c with
    | .pattern p => size p.missing
    | .boolean _ => 0
  violations := match c with
    | .pattern _ => 0
    | .boolean b => size b.violations
  extra := size c.extra
  waived := outcome.elim 0 fun o => size o.waived
  unwaived := outcome.elim 0 fun o => size o.unwaived
  unusedWaivers := outcome.elim 0 fun o => size o.unused
  waiveComments := UInt32.ofNat waiveComments

end BucketCounts

end Signoff

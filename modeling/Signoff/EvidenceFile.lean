/-
# `Signoff.EvidenceFile` — evidence as parsers hand it over

An evidence file is a JSON document with up to three lists of findings.  Which lists may be there
hangs on the type of the check; a file without any is empty evidence of the right shape.  A finding
may carry a flag that says whether it is correct; for every identifier the first flag counts.
-/
import Signoff.Failure
import Signoff.Finding
import Signoff.Json.Reader
import Signoff.Json.Value
import Signoff.Text.Basic

namespace Signoff

/-- A finding as it is written, with its flag. -/
structure FindingRecord where
  identifier : String
  line : Option UInt32 := none
  path : Option String := none
  detail : String := ""
  correct : Bool := false
  deriving DecidableEq, Repr

namespace FindingRecord

/-- The finding, its path in the one spelling. -/
def finding (r : FindingRecord) : Finding :=
  ⟨r.identifier, r.line, r.path.map SourcePath.ofText, r.detail⟩

def ofTree? (t : Json.Tree) : Option FindingRecord := do
  let field ← t.record? ["identifier", "line_number", "source_path", "detail_text", "correct"]
  return {
    identifier := ← Json.Field.required Json.Tree.string? (field "identifier")
    line := ← Json.Tree.optional Json.Tree.count? (field "line_number")
    path := ← Json.Tree.optional Json.Tree.string? (field "source_path")
    detail := ← Json.Field.orElse "" Json.Tree.string? (field "detail_text")
    correct := ← Json.Field.orElse false Json.Tree.bool? (field "correct") }

end FindingRecord

/-- An evidence file, before it is held against the type of the check. -/
structure EvidenceFile where
  schema : Option String := none
  findings : Option (List FindingRecord) := none
  violations : Option (List FindingRecord) := none
  passes : Option (List FindingRecord) := none
  deriving DecidableEq, Repr

/-- Evidence together with the flags of its findings, in the order of the file. -/
structure FlaggedEvidence where
  evidence : Evidence
  flags : List (String × Bool)
  deriving DecidableEq, Repr

/-- Is the first finding with the identifier flagged as correct? -/
def FlaggedEvidence.isCorrect (e : FlaggedEvidence) (identifier : String) : Bool :=
  (e.flags.lookup identifier).getD false

namespace EvidenceFile

def schemaName : String := "chkgate.evidence.v1"

def recordsOfTree? (t : Json.Tree) : Option (List FindingRecord) :=
  t.items?.bind (·.mapM FindingRecord.ofTree?)

def ofTree? (t : Json.Tree) : Option EvidenceFile := do
  let field ← t.record? ["schema", "findings", "violations", "passes"]
  return {
    schema := ← Json.Tree.optional Json.Tree.string? (field "schema")
    findings := ← Json.Tree.optional recordsOfTree? (field "findings")
    violations := ← Json.Tree.optional recordsOfTree? (field "violations")
    passes := ← Json.Tree.optional recordsOfTree? (field "passes") }

/-- The file that the text spells; a text of blanks is no input at all. -/
def ofText (text : String) : Except Failure EvidenceFile :=
  if Text.isBlankText text then .error { cause := .config (.missingInput "evidence") }
  else
    match (Json.Tree.ofText? text).bind ofTree? with
    | some f => .ok f
    | none => .error { contexts := ["parse evidence json"], cause := .malformed }

def flagsOf (rs : List FindingRecord) : List (String × Bool) :=
  rs.map fun r => (r.identifier, r.correct)

/-- The evidence for a check of the type, unless the file has lists of the other shape. -/
def evidence (type : CheckType) (f : EvidenceFile) : Except Failure FlaggedEvidence :=
  let mismatch := fun expected =>
    .error { cause := .config (.evidenceMismatch type expected) }
  if type.usesPatterns then
    if f.violations.isSome || f.passes.isSome then mismatch "scoped"
    else
      let findings := f.findings.getD []
      .ok ⟨.scoped (findings.map FindingRecord.finding), flagsOf findings⟩
  else if f.findings.isSome then mismatch "split"
  else
    let violations := f.violations.getD []
    let passes := f.passes.getD []
    .ok ⟨.split (violations.map FindingRecord.finding) (passes.map FindingRecord.finding),
      flagsOf (violations ++ passes)⟩

/-- The schema, if it is given, has to be the known one. -/
def checkSchema (f : EvidenceFile) : Except Failure Unit :=
  match f.schema with
  | none => .ok ()
  | some s =>
    if s = schemaName then .ok () else .error { cause := .schema "evidence" s schemaName }

/-- The evidence that a text holds for a check of the type. -/
def parse (text : String) (type : CheckType) : Except Failure FlaggedEvidence := do
  let f ← ofText text
  f.checkSchema
  f.evidence type

end EvidenceFile

end Signoff

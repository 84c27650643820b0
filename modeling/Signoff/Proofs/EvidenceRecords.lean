/-
# `Signoff.Proofs.EvidenceRecords` — the records of an evidence file

A record of an evidence file is taken apart when it is read: the finding goes into the evidence, and
the flag that says whether it is correct goes into a list of its own, under the name alone.  Where a
name is recorded again, each part keeps what came first for a reason of its own: the classifier
searches the findings, and the list of flags is looked up.  Both come back to the same record
(`firstFor_findings`, `isCorrect_of_firstFor`).
-/
import Signoff.EvidenceFile
import Signoff.Proofs.Buckets
import Signoff.Proofs.Resolution

namespace Signoff

/-! ## The first record with a name -/

namespace FindingRecord

/-- `r` is the first record with the name. -/
abbrev FirstFor (name : String) (r : FindingRecord) (rs : List FindingRecord) : Prop :=
  IsFirst (·.identifier == name) r rs

variable {name : String} {r : FindingRecord} {rs : List FindingRecord}

theorem FirstFor.name_eq (h : FirstFor name r rs) : r.identifier = name := by
  simpa using h.1

theorem exists_firstFor_iff : (∃ r, FirstFor name r rs) ↔ ∃ r ∈ rs, r.identifier = name := by
  simp [exists_isFirst_iff]

theorem firstFor_findings {f : Finding} :
    Finding.FirstFor name f (rs.map finding) ↔ ∃ r, FirstFor name r rs ∧ r.finding = f :=
  isFirst_map

theorem reported_findings :
    Finding.Reported name (rs.map finding) ↔ ∃ r ∈ rs, r.identifier = name := by
  simp [Finding.Reported, finding]

end FindingRecord

namespace FlaggedEvidence

open FindingRecord (FirstFor)

variable {name : String} {r : FindingRecord} {rs : List FindingRecord}

def ofRecords (rs : List FindingRecord) : FlaggedEvidence :=
  ⟨.scoped (rs.map FindingRecord.finding), EvidenceFile.flagsOf rs⟩

theorem lookup_flagsOf :
    (EvidenceFile.flagsOf rs).lookup name =
      (rs.find? (·.identifier == name)).map FindingRecord.correct := by
  induction rs with
  | nil => rfl
  | cons r rs ih =>
      show ((r.identifier, r.correct) :: EvidenceFile.flagsOf rs).lookup name = _
      rw [lookup_cons_eq_ite, List.find?_cons]
      by_cases h : name = r.identifier
      · rw [if_pos h, h, beq_self_eq_true]
        rfl
      · rw [if_neg h, beq_eq_false_iff_ne.mpr (Ne.symm h), ih]

/-- The flag of a name is that of the first record with it. -/
theorem isCorrect_of_firstFor (h : FirstFor name r rs) :
    (ofRecords rs).isCorrect name = r.correct := by
  show ((EvidenceFile.flagsOf rs).lookup name).getD false = r.correct
  rw [lookup_flagsOf, find?_eq_some_iff_isFirst.mpr h]
  rfl

end FlaggedEvidence

/-! ## Reading a file -/

theorem toList_append_of {s t : String} {cs ds : List Char} (hs : s.toList = cs)
    (ht : t.toList = ds) : (s ++ t).toList = cs ++ ds := by
  rw [String.toList_append, hs, ht]

namespace EvidenceFile

variable {text : String} {type : CheckType} {file : EvidenceFile} {e : FlaggedEvidence}

theorem parse_eq_ok_iff :
    parse text type = .ok e ↔
      ∃ file, ofText text = .ok file ∧ file.checkSchema = .ok () ∧ file.evidence type = .ok e := by
  rw [parse, bind_eq_ok_iff]
  refine exists_congr fun file => and_congr_right fun _ => ?_
  rw [bind_eq_ok_iff]
  exact ⟨fun ⟨_, hschema, he⟩ => ⟨hschema, he⟩, fun ⟨hschema, he⟩ => ⟨(), hschema, he⟩⟩

theorem evidence_of_usesPatterns (hp : type.usesPatterns = true)
    (h : file.evidence type = .ok e) : e = .ofRecords (file.findings.getD []) := by
  rw [evidence, if_pos hp] at h
  split at h
  · cases h
  · exact (Except.ok.inj h).symm

theorem ofText_of_chars {cs : List Char} {tree : Json.Tree} (hchars : text.toList = cs)
    (hblank : cs.all Text.isBlank = false)
    (htree : (Json.Token.ofChars cs).bind Json.Tree.ofTokens = some tree)
    (hfile : ofTree? tree = some file) : ofText text = .ok file := by
  rw [ofText, Text.isBlankText, hchars, hblank, Json.Tree.ofText?, hchars, htree, Option.bind_some,
    hfile]
  rfl

end EvidenceFile

end Signoff

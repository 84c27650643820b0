/-
# `Signoff` — waiver-aware evaluation of sign-off checks

A check is configured by a file, fed with evidence that parsers extracted from tool logs, and ends
with PASS or FAIL; waivers excuse what is known and accepted.
-/
import Signoff.CheckModel
import Signoff.CheckType
import Signoff.Classification
import Signoff.Command.Request
import Signoff.Command.Tool
import Signoff.Command.Upkeep
import Signoff.Command.Usage
import Signoff.Config.Codec
import Signoff.Config.Resolution
import Signoff.Conformance
import Signoff.Disk
import Signoff.Evaluation
import Signoff.EvidenceFile
import Signoff.Failure
import Signoff.Finding
import Signoff.Fingerprint
import Signoff.Glob.Engine
import Signoff.Glob.Matching
import Signoff.Glob.Pattern
import Signoff.Golden
import Signoff.Json.Double
import Signoff.Json.Printer
import Signoff.Json.Reader
import Signoff.Json.Token
import Signoff.Json.Value
import Signoff.Main
import Signoff.Matcher
import Signoff.Proofs.Advisory
import Signoff.Proofs.Buckets
import Signoff.Proofs.BuilderRuns
import Signoff.Proofs.CanonicalNames
import Signoff.Proofs.ConfigFaults
import Signoff.Proofs.CountTexts
import Signoff.Proofs.Drafting
import Signoff.Proofs.EvaluationFaults
import Signoff.Proofs.EvidenceRecords
import Signoff.Proofs.Examinations
import Signoff.Proofs.FileTexts
import Signoff.Proofs.Fingerprints
import Signoff.Proofs.FirstMatch
import Signoff.Proofs.Golden
import Signoff.Proofs.Guarantees
import Signoff.Proofs.Headings
import Signoff.Proofs.Json.Members
import Signoff.Proofs.Json.Paths
import Signoff.Proofs.Json.Trees
import Signoff.Proofs.Json.Words
import Signoff.Proofs.Layout
import Signoff.Proofs.Leftovers
import Signoff.Proofs.LogLines
import Signoff.Proofs.Matchers
import Signoff.Proofs.MoreEvidence
import Signoff.Proofs.NamesAlone
import Signoff.Proofs.PathSpellings
import Signoff.Proofs.PatternBuckets
import Signoff.Proofs.Provenance
import Signoff.Proofs.Resolution
import Signoff.Proofs.Running
import Signoff.Proofs.SavedReport
import Signoff.Proofs.SourcePaths
import Signoff.Proofs.StaleWaivers
import Signoff.Proofs.StatusMode
import Signoff.Proofs.Structure
import Signoff.Proofs.Summary
import Signoff.Proofs.Text.Blank
import Signoff.Proofs.Timestamp
import Signoff.Proofs.VerdictLaw
import Signoff.Proofs.ViewHierarchy
import Signoff.Proofs.WaiverLists
import Signoff.Proofs.Waivers
import Signoff.Proofs.WrittenConfig
import Signoff.Report
import Signoff.Report.Codec
import Signoff.Result
import Signoff.Run
import Signoff.Severity
import Signoff.Text.Basic
import Signoff.Text.LowerCase
import Signoff.Text.Quoted
import Signoff.Timestamp
import Signoff.Toml.Quoted
import Signoff.Toml.Reader
import Signoff.Toml.Scalar
import Signoff.Toml.Table
import Signoff.Verdict

/-
# `Signoff.Classification` — findings sorted into buckets

A pattern check sorts findings by the declared patterns: found, missing and extra.  A boolean check
takes over the split of the parser.  In both, only the first finding with an identifier counts.
-/
import Signoff.CheckModel
import Signoff.Finding

namespace Signoff

/-- How a pattern check judges the patterns it finds. -/
inductive Scoping where
  /-- A pattern is satisfied when there is a finding for it. -/
  | existence
  /-- A pattern that has a finding is satisfied when the finding is correct; a pattern without one
  is left out. -/
  | status (correct : Finding → Bool)

/-- The buckets of a pattern check. -/
structure PatternPartition where
  found : List Finding := []
  missing : List Finding := []
  /-- Findings that no pattern asks for. -/
  extra : List Finding := []
  deriving DecidableEq, Repr

structure BooleanPartition where
  violations : List Finding := []
  passes : List Finding := []
  deriving DecidableEq, Repr

/-- Findings sorted into the buckets of the type. -/
inductive Classification where
  | pattern (p : PatternPartition)
  | boolean (b : BooleanPartition)
  deriving DecidableEq, Repr

namespace Classification

/-- What makes the check fail: missing patterns, or the parser's violations. -/
def violations : Classification → List Finding
  | pattern p => p.missing
  | boolean b => b.violations

/-- What speaks for the check: found patterns, or the parser's passes. -/
def satisfied : Classification → List Finding
  | pattern p => p.found
  | boolean b => b.passes

/-- What lies outside the declared scope. -/
def extra : Classification → List Finding
  | pattern p => p.extra
  | boolean _ => []

end Classification

/-- The first finding for a pattern. -/
def Finding.forPattern? (fs : List Finding) (pattern : String) : Option Finding :=
  fs.find? (·.identifier == pattern)

namespace PatternPartition

/-- The finding that satisfies a pattern. -/
def foundFor? (s : Scoping) (fs : List Finding) (pattern : String) : Option Finding :=
  match s, Finding.forPattern? fs pattern with
  | .existence, some f => some f
  | .status correct, some f => if correct f then some f else none
  | _, none => none

/-- What is reported as missing for a pattern.  A pattern without a finding is reported by its
name alone. -/
def missingFor? (s : Scoping) (fs : List Finding) (pattern : String) : Option Finding :=
  match s, Finding.forPattern? fs pattern with
  | .existence, some _ => none
  | .existence, none => some { identifier := pattern }
  | .status correct, some f => if correct f then none else some f
  | .status _, none => none

/-- The findings sorted by the patterns.  `found` and `missing` follow the patterns, `extra` follows
the findings. -/
def classify (s : Scoping) (findings : List Finding) (patterns : List String) :
    PatternPartition where
  found := (distinct patterns).filterMap (foundFor? s findings)
  missing := (distinct patterns).filterMap (missingFor? s findings)
  extra := (Finding.firsts findings).filter fun f => !patterns.contains f.identifier

end PatternPartition

/-- The parser's split.  An identifier that is reported both ways is a violation. -/
def BooleanPartition.classify (violations passes : List Finding) : BooleanPartition where
  violations := Finding.firsts violations
  passes := (Finding.firsts passes).filter fun f => !Finding.occurs f.identifier violations

/-- The evidence sorted into the buckets of the type, if it has the shape the type asks for. -/
def Classification.classify (type : CheckType) (s : Scoping) (patterns : List String)
    (evidence : Evidence) : Except ConfigError Classification :=
  match type.usesPatterns, evidence with
  | true, .scoped findings => .ok (.pattern (.classify s findings patterns))
  | false, .split violations passes => .ok (.boolean (.classify violations passes))
  | true, .split _ _ => .error (.evidenceMismatch type "scoped")
  | false, .scoped _ => .error (.evidenceMismatch type "split")

end Signoff

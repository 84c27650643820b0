/-
# `Signoff.Run` — running a check

A run takes the text of a configuration and the text of an evidence file to a report.  Problems with
either are failures, never a FAIL.  Globs are compiled twice, when the configuration is loaded and
when it is evaluated, and an engine that refuses one stops the program (`runOn`).
-/
import Signoff.Config.Resolution
import Signoff.EvidenceFile
import Signoff.Report

namespace Signoff.Run

/-- When a run started and ended, and which version of the tool made it. -/
structure Stamp where
  version : String
  startedAt : Timestamp
  finishedAt : Timestamp

/-- A configuration error as a failure of a step. -/
def inStep (step : String) (x : Call σ ConfigError α) : Call σ Failure α :=
  x.mapError fun e => ⟨[step], .config e⟩

/-- How the patterns that are found are judged. -/
def scoping (mode : Config.ScopingMode) (e : FlaggedEvidence) : Scoping :=
  match mode with
  | .existence => .existence
  | .status => .status fun f => e.isCorrect f.identifier

def report (stamp : Stamp) (c : Config.Resolved) (e : Evaluation) : Report where
  schema := Report.schemaName
  tool := ⟨toolName, stamp.version⟩
  startedAt := stamp.startedAt
  finishedAt := stamp.finishedAt
  check := ⟨c.checker.id, c.checker.description, e.type⟩
  result := e.result
  summary := e.counts
  warnings := c.warnings

/-- The evaluation of a resolved configuration. -/
def evaluateOn (engine : Glob.Engine σ) (c : Config.Resolved) (e : FlaggedEvidence) :
    Call σ Failure Evaluation := do
  let matcher ← inStep "build waiver matcher" <|
    c.checker.matchKind.buildOn engine c.model.waivers.named
  inStep "evaluate check" <| c.model.evaluate e.evidence
    { checkId := c.checker.id
      descriptions := some c.checker.descriptions
      scoping := scoping c.checker.mode e
      matcher := matcher }

/-- The evaluation, where the engine takes every pattern. -/
def evaluate (c : Config.Resolved) (e : FlaggedEvidence) : Except Failure Evaluation :=
  (evaluateOn .tireless c e).result

/-- The report of the check. -/
def runOn (engine : Glob.Engine σ) (stamp : Stamp) (config evidence : String) :
    Call σ Failure Report := do
  let c ← inStep "load check configuration" (Config.loadOn engine config)
  let e ← (EvidenceFile.parse evidence c.type).mapError (Failure.within "read evidence")
  return report stamp c (← evaluateOn engine c e)

/-- The report of the check, where the engine takes every pattern. -/
def run (stamp : Stamp) (config evidence : String) : Except Failure Report :=
  (runOn .tireless stamp config evidence).result

end Signoff.Run

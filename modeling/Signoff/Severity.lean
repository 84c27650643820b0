/-
# `Signoff.Severity` — severities and the overall status

The output is laid out in the fixed order ERROR, WARN, INFO.  The overall status is PASS or FAIL; a
PASS that was reached through waivers is shown by a label of its own.
-/

namespace Signoff

/-- Severity of an output group and of every item in it. -/
inductive Severity where
  | error
  | warn
  | info
  deriving DecidableEq, Repr

namespace Severity

/-- All severities, in the order of the output. -/
def all : List Severity := [error, warn, info]

/-- What the labels of the groups of this severity start with. -/
def tag : Severity → String
  | error => "ERROR"
  | warn => "WARN"
  | info => "INFO"

def title : Severity → String
  | error => "Error"
  | warn => "Warn"
  | info => "Info"

def word : Severity → String
  | error => "error"
  | warn => "warn"
  | info => "info"

def ofWord? : String → Option Severity
  | "error" => some error
  | "warn" => some warn
  | "info" => some info
  | _ => none

@[simp] theorem ofWord?_word (s : Severity) : ofWord? s.word = some s := by
  cases s <;> rfl

end Severity

/-- The outcome of a check. -/
inductive Status where
  | pass
  | fail
  deriving DecidableEq, Repr

namespace Status

def word : Status → String
  | pass => "PASS"
  | fail => "FAIL"

def ofWord? : String → Option Status
  | "PASS" => some pass
  | "FAIL" => some fail
  | _ => none

@[simp] theorem ofWord?_word (s : Status) : ofWord? s.word = some s := by
  cases s <;> rfl

def title : Status → String
  | pass => "Pass"
  | fail => "Fail"

/-- The label shown to readers; a PASS reached through waivers says so. -/
def label : Status → (waived : Bool) → String
  | fail, _ => "FAIL"
  | pass, true => "PASS(Waive)"
  | pass, false => "PASS"

/-- The exit code of a command that ended with this status. -/
def exitCode : Status → Nat
  | pass => 0
  | fail => 2

end Status

end Signoff

/-
# `Signoff.CheckModel` — what a check requires and what it waives

The evaluation reads a check as a list of required patterns and a list of waive entries, each with a
declared count.  The count of the waive entries selects the waiver mode; the other counts are
declarations that are only compared with the lists (`CheckModel.validate`).  Configuration errors
abort a check before anything is classified; they are never a FAIL.
-/
import Signoff.CheckType

namespace Signoff

/-! ## Errors -/

/-- Why a check cannot be evaluated. -/
inductive ConfigError where
  /-- A forced pass has to be justified by a comment. -/
  | forcedPassWithoutComments
  /-- A declared count is no count. -/
  | invalidCount (field value : String)
  /-- An option has a value that it cannot take. -/
  | unknownOption (field value expected : String)
  /-- A waiver name is no glob pattern. -/
  | invalidWaiverPattern (pattern reason : String)
  /-- The evidence does not have the shape that the type asks for. -/
  | evidenceMismatch (type : CheckType) (expected : String)
  /-- The configuration file is malformed. -/
  | unparseable
  /-- Something that cannot be left out was left out. -/
  | missingInput (what : String)
  deriving DecidableEq, Repr

namespace ConfigError

def message : ConfigError → String
  | forcedPassWithoutComments =>
    "waivers.value = 0 (forced pass) requires at least one waive_items comment"
  | invalidCount field value =>
    "invalid " ++ field ++ ": " ++ value ++ " (expected a non-negative integer or \"N/A\")"
  | unknownOption field value expected =>
    "unknown " ++ field ++ ": " ++ value ++ " (expected " ++ expected ++ ")"
  | invalidWaiverPattern pattern reason =>
    "invalid waiver pattern " ++ pattern ++ ": " ++ reason
  | evidenceMismatch type expected => type.display ++ " expects " ++ expected ++ " evidence"
  | unparseable => "unparseable configuration"
  | missingInput what => "required input missing: " ++ what

end ConfigError

/-! ## Models -/

/-- The patterns a check requires. -/
structure Requirements where
  /-- The declared count; `none` is "N/A". -/
  value : Option UInt32 := none
  patterns : List String := []
  deriving DecidableEq, Repr

/-- Does the check search for patterns?  The declared count has no say. -/
def Requirements.searchesPatterns (r : Requirements) : Bool := !r.patterns.isEmpty

/-- A waiver: what it covers and why. -/
structure NamedWaiver where
  name : String
  reason : String := ""
  deriving DecidableEq, Repr

/-- One entry of the waive list, tagged when the configuration is loaded. -/
inductive WaiveEntry where
  /-- A note that justifies a forced pass; it is never matched. -/
  | comment (text : String)
  /-- A waiver that violations are matched against. -/
  | named (w : NamedWaiver)
  deriving DecidableEq, Repr

namespace WaiveEntry

def commentText : WaiveEntry → String
  | comment text => text
  | named w => if w.reason.isEmpty then w.name else w.name ++ ": " ++ w.reason

def waiver : WaiveEntry → NamedWaiver
  | comment text => ⟨text, ""⟩
  | named w => w

end WaiveEntry

/-- What the declared waiver count asks for. -/
inductive WaiverMode where
  /-- No count: violations are violations. -/
  | disabled
  /-- Count 0: every violation is reported as information. -/
  | forcedPass
  /-- A positive count: violations are matched against the waivers. -/
  | selective
  deriving DecidableEq, Repr

structure WaiverPolicy where
  /-- The declared count; `none` is "N/A". -/
  value : Option UInt32 := none
  entries : List WaiveEntry := []
  deriving DecidableEq, Repr

namespace WaiverPolicy

def disabled : WaiverPolicy := {}

/-- A forced pass that is justified by the comments. -/
def forcedPass (comments : List String) : WaiverPolicy := ⟨some 0, comments.map .comment⟩

/-- Waivers declared with their own count.  An empty list declares 1, since 0 would force a pass. -/
def selective (waivers : List NamedWaiver) : WaiverPolicy :=
  ⟨some (UInt32.ofNat (max waivers.length 1)), waivers.map .named⟩

/-- The mode that the declared count selects. -/
def mode (w : WaiverPolicy) : WaiverMode :=
  match w.value with
  | none => .disabled
  | some v => if v = 0 then .forcedPass else .selective

theorem mode_eq_forcedPass_iff {w : WaiverPolicy} : w.mode = .forcedPass ↔ w.value = some 0 := by
  cases h : w.value <;> simp [mode, h]

theorem mode_eq_selective_iff {w : WaiverPolicy} :
    w.mode = .selective ↔ ∃ v, w.value = some v ∧ 0 < v := by
  cases h : w.value <;> simp [mode, h, UInt32.pos_iff_ne_zero]

/-- The comments that justify a forced pass. -/
def comments (w : WaiverPolicy) : List String := w.entries.map WaiveEntry.commentText

/-- The waivers that violations are matched against in selective mode. -/
def named (w : WaiverPolicy) : List NamedWaiver := w.entries.map WaiveEntry.waiver

end WaiverPolicy

/-- A check as the evaluation reads it. -/
structure CheckModel where
  description : String := ""
  requirements : Requirements := {}
  waivers : WaiverPolicy := {}
  deriving DecidableEq, Repr

/-! ## Declared counts -/

/-- What is wrong with the declared count of patterns. -/
def Requirements.countWarnings (r : Requirements) : List String :=
  let count := r.patterns.length
  if 0 < count then
    match r.value with
    | some v =>
      if v.toNat = count then []
      else ["requirements.value = " ++ Text.decimal v.toNat ++ " but " ++ Text.decimal count ++
        " pattern_items are declared"]
    | none =>
      ["requirements.value is N/A but " ++ Text.decimal count ++ " pattern_items are declared"]
  else
    match r.value with
    | some v =>
      if v = 0 then []
      else ["requirements.value = " ++ Text.decimal v.toNat ++
        " but no pattern_items are declared"]
    | none => []

def WaiverPolicy.countWarnings (w : WaiverPolicy) : List String :=
  let count := w.entries.length
  match w.mode with
  | .selective =>
    let declared := (w.value.getD 0).toNat
    if declared = count then []
    else ["waivers.value = " ++ Text.decimal declared ++ " but " ++ Text.decimal count ++
      " waive_items are declared"]
  | .disabled =>
    if count = 0 then []
    else [Text.decimal count ++ " waive_items ignored because waivers.value is N/A"]
  | .forcedPass => []

/-- A forced pass without a comment is an error; counts that do not agree are warnings. -/
def CheckModel.validate (m : CheckModel) : Except ConfigError (List String) :=
  if m.waivers.mode = .forcedPass ∧ m.waivers.entries = [] then
    .error .forcedPassWithoutComments
  else
    .ok (m.requirements.countWarnings ++ m.waivers.countWarnings)

theorem CheckModel.validate_eq_ok_iff {m : CheckModel} {ws : List String} :
    m.validate = .ok ws ↔ (m.waivers.mode = .forcedPass → m.waivers.entries ≠ []) ∧
      m.requirements.countWarnings ++ m.waivers.countWarnings = ws := by
  by_cases h : m.waivers.mode = .forcedPass ∧ m.waivers.entries = []
  · simp [validate, h]
  · simp only [validate, h, if_false, Except.ok.injEq]
    simp only [not_and] at h
    exact ⟨fun hw => ⟨h, hw⟩, fun hw => hw.2⟩

theorem CheckModel.validate_eq_error_iff {m : CheckModel} {err : ConfigError} :
    m.validate = .error err ↔ (m.waivers.mode = .forcedPass ∧ m.waivers.entries = []) ∧
      .forcedPassWithoutComments = err := by
  by_cases h : m.waivers.mode = .forcedPass ∧ m.waivers.entries = []
  · simp [validate, h]
  · simp only [validate, h, if_false, reduceCtorEq, false_and]

/-- The evaluation type.  Declared patterns make it a pattern search, and only a positive waiver
count is waiver support. -/
def CheckModel.type (m : CheckModel) : CheckType :=
  match m.requirements.searchesPatterns, m.waivers.mode with
  | false, .selective => .booleanWaiver
  | false, _ => .boolean
  | true, .selective => .patternWaiver
  | true, _ => .patternSearch

theorem CheckModel.usesPatterns_type (m : CheckModel) :
    m.type.usesPatterns = m.requirements.searchesPatterns := by
  rw [type]
  cases m.requirements.searchesPatterns <;> cases m.waivers.mode <;> rfl

theorem CheckModel.usesSelectiveWaivers_type (m : CheckModel) :
    m.type.usesSelectiveWaivers = true ↔ m.waivers.mode = .selective := by
  rw [type]
  cases m.requirements.searchesPatterns <;> cases m.waivers.mode <;> decide

end Signoff

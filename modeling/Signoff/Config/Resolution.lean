/-
# `Signoff.Config.Resolution` — what a configuration comes to

Resolution turns the document of the author into the model of the check and the declaration of its
checker.  Faults are looked for in one fixed order and the first is reported; mismatches that the
check can live with become warnings.  Waivers that are globs are compiled to see that they are some;
there an engine may stop the program (`Document.resolveOn`, `loadOn`).
-/
import Signoff.Config.Codec
import Signoff.Evaluation

namespace Signoff.Config

/-- How a checker judges the patterns it finds. -/
inductive ScopingMode where
  | existence
  /-- Found patterns are judged by the flag of the finding. -/
  | status
  deriving DecidableEq, Repr

def ScopingMode.name : ScopingMode → String
  | existence => "existence"
  | status => "status"

/-- What a configuration declares beside the model. -/
structure CheckerDecl where
  id : String
  description : String
  mode : ScopingMode
  matchKind : MatchKind
  descriptions : Descriptions
  deriving DecidableEq, Repr

/-- A configuration that can be evaluated. -/
structure Resolved where
  checker : CheckerDecl
  model : CheckModel
  type : CheckType
  warnings : List String
  deriving DecidableEq, Repr

/-! ## Counts -/

/-- Is the text a spelling of "not applicable"? -/
def isAbsent (t : List Char) : Bool :=
  let low := t.map Char.toLower
  low == [] || low == ['n', '/', 'a'] || low == ['n', 'a']

/-- The number that the text spells: digits, with an optional plus before them. -/
def natural? (t : List Char) : Option Nat :=
  let ds := match t with
    | '+' :: ds => ds
    | ds => ds
  if ds ≠ [] ∧ ds.all Char.isDigit then some (Json.Numeral.digitsValue ds) else none

/-- The 32-bit count, if it is one. -/
def count? (n : Nat) : Option UInt32 :=
  if n < UInt32.size then some (UInt32.ofNat n) else none

/-- The count that a setting declares; `none` is "N/A".  Blanks around a text do not matter, but are
reported. -/
def parseCount (field : String) : Option CountValue → Except ConfigError (Option UInt32)
  | none => .ok none
  | some (.number n) =>
    match if n.toInt < 0 then none else count? n.toInt.toNat with
    | some v => .ok (some v)
    | none => .error (.invalidCount field (Text.decimalInt n.toInt))
  | some (.text s) =>
    let t := Text.trimChars s.toList
    if isAbsent t then .ok none
    else
      match (natural? t).bind count? with
      | some v => .ok (some v)
      | none => .error (.invalidCount field s)

/-! ## Lists -/

/-- One warning for every pattern that was given before. -/
def duplicateWarnings (seen : List String) : List String → List String
  | [] => []
  | p :: ps =>
    if seen.contains p then
      ("duplicate pattern_items entry ignored: " ++ p) :: duplicateWarnings seen ps
    else duplicateWarnings (p :: seen) ps

/-- The item as a line of comment. -/
def WaiveItem.commentText : WaiveItem → String
  | .text s => s
  | .entry name reason => if reason.isEmpty then name else name ++ ": " ++ reason

def WaiveItem.waiver : WaiveItem → NamedWaiver
  | .text s => ⟨s, ""⟩
  | .entry name reason => ⟨name, reason⟩

/-- The item, tagged by the declared count: comments justify a forced pass, and everything else is a
waiver. -/
def WaiveItem.tag (value : Option UInt32) (item : WaiveItem) : WaiveEntry :=
  if value = some 0 then .comment item.commentText else .named item.waiver

/-! ## Options -/

/-- The schema, if it is given, has to be the known one. -/
def checkSchema : Option String → Except ConfigError Unit
  | none => .ok ()
  | some s => if s = schemaName then .ok () else .error (.unknownOption "schema" s schemaName)

/-- The identifier of the checker, without surrounding blanks. -/
def checkerId (id : Option String) : Except ConfigError String :=
  match id.map Text.trim with
  | none => .error (.missingInput "checker.id")
  | some t => if t.isEmpty then .error (.missingInput "checker.id") else .ok t

def scopingMode : Option String → Except ConfigError ScopingMode
  | none => .ok .existence
  | some "existence" => .ok .existence
  | some "status" => .ok .status
  | some other => .error (.unknownOption "checker.mode" other "existence|status")

def separator : Option String → Except ConfigError Char
  | none => .ok '/'
  | some s =>
    match s.toList with
    | [c] => .ok c
    | _ => .error (.unknownOption "checker.view_separator" s "a single character")

def matchKind (separator : Char) : Option String → Except ConfigError MatchKind
  | none => .ok .exact
  | some name =>
    match MatchKind.ofName? separator name with
    | some k => .ok k
    | none => .error (.unknownOption "checker.waiver_match" name MatchKind.names)

/-- What is said of options that the type has no use for. -/
def ignoredWarnings (c : Checker) (type : CheckType) : List String :=
  (if c.mode.isSome && !type.usesPatterns then
    ["checker.mode is ignored by " ++ type.display ++ " (no pattern_items)"] else []) ++
  (if c.waiverMatch.isSome && !type.usesSelectiveWaivers then
    ["checker.waiver_match is ignored by " ++ type.display ++ " (waivers.value is not > 0)"]
   else [])

/-- Bad patterns are reported before any evidence is read, if there is something to match. -/
def checkMatcher (engine : Glob.Engine σ) (k : MatchKind) (w : WaiverPolicy) :
    Call σ ConfigError Unit :=
  match w.mode with
  | .selective => do let _ ← k.buildOn engine w.named
  | .disabled | .forcedPass => return ()

/-! ## The whole -/

def Document.model (d : Document) (required waived : Option UInt32) : CheckModel where
  description := d.checker.description.getD ""
  requirements := ⟨required, distinct d.requirements.patternItems⟩
  waivers := ⟨waived, d.waivers.waiveItems.map (WaiveItem.tag waived)⟩

/-- What the configuration comes to, its matcher aside. -/
def Document.settle (d : Document) : Except ConfigError Resolved := do
  checkSchema d.schema
  let id ← checkerId d.checker.id
  let required ← parseCount "requirements.value" d.requirements.value
  let waived ← parseCount "waivers.value" d.waivers.value
  let model := d.model required waived
  let validation ← model.validate
  let mode ← scopingMode d.checker.mode
  let sep ← separator d.checker.viewSeparator
  let kind ← matchKind sep d.checker.waiverMatch
  return {
    checker :=
      { id := id
        description := model.description
        mode := mode
        matchKind := kind
        descriptions := (Descriptions.usual model.type).override d.checker.descriptions }
    model := model
    type := model.type
    warnings := duplicateWarnings [] d.requirements.patternItems ++
      ignoredWarnings d.checker model.type ++ validation }

/-- What the configuration comes to.  Its matcher is built to see that this can be done. -/
def Document.resolveOn (engine : Glob.Engine σ) (d : Document) : Call σ ConfigError Resolved := do
  let c ← d.settle
  checkMatcher engine c.checker.matchKind c.model.waivers
  return c

/-- What the configuration comes to, where the engine takes every pattern. -/
def Document.resolve (d : Document) : Except ConfigError Resolved := (d.resolveOn .tireless).result

/-- The configuration in a file, resolved. -/
def loadOn (engine : Glob.Engine σ) (text : String) : Call σ ConfigError Resolved := do
  (← Document.ofText text).resolveOn engine

/-- The configuration in a file, where the engine takes every pattern. -/
def load (text : String) : Except ConfigError Resolved := (loadOn .tireless text).result

end Signoff.Config

/-
# `Signoff.CheckType` — the four evaluation types and their wording

Two questions decide how a check is evaluated: does it search for declared patterns, and does it
support waivers?  The four answers are numbered 1 to 4.

Every group of a result has a description, and every item in it a reason.  Pattern checks speak of
required items, boolean checks of violations; a configuration can replace each text.
-/
import Signoff.Text.Basic

namespace Signoff

/-- How a check is evaluated. -/
inductive CheckType where
  /-- Type 1: the parser decides what is a violation; no waivers. -/
  | boolean
  /-- Type 2: declared patterns are searched for; no waivers. -/
  | patternSearch
  /-- Type 3: declared patterns are searched for; selective waivers. -/
  | patternWaiver
  /-- Type 4: the parser decides what is a violation; selective waivers. -/
  | booleanWaiver
  deriving DecidableEq, Repr

namespace CheckType

def all : List CheckType := [boolean, patternSearch, patternWaiver, booleanWaiver]

/-- The number a type is stored and shown by. -/
def number : CheckType → Nat
  | boolean => 1
  | patternSearch => 2
  | patternWaiver => 3
  | booleanWaiver => 4

/-- The type with the given number. -/
def ofNumber? : Nat → Option CheckType
  | 1 => some boolean
  | 2 => some patternSearch
  | 3 => some patternWaiver
  | 4 => some booleanWaiver
  | _ => none

@[simp] theorem ofNumber?_number (t : CheckType) : ofNumber? t.number = some t := by
  cases t <;> rfl

def unknownMessage (n : Nat) : String :=
  "unknown check type: " ++ Text.decimal n ++ " (expected 1..=4)"

/-- The name used in messages. -/
def display (t : CheckType) : String := "Type " ++ Text.decimal t.number

/-- Is the evidence scoped against declared patterns? -/
def usesPatterns : CheckType → Bool
  | patternSearch | patternWaiver => true
  | boolean | booleanWaiver => false

/-- Are violations matched against named waivers? -/
def usesSelectiveWaivers : CheckType → Bool
  | patternWaiver | booleanWaiver => true
  | boolean | patternSearch => false

end CheckType

/-! ## Wording -/

/-- The texts that a result is worded with. -/
structure Descriptions where
  foundDesc : String
  foundReason : String
  missingDesc : String
  missingReason : String
  extraDesc : String
  extraReason : String
  waivedDesc : String
  waivedReason : String
  unusedDesc : String
  unusedReason : String
  waivedAsInfoDesc : String
  waiveCommentDesc : String
  waiveCommentReason : String
  deriving DecidableEq, Repr

/-- Texts that replace the usual ones. -/
structure DescriptionOverrides where
  foundDesc : Option String := none
  foundReason : Option String := none
  missingDesc : Option String := none
  missingReason : Option String := none
  extraDesc : Option String := none
  extraReason : Option String := none
  waivedDesc : Option String := none
  waivedReason : Option String := none
  unusedDesc : Option String := none
  unusedReason : Option String := none
  waivedAsInfoDesc : Option String := none
  waiveCommentDesc : Option String := none
  waiveCommentReason : Option String := none
  deriving DecidableEq, Repr

namespace Descriptions

def usual (type : CheckType) : Descriptions where
  foundDesc := if type.usesPatterns then "Required items found" else "Checks passed"
  foundReason := if type.usesPatterns then "Required item found" else "Check passed"
  missingDesc := if type.usesPatterns then "Required items missing" else "Violations found"
  missingReason := if type.usesPatterns then "Required item missing" else "Violation found"
  extraDesc := "Items outside the declared pattern scope"
  extraReason := "Item not in pattern_items"
  waivedDesc := "Violations waived"
  waivedReason := "Waived"
  unusedDesc := "Unused waiver entries"
  unusedReason := "Waiver not matched by any violation"
  waivedAsInfoDesc := "Violations reported as information (forced pass)"
  waiveCommentDesc := "Waiver comments"
  waiveCommentReason := "Waiver comment"

def override (d : Descriptions) (o : DescriptionOverrides) : Descriptions where
  foundDesc := o.foundDesc.getD d.foundDesc
  foundReason := o.foundReason.getD d.foundReason
  missingDesc := o.missingDesc.getD d.missingDesc
  missingReason := o.missingReason.getD d.missingReason
  extraDesc := o.extraDesc.getD d.extraDesc
  extraReason := o.extraReason.getD d.extraReason
  waivedDesc := o.waivedDesc.getD d.waivedDesc
  waivedReason := o.waivedReason.getD d.waivedReason
  unusedDesc := o.unusedDesc.getD d.unusedDesc
  unusedReason := o.unusedReason.getD d.unusedReason
  waivedAsInfoDesc := o.waivedAsInfoDesc.getD d.waivedAsInfoDesc
  waiveCommentDesc := o.waiveCommentDesc.getD d.waiveCommentDesc
  waiveCommentReason := o.waiveCommentReason.getD d.waiveCommentReason

end Descriptions

end Signoff

/-
# `Signoff.Conformance` — what a report that was kept is examined for

A shape says which fields a document has and of which kind they are.  It can be held against a JSON
value, which gives the number of places where the value does not have the shape.  The schema that
reports are published under is such a shape (`reportShape`); how it is written as a file is left to
whoever publishes it.

What no schema can check is examined on the JSON value itself, so that reports of any origin can be
examined: every name that a group lists is backed by exactly one item with that name and that label,
and there is a group of errors exactly when the status is FAIL.  What has the wrong shape counts as
empty.
-/
import Signoff.Json.Printer
import Signoff.Json.Value
import Signoff.Severity

namespace Signoff.Conformance

/-! ## Shapes -/

open Signoff.Json (Value)

inductive Shape where
  | text
  | flag
  /-- A whole number that is not negative, perhaps with a bound. -/
  | count (bound : Option Nat)
  /-- One of some words. -/
  | word (words : List String)
  /-- A simple shape, or null. -/
  | orNull (s : Shape)
  | list (s : Shape)
  /-- An object; each field has a name and a shape, and may have to be there. -/
  | record (fields : List (String × Shape × Bool))

namespace Shape

/-! ## Faults -/

/-- Is the number whole?  A double is, if it has no fraction. -/
def isWhole : Json.Number → Bool
  | .integer _ => true
  | .double bits =>
    let f := Float.ofBits bits
    f == f.floor && f.isFinite

def isNegative : Json.Number → Bool
  | .integer n => n < 0
  | .double bits => Float.ofBits bits < 0

def isAbove (bound : Nat) : Json.Number → Bool
  | .integer n => (bound : Int) < n
  | .double bits => Float.ofNat bound < Float.ofBits bits

def faultIf (b : Bool) : Nat := if b then 1 else 0

/-- A number may fail to be a count in several ways at once. -/
def countFaults (bound : Option Nat) (n : Json.Number) : Nat :=
  faultIf (!isWhole n) + faultIf (isNegative n) + faultIf (bound.any fun b => isAbove b n)

mutual

/-- The number of places where the value does not have the shape. -/
def faults : Shape → Value → Nat
  | text, v => faultIf v.string?.isNone
  | flag, v => faultIf v.bool?.isNone
  | count bound, .number n => countFaults bound n
  | count _, _ => 1
  | word words, .string s => faultIf (!words.contains s)
  | word _, _ => 2
  | orNull _, .null => 0
  | orNull s, v => faults s v
  | list s, .array items => listFaults s items
  | list _, _ => 1
  | record fields, .object members => recordFaults fields members
  | record _, _ => 1

def listFaults (s : Shape) : List Value → Nat
  | [] => 0
  | v :: vs => faults s v + listFaults s vs

/-- A field that has to be there and is not is one fault. -/
def recordFaults : List (String × Shape × Bool) → List (String × Value) → Nat
  | [], _ => 0
  | (name, s, needed) :: fields, members =>
    (match members.lookup name with
     | some v => faults s v
     | none => faultIf needed) + recordFaults fields members

end

/-! ## Reports -/

def needed (name : String) (s : Shape) : String × Shape × Bool := (name, s, true)

def optional (name : String) (s : Shape) : String × Shape × Bool := (name, s, false)

end Shape

open Shape (needed optional)

/-- A 32-bit count; no bound is stated. -/
def anyCount : Shape := .count none

def severityShape : Shape := .word (Severity.all.map Severity.word)

def groupShape : Shape :=
  .record
    [needed "label" .text, needed "severity" severityShape, needed "description" .text,
     needed "items" (.list .text)]

def detailShape : Shape :=
  .record
    [needed "name" .text, needed "severity" severityShape, needed "group" .text,
     needed "reason" .text, optional "line_number" (.orNull anyCount),
     optional "source_path" (.orNull .text), optional "detail" (.orNull .text),
     optional "fingerprint" .text]

def summaryShape : Shape :=
  .record
    [needed "found" anyCount, needed "missing" anyCount, needed "violations" anyCount,
     needed "extra" anyCount, needed "waived" anyCount, needed "unwaived" anyCount,
     needed "unused_waivers" anyCount, needed "waive_comments" anyCount]

def reportShape : Shape :=
  .record
    [needed "schema" .text,
     needed "tool" (.record [needed "name" .text, needed "version" .text]),
     needed "started_at" .text, needed "finished_at" .text,
     needed "check"
       (.record
         [needed "id" .text, needed "description" .text, needed "check_type" (.count (some 255))]),
     needed "status" (.word [Status.pass.word, Status.fail.word]), needed "waived" .flag,
     needed "groups" (.list groupShape), needed "details" (.list detailShape),
     needed "summary" summaryShape, optional "config_warnings" (.list .text)]

/-! ## Structure -/

/-- A label and a name listed under it. -/
abbrev Entry := String × String

def itemsOf (key : String) (v : Value) : List Value := ((v.get? key).bind Value.items?).getD []

def textOf (key : String) (v : Value) : String := ((v.get? key).bind Value.string?).getD ""

def groupEntries (g : Value) : List Entry :=
  (itemsOf "items" g).map fun item => (textOf "label" g, item.string?.getD "")

def entries (v : Value) : List Entry := (itemsOf "groups" v).flatMap groupEntries

/-- The entries that the items are for. -/
def backed (v : Value) : List Entry :=
  (itemsOf "details" v).map fun d => (textOf "group" d, textOf "name" d)

/-- What is said of entries that occurred before. -/
def repeatErrors (seen : List Entry) : List Entry → List String
  | [] => []
  | e :: es =>
    if seen.contains e then (e.1 ++ " lists '" ++ e.2 ++ "' twice") :: repeatErrors seen es
    else repeatErrors (e :: seen) es

/-- What is said of items whose entry is not listed or has an item already. -/
def detailErrors (listed seen : List Entry) : List Entry → List String
  | [] => []
  | e :: es =>
    (if listed.contains e then []
     else ["detail '" ++ e.2 ++ "' is not listed in group " ++ e.1]) ++
    (if seen.contains e then
      ["detail '" ++ e.2 ++ "' appears twice in group " ++ e.1] ++ detailErrors listed seen es
     else detailErrors listed (e :: seen) es)

/-- Entries in order: by label, then by name. -/
def insertEntry (e : Entry) : List Entry → List Entry
  | [] => [e]
  | f :: fs =>
    if e = f then f :: fs
    else if e.1 < f.1 ∨ (e.1 = f.1 ∧ e.2 < f.2) then e :: f :: fs
    else f :: insertEntry e fs

def sortEntries (es : List Entry) : List Entry := es.foldl (fun acc e => insertEntry e acc) []

/-- What is said of entries without an item. -/
def missingErrors (listed backed : List Entry) : List String :=
  ((sortEntries listed).filter fun e => !backed.contains e).map fun e =>
    e.1 ++ " entry '" ++ e.2 ++ "' has no detail item"

def hasErrorGroup (v : Value) : Bool :=
  (itemsOf "groups" v).any fun g => g.get? "severity" == some (.string "error")

/-- What is said of a status that the groups speak against. -/
def statusErrors (v : Value) : List String :=
  if hasErrorGroup v == (v.get? "status" == some (.string "FAIL")) then []
  else
    ["status " ++ ((v.get? "status").getD .null).compact ++
      " does not agree with error groups present = " ++
      (if hasErrorGroup v then "true" else "false")]

/-- Everything that is wrong with the groups and items of a report. -/
def structuralErrors (v : Value) : List String :=
  repeatErrors [] (entries v) ++ detailErrors (entries v) [] (backed v) ++
    missingErrors (entries v) (backed v) ++ statusErrors v

end Signoff.Conformance

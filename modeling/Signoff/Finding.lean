/-
# `Signoff.Finding` — findings and evidence

A finding is one fact that an external parser extracted from a tool log, which is named by its path.
Parsers write paths in several spellings; `SourcePath.ofText` brings them to one: no surrounding
blanks, forward slashes only, no leading `./`, and `.` for the empty path.  Absolute paths stay as
they are, since tool logs often live outside the checklist tree.

Evidence is what the parser hands over: either everything it saw, to be scoped against declared
patterns, or a split into violations and passes that it decided itself.  Findings are told apart by
their identifier alone; where one is repeated, its first occurrence counts.
-/
import Signoff.Text.Basic

namespace Signoff

/-! ## Paths -/

/-- The path of the artifact a finding comes from. -/
structure SourcePath where
  text : String
  deriving DecidableEq, Repr

namespace SourcePath

def forwardSlash (c : Char) : Char := if c = '\\' then '/' else c

/-- The characters without any number of leading `./`. -/
def dropHere : List Char → List Char
  | '.' :: '/' :: cs => dropHere cs
  | cs => cs

/-- The characters of the one spelling that all spellings of a path share. -/
def normalChars (cs : List Char) : List Char :=
  match dropHere ((Text.trimChars cs).map forwardSlash) with
  | [] => ['.']
  | c :: cs => c :: cs

/-- The path written as `s`, in its one spelling. -/
def ofText (s : String) : SourcePath := ⟨String.ofList (normalChars s.toList)⟩

end SourcePath

/-! ## Findings -/

/-- One fact surfaced by an external parser. -/
structure Finding where
  /-- The name that patterns and waivers are compared with. -/
  identifier : String
  line : Option UInt32 := none
  path : Option SourcePath := none
  detail : String := ""
  deriving DecidableEq, Repr

/-- The elements whose key has not occurred before. -/
def firstBy (key : α → String) : List α → List α
  | [] => []
  | x :: xs => x :: (firstBy key xs).filter fun y => key y != key x

/-- The texts that have not occurred before. -/
def distinct (xs : List String) : List String := firstBy id xs

namespace Finding

/-- The findings whose identifier has not occurred before. -/
def firsts (fs : List Finding) : List Finding := firstBy identifier fs

def occurs (name : String) (fs : List Finding) : Bool := fs.any (·.identifier == name)

end Finding

/-- What a parser hands to the evaluation. -/
inductive Evidence where
  /-- Everything the parser saw, to be scoped against declared patterns. -/
  | scoped (findings : List Finding)
  /-- The parser's own split into violations and passes. -/
  | split (violations passes : List Finding)
  deriving DecidableEq, Repr

end Signoff

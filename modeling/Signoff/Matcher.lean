/-
# `Signoff.Matcher` — which waiver covers which violation

A matcher decides whether the name of a waiver covers the identifier of a violation.  A checker
declares one of five kinds by name.  Only globs look at the whole waiver list: before anything is
matched every name is read as a pattern, so that a bad one is reported at load time, and the pattern
is compiled, at which an engine may stop the program (`Matcher.GlobTable.compile`).
-/
import Signoff.CheckModel
import Signoff.Text.Basic
import Signoff.Text.LowerCase
import Signoff.Glob.Engine
import Signoff.Glob.Matching
import Signoff.Glob.Pattern

namespace Signoff

/-- Does the violation (first) lie under the waiver (second)? -/
abbrev Matcher := String → String → Bool

namespace Matcher

/-! ## Whole names -/

def exact : Matcher := fun violation waiver => violation == waiver

def caseInsensitive : Matcher := fun violation waiver =>
  Text.lowerCase violation == Text.lowerCase waiver

/-! ## Assignments -/

/-- An `=` stands apart from its neighbours. -/
def spaceOut (c : Char) : List Char := if c = '=' then [' ', '=', ' '] else [c]

/-- The word `to` is another spelling of `=`. -/
def equalsWord (w : List Char) : List Char := if w = ['t', 'o'] then ['='] else w

/-- The words of a name, in which `A = B`, `A=B` and `A to B` are the same. -/
def normalWords (cs : List Char) : List (List Char) :=
  (Text.words (cs.flatMap spaceOut)).map equalsWord

/-- The name with single blanks between its words. -/
def normalize (name : String) : String :=
  String.ofList (List.intercalate [' '] (normalWords name.toList))

/-- The names are equal once they are normalized. -/
def normalized : Matcher := fun violation waiver => normalize violation == normalize waiver

/-! ## Views -/

/-- What remains of the second text after the first, if it starts with it. -/
def remainder? : List Char → List Char → Option (List Char)
  | [], rest => some rest
  | _ :: _, [] => none
  | c :: cs, d :: ds => if c = d then remainder? cs ds else none

/-- The waiver names a view, and covers the view and everything below it. -/
def view (separator : Char) : Matcher := fun violation waiver =>
  violation == waiver ||
    match remainder? waiver.toList violation.toList with
    | some (c :: _) => c == separator
    | _ => false

def beginning : Matcher := fun violation waiver =>
  (remainder? waiver.toList violation.toList).isSome

/-! ## Globs -/

/-- The patterns that names were read as. -/
abbrev GlobTable := List (String × Glob.Pattern)

/-- Every name, read as a pattern and compiled, one after the other.  The first that is no pattern
is reported; the first that the engine refuses stops the program. -/
def GlobTable.compile (engine : Glob.Engine σ) : List String → Call σ ConfigError GlobTable
  | [] => return []
  | name :: names =>
    match Glob.Pattern.ofText name with
    | .error f => .error (.invalidWaiverPattern name (f.fullMessage name))
    | .ok p =>
      match engine p with
      | .error s => .stopped s
      | .ok () => return (name, p) :: (← compile engine names)

/-- The table, where the engine takes every pattern. -/
def GlobTable.ofNames (names : List String) : Except ConfigError GlobTable :=
  (compile .tireless names).result

theorem GlobTable.ofNames_nil : ofNames [] = .ok [] := rfl

theorem GlobTable.ofNames_cons {name : String} {names : List String} :
    ofNames (name :: names) =
      match Glob.Pattern.ofText name with
      | .error f => .error (.invalidWaiverPattern name (f.fullMessage name))
      | .ok p => (ofNames names).map ((name, p) :: ·) := by
  rw [ofNames, compile]
  cases Glob.Pattern.ofText name with
  | error f => rfl
  | ok p =>
      show (compile .tireless names >>= fun table => pure ((name, p) :: table)).result = _
      rw [Call.result_bind, ← ofNames]
      cases ofNames names <;> rfl

/-- The waiver is a pattern of the table that matches; a name outside the table covers itself. -/
def glob (table : GlobTable) : Matcher := fun violation waiver =>
  match table.lookup waiver with
  | some p => p.covers violation
  | none => violation == waiver

end Matcher

/-! ## Kinds -/

/-- The matchers that a checker can declare. -/
inductive MatchKind where
  | exact
  | caseInsensitive
  | normalized
  | view (separator : Char)
  | glob
  deriving DecidableEq, Repr

namespace MatchKind

/-- The names that can be declared. -/
def names : String := "exact|case_insensitive|normalized|view|glob"

/-- The name a kind is declared by. -/
def name : MatchKind → String
  | exact => "exact"
  | caseInsensitive => "case_insensitive"
  | normalized => "normalized"
  | view _ => "view"
  | glob => "glob"

/-- The kind with the name; a view takes the separator. -/
def ofName? (separator : Char) : String → Option MatchKind
  | "exact" => some exact
  | "case_insensitive" => some caseInsensitive
  | "normalized" => some normalized
  | "view" => some (view separator)
  | "glob" => some glob
  | _ => none

theorem ofName?_eq_none_iff {separator : Char} {s : String} :
    ofName? separator s = none ↔
      s ∉ ["exact", "case_insensitive", "normalized", "view", "glob"] := by
  unfold ofName?
  split <;> simp_all

theorem ofName?_eq_glob_iff {separator : Char} {s : String} :
    ofName? separator s = some glob ↔ s = "glob" := by
  unfold ofName?
  split <;> simp_all

def separator? : MatchKind → Option Char
  | view c => some c
  | _ => none

/-- The matcher of the kind, for a list of waivers. -/
def buildOn (engine : Glob.Engine σ) (k : MatchKind) (waivers : List NamedWaiver) :
    Call σ ConfigError Matcher :=
  match k with
  | exact => return Matcher.exact
  | caseInsensitive => return Matcher.caseInsensitive
  | normalized => return Matcher.normalized
  | view c => return Matcher.view c
  | glob => return Matcher.glob (← Matcher.GlobTable.compile engine (waivers.map NamedWaiver.name))

/-- The matcher, where the engine takes every pattern. -/
def build (k : MatchKind) (waivers : List NamedWaiver) : Except ConfigError Matcher :=
  (k.buildOn .tireless waivers).result

theorem build_glob (waivers : List NamedWaiver) :
    glob.build waivers =
      (Matcher.GlobTable.ofNames (waivers.map NamedWaiver.name)).map Matcher.glob := by
  rw [build, buildOn, Call.result_bind, ← Matcher.GlobTable.ofNames]
  cases Matcher.GlobTable.ofNames (waivers.map NamedWaiver.name) <;> rfl

end MatchKind

end Signoff

/-
# `Signoff.Glob.Pattern` — glob patterns and how they are read

A pattern is a list of pieces that are matched one after the other.  `*`, `?` and classes also match
`/`; what `/` adds is the three `**` forms, which stand for whole directories.

The reader passes over the text once, from left to right, and keeps the pieces of the branch it is
in, the branches and groups around it, and the last character it took.  Two characters that belong
together (an escape, a class) put it into a mode of its own.  The first fault met is the one
reported.
-/

namespace Signoff.Glob

/-! ## Patterns -/

inductive Piece where
  /-- The character itself. -/
  | literal (c : Char)
  /-- Any one byte: `?`. -/
  | any
  /-- Any bytes: `*`. -/
  | star
  /-- No directories or some: `**` before `/` at the start. -/
  | leading
  /-- Something below this directory: `**` after `/` at the end. -/
  | trailing
  /-- No directories or some in between: `**` between two `/`. -/
  | between
  /-- One byte out of a class, or out of its complement: `[…]`, `[!…]`. -/
  | oneByte (negated : Bool) (ranges : List (Char × Char))
  /-- One of several patterns: `{…,…}`. -/
  | oneOf (branches : List (List Piece))

abbrev Pattern := List Piece

/-- Why a text is no pattern. -/
inductive Fault where
  | unclosedClass
  | invalidRange (first last : Char)
  | unopenedGroup
  | unclosedGroup
  | danglingEscape
  deriving DecidableEq, Repr

namespace Fault

def message : Fault → String
  | unclosedClass => "unclosed character class; missing ']'"
  | invalidRange first last =>
    "invalid range; '" ++ String.ofList [first] ++ "' > '" ++ String.ofList [last] ++ "'"
  | unopenedGroup =>
    "unopened alternate group; missing '\x7b' (maybe escape '\x7d' with '[\x7d]'?)"
  | unclosedGroup =>
    "unclosed alternate group; missing '\x7d' (maybe escape '\x7b' with '[\x7b]'?)"
  | danglingEscape => "dangling '\\'"

/-- What is said of the fault, with the text that has it. -/
def fullMessage (text : String) (f : Fault) : String :=
  "error parsing glob '" ++ text ++ "': " ++ f.message

end Fault

/-! ## Reading -/

/-- A group that is still open: what came before it, and its finished branches. -/
structure OpenGroup where
  outside : List Piece
  branches : List (List Piece)

/-- A class that is still open. -/
structure OpenClass where
  negated : Bool
  /-- Nothing has been taken yet, so that `]` and `-` stand for themselves. -/
  fresh : Bool := true
  /-- A `-` was taken that may make a range of what precedes it. -/
  ranging : Bool := false
  /-- What the class holds, last entry first. -/
  ranges : List (Char × Char) := []

/-- What the character taken last has left open. -/
inductive Mode where
  | plain
  /-- A backslash: the next character stands for itself. -/
  | escape
  /-- One star, which may be the first of two. -/
  | star
  /-- Two stars, whose meaning hangs on what follows. -/
  | doubleStar
  /-- The bracket that opens a class, which may be negated. -/
  | classStart
  | inClass (c : OpenClass)

/-- What the reader knows of the text it has passed.  All lists have their last entry first. -/
structure Reader where
  mode : Mode := .plain
  /-- The last character taken, stars that are still open aside. -/
  last : Option Char := none
  /-- The pieces of the branch being read. -/
  pieces : List Piece := []
  groups : List OpenGroup := []

namespace OpenClass

/-- The class, once its `]` is met.  A `-` just before the end stands for itself. -/
def close (c : OpenClass) : Piece :=
  .oneByte c.negated (if c.ranging then ('-', '-') :: c.ranges else c.ranges).reverse

/-- A character that ends the range being read. -/
def endRange (c : OpenClass) (x : Char) : Except Fault OpenClass :=
  match c.ranges with
  | (first, _) :: rest =>
    if x < first then .error (.invalidRange first x)
    else .ok { c with ranging := false, fresh := false, ranges := (first, x) :: rest }
  | [] => .ok { c with ranging := false, fresh := false, ranges := [(x, x)] }

/-- A character that stands for itself. -/
def add (c : OpenClass) (x : Char) : OpenClass :=
  { c with ranging := false, fresh := false, ranges := (x, x) :: c.ranges }

/-- Any character of a class but the `]` that closes it. -/
def take (c : OpenClass) (x : Char) : Except Fault OpenClass :=
  if x = '-' then
    if c.fresh then .ok (c.add x)
    else if c.ranging then c.endRange x
    else .ok { c with ranging := true }
  else if c.ranging then c.endRange x
  else .ok (c.add x)

end OpenClass

namespace Reader

def push (r : Reader) (p : Piece) : Reader := { r with mode := .plain, pieces := p :: r.pieces }

def took (r : Reader) (c : Char) : Reader := { r with last := some c }

/-- Two stars that stand for no directories. -/
def pushStars (r : Reader) : Reader := (r.push .star).push .star

/-- Is a `**` after the last character a directory form?  It is after `/`, and in a group at the
start of a branch. -/
def directoriesMayFollow (r : Reader) : Bool :=
  r.last == some '/' || (!r.groups.isEmpty && (r.last == some ',' || r.last == some '\x7b'))

/-- A directory form takes the place of the piece before it, unless that is such a form itself. -/
def replaceLast (r : Reader) (p : Piece) : Reader :=
  match r.pieces with
  | .leading :: _ => { r with mode := .plain }
  | .trailing :: _ => { r with mode := .plain }
  | _ :: rest => { r with mode := .plain, pieces := p :: rest }
  | [] => r.push p

/-- A `**` whose next character is `next`.  The flag tells whether a `/` that follows belongs to
it. -/
def doubleStar (r : Reader) (next : Option Char) : Reader × Bool :=
  if r.pieces.isEmpty then
    match next with
    | none | some '/' => (r.push .leading, true)
    | some _ => (r.pushStars, false)
  else if !r.directoriesMayFollow then (r.pushStars, false)
  else
    match next with
    | none => (r.replaceLast .trailing, false)
    | some '/' => (r.replaceLast .between, true)
    | some c =>
      if (c = ',' ∨ c = '\x7d') ∧ !r.groups.isEmpty then (r.replaceLast .trailing, false)
      else (r.pushStars, false)

def openGroup (r : Reader) : Reader :=
  { r with pieces := [], groups := ⟨r.pieces, []⟩ :: r.groups }

/-- A comma separates branches in a group and stands for itself elsewhere. -/
def comma (r : Reader) : Reader :=
  match r.groups with
  | [] => r.push (.literal ',')
  | g :: gs =>
    { r with pieces := [], groups := { g with branches := r.pieces.reverse :: g.branches } :: gs }

def closeGroup (r : Reader) : Except Fault Reader :=
  match r.groups with
  | [] => .error .unopenedGroup
  | g :: gs =>
    .ok { r with
      pieces := .oneOf (r.pieces.reverse :: g.branches).reverse :: g.outside
      groups := gs }

/-- A character that nothing open waits for. -/
def takePlain (r : Reader) (c : Char) : Except Fault Reader :=
  if c = '*' then .ok { r with mode := .star }
  else if c = '?' then .ok ((r.push .any).took c)
  else if c = '[' then .ok { r with mode := .classStart, last := some c }
  else if c = '\x7b' then .ok (r.openGroup.took c)
  else if c = '\x7d' then r.closeGroup.map (·.took c)
  else if c = ',' then .ok (r.comma.took c)
  else if c = '\\' then .ok { r with mode := .escape, last := some c }
  else .ok ((r.push (.literal c)).took c)

/-- A character of a class.  A `]` closes it, unless it comes first. -/
def takeInClass (r : Reader) (k : OpenClass) (c : Char) : Except Fault Reader :=
  if c = ']' ∧ k.fresh = false then .ok ((r.push k.close).took c)
  else (k.take c).map fun k' => { r with mode := .inClass k', last := some c }

def take (r : Reader) (c : Char) : Except Fault Reader :=
  match r.mode with
  | .plain => r.takePlain c
  | .escape => .ok ((r.push (.literal c)).took c)
  | .star =>
    if c = '*' then .ok { r with mode := .doubleStar }
    else ((r.push .star).took '*').takePlain c
  | .doubleStar =>
    match r.doubleStar (some c) with
    | (r', true) => .ok (r'.took c)
    | (r', false) => (r'.took '*').takePlain c
  | .classStart =>
    if c = '!' ∨ c = '^' then
      .ok { r with mode := .inClass { negated := true }, last := some c }
    else r.takeInClass { negated := false } c
  | .inClass k => r.takeInClass k c

def close (r : Reader) : Except Fault Pattern :=
  if r.groups.isEmpty then .ok r.pieces.reverse else .error .unclosedGroup

/-- The pattern, once the text has ended. -/
def finish (r : Reader) : Except Fault Pattern :=
  match r.mode with
  | .plain => r.close
  | .escape => .error .danglingEscape
  | .star => (r.push .star).close
  | .doubleStar => (r.doubleStar none).1.close
  | .classStart | .inClass _ => .error .unclosedClass

end Reader

def Pattern.ofText (text : String) : Except Fault Pattern :=
  (text.toList.foldlM Reader.take {}).bind Reader.finish

end Signoff.Glob

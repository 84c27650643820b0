/-
# `Signoff.Toml.Table` — TOML values, and how keys are put into tables

Floats and moments are kept as they are written: no setting of a check is one, so only their form
matters.

Keys are put into a document one by one, and each table remembers how it came about, because that
decides how it may be added to later: by a header of its own, as the parent of a header, or by a
dotted key.  A name is never given twice.
-/

namespace Signoff.Toml

/-! ## Values -/

/-- A TOML value. -/
inductive Value where
  | string (s : String)
  | integer (n : Int)
  /-- Something with the layout of an integer that spells none. -/
  | misspelt
  | float (text : String)
  | bool (b : Bool)
  /-- A date, a time of day, or both. -/
  | moment (text : String)
  | array (items : List Value)
  | table (members : List (String × Value))

/-- A key: the names of the tables it lies in, from the outside, and its own name. -/
structure Key where
  parents : List String
  name : String
  deriving DecidableEq, Repr

/-! ## Tables that are being built -/

/-- What a name of a document stands for. -/
inductive Node where
  /-- A value, which nothing can be added to. -/
  | closed (v : Value)
  /-- A table; `implied` if it has no header of its own, `dotted` if a dotted key gave it a
  member. -/
  | table (implied dotted : Bool) (members : List (String × Node))
  /-- The tables of an array that is written by headers, last first. -/
  | tables (elements : List (List (String × Node)))

/-- The members of a table that is being built. -/
abbrev Members := List (String × Node)

namespace Node

mutual

def value : Node → Value
  | .closed v => v
  | .table _ _ members => .table (memberValues members)
  | .tables elements => .array (elementValues elements).reverse

def memberValues : List (String × Node) → List (String × Value)
  | [] => []
  | (k, n) :: ms => (k, value n) :: memberValues ms

def elementValues : List (List (String × Node)) → List Value
  | [] => []
  | e :: es => .table (memberValues e) :: elementValues es

end

end Node

namespace Members

/-- The members, where the name stands for another node. -/
def replace (name : String) (n : Node) (ms : Members) : Members :=
  ms.map fun m => if m.1 == name then (name, n) else m

/-- The members after a change to the table below the given parents.  Parents that are not there
come about, and a dotted key makes dotted tables of all that it passes through, so that none of them
can have a header any more.  It does not reach into a table that has one, and nothing reaches into a
value.  The change is told whether its table is dotted. -/
def update (dotted : Bool) (change : Bool → Members → Option Members) :
    List String → Bool → Members → Option Members
  | [], here, ms => change here ms
  | p :: ps, _, ms =>
    match ms.lookup p with
    | none => (update dotted change ps dotted []).map fun sub => ms ++ [(p, .table true dotted sub)]
    | some (.table implied d sub) =>
      if dotted && !implied then none
      else
        (update dotted change ps (d || dotted) sub).map fun sub =>
          replace p (.table implied (d || dotted) sub) ms
    | some (.tables (e :: es)) =>
      (update dotted change ps false e).map fun e => replace p (.tables (e :: es)) ms
    | some _ => none

/-- The members with one more value.  A dotted key ends in a dotted table, any other key in a table
that is not. -/
def insert (k : Key) (v : Value) (ms : Members) : Option Members :=
  update (!k.parents.isEmpty)
    (fun here ms =>
      if here == k.parents.isEmpty || (ms.lookup k.name).isSome then none
      else some (ms ++ [(k.name, .closed v)]))
    k.parents false ms

def insertAll (entries : List (Key × Value)) (ms : Members) : Option Members :=
  entries.foldlM (fun ms e => insert e.1 e.2 ms) ms

end Members

/-! ## Documents -/

/-- A header with the entries below it. -/
structure Section where
  /-- Does the header add a table to an array? -/
  inArray : Bool
  key : Key
  entries : List (Key × Value)

namespace Members

/-- The members with the table of a header, filled with its entries.  A table that so far came about
as a parent is filled further; any other may have one header only. -/
def addSection (s : Section) (root : Members) : Option Members :=
  update false
    (fun _ ms =>
      match s.inArray, ms.lookup s.key.name with
      | false, none =>
        (insertAll s.entries []).map fun sub => ms ++ [(s.key.name, .table false false sub)]
      | false, some (.table true false sub) =>
        (insertAll s.entries sub).map fun sub => replace s.key.name (.table false false sub) ms
      | true, none =>
        (insertAll s.entries []).map fun sub => ms ++ [(s.key.name, .tables [sub])]
      | true, some (.tables es) =>
        (insertAll s.entries []).map fun sub => replace s.key.name (.tables (sub :: es)) ms
      | _, _ => none)
    s.key.parents false root

/-- The members of a document: the entries before the first header, then the sections. -/
def ofDocument? (top : List (Key × Value)) (sections : List Section) : Option Members :=
  (insertAll top []).bind fun root => sections.foldlM (fun ms s => addSection s ms) root

end Members

end Signoff.Toml

/-
# `Signoff.Toml.Reader` — reading a TOML document

A document is a sequence of lines, each empty, a header, or a key with its value; arrays and inline
tables may go on over several lines.  It is read to sections first, and these are put together to
tables.
-/
import Signoff.Toml.Quoted
import Signoff.Toml.Scalar
import Signoff.Toml.Table

namespace Signoff.Toml

/-! ## Values -/

def depthLimit : Nat := 80

/-- The inline table with the entries, last first. -/
def closeInline (entries : List (Key × Value)) (cs : List Char) : Option (Value × List Char) :=
  (Members.insertAll entries.reverse []).map fun ms => (.table (Node.memberValues ms), cs)

/-- The key of an entry of an inline table, and the rest from its value on.  Lines may end on both
sides of the sign between them. -/
def readInlineKey (cs : List Char) : Option (Key × List Char) :=
  match readKey cs with
  | none => none
  | some (k, cs) =>
    match skipLayout false cs with
    | some ('=' :: cs) => (skipLayout false cs).map fun cs => (k, cs)
    | _ => none

mutual

/-- The value that a text without leading blanks starts with, and the rest.  `room` is the depth
that is left; the fuel bounds the number of values. -/
def readValue : (fuel room : Nat) → List Char → Option (Value × List Char)
  | 0, _, _ => none
  | _ + 1, 0, '[' :: _ => none
  | _ + 1, 0, '\x7b' :: _ => none
  | fuel + 1, room + 1, '[' :: cs => (skipLayout false cs).bind (readItems fuel room [])
  | fuel + 1, room + 1, '\x7b' :: cs => (skipLayout false cs).bind (readMembers fuel room [])
  | _ + 1, _, '"' :: cs => (Quoted.read ('"' :: cs)).map fun (s, rest) => (.string s, rest)
  | _ + 1, _, '\'' :: cs => (Quoted.read ('\'' :: cs)).map fun (s, rest) => (.string s, rest)
  | _ + 1, _, cs => Scalar.read cs

/-- The items of an array after those read so far (last first), from the next item or the closing
bracket on. -/
def readItems : (fuel room : Nat) → List Value → List Char → Option (Value × List Char)
  | 0, _, _, _ => none
  | _ + 1, _, acc, ']' :: cs => some (.array acc.reverse, cs)
  | fuel + 1, room, acc, cs =>
    match readValue fuel room cs with
    | none => none
    | some (v, cs) =>
      match skipLayout false cs with
      | some (']' :: cs) => some (.array (v :: acc).reverse, cs)
      | some (',' :: cs) => (skipLayout false cs).bind (readItems fuel room (v :: acc))
      | _ => none

/-- The entries of an inline table after those read so far (last first), from the next key or the
closing brace on. -/
def readMembers : (fuel room : Nat) → List (Key × Value) → List Char → Option (Value × List Char)
  | 0, _, _, _ => none
  | _ + 1, _, acc, '\x7d' :: cs => closeInline acc cs
  | fuel + 1, room, acc, cs =>
    match readInlineKey cs with
    | none => none
    | some (k, cs) =>
      match readValue fuel room cs with
      | none => none
      | some (v, cs) =>
        match skipLayout false cs with
        | some ('\x7d' :: cs) => closeInline ((k, v) :: acc) cs
        | some (',' :: cs) => (skipLayout false cs).bind (readMembers fuel room ((k, v) :: acc))
        | _ => none

end

/-! ## Lines -/

/-- One line of a document. -/
inductive Line where
  | header (inArray : Bool) (key : Key)
  | entry (key : Key) (v : Value)

/-- The line that a text without leading blanks starts with, and the rest. -/
def readLine (fuel : Nat) : List Char → Option (Line × List Char)
  | '[' :: '[' :: cs =>
    match readKey (skipSpaces cs) with
    | some (k, ']' :: ']' :: cs) => some (.header true k, cs)
    | _ => none
  | '[' :: cs =>
    match readKey (skipSpaces cs) with
    | some (k, ']' :: cs) => some (.header false k, cs)
    | _ => none
  | cs =>
    match readKey cs with
    | some (k, '=' :: cs) =>
      (readValue fuel depthLimit (skipSpaces cs)).map fun (v, cs) => (.entry k v, cs)
    | _ => none

def readLines : (fuel : Nat) → List Line → List Char → Option (List Line)
  | 0, _, _ => none
  | fuel + 1, acc, cs =>
    match skipLayout false cs with
    | none => none
    | some [] => some acc.reverse
    | some (c :: cs) =>
      match readLine fuel (c :: cs) with
      | none => none
      | some (line, cs) => (skipLineEnd cs).bind (readLines fuel (line :: acc))

/-- The lines sorted into the entries before the first header and the sections. -/
def sections : List Line → List (Key × Value) × List Section
  | [] => ([], [])
  | .entry k v :: ls =>
    let (top, rest) := sections ls
    ((k, v) :: top, rest)
  | .header inArray k :: ls =>
    let (top, rest) := sections ls
    ([], ⟨inArray, k, top⟩ :: rest)

/-! ## Documents -/

/-- The text without a byte order mark. -/
def dropMark : List Char → List Char
  | '\ufeff' :: cs => cs
  | cs => cs

/-- The table that a document spells. -/
def Value.ofText? (text : String) : Option Value := do
  let cs := dropMark text.toList
  let (top, rest) := sections (← readLines (cs.length + 1) [] cs)
  let members ← Members.ofDocument? top rest
  return .table (Node.memberValues members)

end Signoff.Toml

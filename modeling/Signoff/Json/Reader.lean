/-
# `Signoff.Json.Reader` — reading a JSON text

A tree keeps what the text says: numerals with their digits, members in their order and with
repeated keys, and texts whose escapes are no characters.  It is built from the words in one pass
with a stack of the arrays and objects that are still open, so nesting has no limit of its own.

A value is read from the tree of the text.  Numerals have to be in the range of doubles, texts have
to be characters, nesting is limited, and of several members with one key the last counts.
-/
import Signoff.Json.Double
import Signoff.Json.Token

namespace Signoff.Json

/-! ## Trees -/

/-- A JSON text as written. -/
inductive Tree where
  | null
  | bool (b : Bool)
  | number (n : Numeral)
  | text (s : Option String)
  | array (items : List Tree)
  | object (members : List (Option String × Tree))

namespace Tree

/-- An array or object that is still open; what it holds so far has its last entry first. -/
inductive Frame where
  | items (before : List Tree)
  | members (before : List (Option String × Tree)) (key : Option String)

/-- What may come next, inside the open arrays and objects. -/
inductive Want where
  | value (outside : List Frame)
  /-- A value, or the end of an array that holds none. -/
  | firstItem (outside : List Frame)
  /-- A key, or the end of an object that holds none. -/
  | firstKey (outside : List Frame)
  | key (before : List (Option String × Tree)) (outside : List Frame)
  | colon (before : List (Option String × Tree)) (key : Option String) (outside : List Frame)
  /-- A comma, or the end of what is open. -/
  | more (inside : Frame) (outside : List Frame)
  /-- Nothing. -/
  | done (t : Tree)

/-- A value is complete. -/
def Want.place (t : Tree) : List Frame → Want
  | [] => .done t
  | .items before :: fs => .more (.items (t :: before)) fs
  | .members before k :: fs => .more (.members ((k, t) :: before) k) fs

/-- A word where a value may come. -/
def Want.takeValue (fs : List Frame) : Token → Option Want
  | .null => some (.place .null fs)
  | .bool b => some (.place (.bool b) fs)
  | .number n => some (.place (.number n) fs)
  | .text s => some (.place (.text s) fs)
  | .openBracket => some (.firstItem fs)
  | .openBrace => some (.firstKey fs)
  | _ => none

def Want.take : Want → Token → Option Want
  | .value fs, t => takeValue fs t
  | .firstItem fs, .closeBracket => some (place (.array []) fs)
  | .firstItem fs, t => takeValue (.items [] :: fs) t
  | .firstKey fs, .closeBrace => some (place (.object []) fs)
  | .firstKey fs, .text k => some (.colon [] k fs)
  | .key before fs, .text k => some (.colon before k fs)
  | .colon before k fs, .colon => some (.value (.members before k :: fs))
  | .more (.items before) fs, .comma => some (.value (.items before :: fs))
  | .more (.items before) fs, .closeBracket => some (place (.array before.reverse) fs)
  | .more (.members before _) fs, .comma => some (.key before fs)
  | .more (.members before _) fs, .closeBrace => some (place (.object before.reverse) fs)
  | _, _ => none

def Want.finish : Want → Option Tree
  | .done t => some t
  | _ => none

def ofTokens (ts : List Token) : Option Tree :=
  (ts.foldlM Want.take (.value [])).bind Want.finish

/-- The tree that the text makes, if it is well formed. -/
def ofText? (s : String) : Option Tree := (Token.ofChars s.toList).bind ofTokens

/-! ## Depth -/

mutual

/-- How many arrays and objects lie around the innermost value. -/
def depth : Tree → Nat
  | .array items => depthOfItems items + 1
  | .object members => depthOfMembers members + 1
  | _ => 0

def depthOfItems : List Tree → Nat
  | [] => 0
  | t :: ts => max (depth t) (depthOfItems ts)

def depthOfMembers : List (Option String × Tree) → Nat
  | [] => 0
  | (_, t) :: ms => max (depth t) (depthOfMembers ms)

end

/-! ## Records

A record with named fields may also be written as the array of its fields.  Read straight from a
text, no field may be given twice, unknown ones are passed over, and an array may stop early but
not go on after the last field. -/

def countKey (name : String) (members : List (Option String × Tree)) : Nat :=
  members.countP fun m => m.1 == some name

/-- The fields of a record, by name. -/
def record? (names : List String) : Tree → Option (String → Option Tree)
  | .object members =>
    if members.all (·.1.isSome) && names.all fun n => countKey n members ≤ 1 then
      some fun n => members.lookup (some n)
    else none
  | .array items =>
    if items.length ≤ names.length then some fun n => (names.zip items).lookup n else none
  | _ => none

def string? : Tree → Option String
  | .text s => s
  | _ => none

def bool? : Tree → Option Bool
  | .bool b => some b
  | _ => none

/-- A 32-bit count: a numeral without sign, point and exponent. -/
def count? : Tree → Option UInt32
  | .number n => n.natural?.bind fun v =>
    if v < UInt32.size then some (UInt32.ofNat v) else none
  | _ => none

def items? : Tree → Option (List Tree)
  | .array items => some items
  | _ => none

end Tree

/-- A field that may be left out or null. -/
def Tree.optional (read : Tree → Option β) : Option Tree → Option (Option β)
  | none => some none
  | some .null => some none
  | some t => (read t).map some

/-! ## Values -/

/-- The number that a numeral stands for.  Point, exponent and a negative zero make it a double, as
does an integer that 64 bits cannot hold. -/
def Number.ofNumeral? (n : Numeral) : Option Number :=
  let v := Numeral.digitsValue n.whole
  let double := (Double.ofNumeral? n).map fun f => Number.double f.toBits
  if n.fraction.isSome || n.exponent.isSome then double
  else if n.negative then
    if 0 < v ∧ Int64.minValue.toInt ≤ -(v : Int) then some (.integer (-(v : Int))) else double
  else if v < UInt64.size then some (.integer v)
  else double

namespace Value

mutual

def ofTree? : Tree → Option Value
  | .null => some .null
  | .bool b => some (.bool b)
  | .number n => (Number.ofNumeral? n).map .number
  | .text s => s.map .string
  | .array items => (ofItems? items).map .array
  | .object members => (ofMembers? members).map fun ms => .object (sortMembers ms)

def ofItems? : List Tree → Option (List Value)
  | [] => some []
  | t :: ts =>
    match ofTree? t, ofItems? ts with
    | some v, some vs => some (v :: vs)
    | _, _ => none

def ofMembers? : List (Option String × Tree) → Option (List (String × Value))
  | [] => some []
  | (k, t) :: ms =>
    match k, ofTree? t, ofMembers? ms with
    | some k, some v, some vs => some ((k, v) :: vs)
    | _, _, _ => none

end

/-- The greatest depth of arrays and objects that is read. -/
def depthLimit : Nat := 127

/-- The value that the text stands for. -/
def ofText? (s : String) : Option Value :=
  (Tree.ofText? s).bind fun t => if t.depth ≤ depthLimit then ofTree? t else none

end Value

end Signoff.Json

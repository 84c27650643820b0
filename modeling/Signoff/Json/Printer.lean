/-
# `Signoff.Json.Printer` — writing JSON values

Two layouts: `compact` on one line without blanks, and `pretty` with one item or member a line,
indented by two blanks a level.  Empty arrays and objects take no line of their own in either.  Only
quote, backslash and control characters are escaped.
-/
import Signoff.Json.Double
import Signoff.Json.Value

namespace Signoff.Json

/-! ## Texts and numbers -/

def hexDigit (n : Nat) : Char := if n < 10 then Char.ofNat (48 + n) else Char.ofNat (87 + n)

def escapedChar (c : Char) : List Char :=
  if c = '"' then ['\\', '"']
  else if c = '\\' then ['\\', '\\']
  else if c = '\x08' then ['\\', 'b']
  else if c = '\x0c' then ['\\', 'f']
  else if c = '\n' then ['\\', 'n']
  else if c = '\r' then ['\\', 'r']
  else if c = '\t' then ['\\', 't']
  else if c < ' ' then ['\\', 'u', '0', '0', hexDigit (c.toNat / 16), hexDigit (c.toNat % 16)]
  else [c]

def quotedChars (s : String) : List Char := '"' :: s.toList.flatMap escapedChar ++ ['"']

/-- A number.  Doubles that are not finite have no numeral. -/
def Number.chars : Number → List Char
  | .integer n =>
    if n < 0 then '-' :: Nat.toDigits 10 n.natAbs else Nat.toDigits 10 n.natAbs
  | .double bits =>
    if bits >>> 52 &&& 0x7ff = 0x7ff then ['n', 'u', 'l', 'l'] else Double.text bits

def boolChars : Bool → List Char
  | true => ['t', 'r', 'u', 'e']
  | false => ['f', 'a', 'l', 's', 'e']

namespace Value

/-! ## On one line -/

mutual

/-- The value on one line. -/
def compactChars : Value → List Char
  | null => ['n', 'u', 'l', 'l']
  | bool b => boolChars b
  | number n => n.chars
  | string s => quotedChars s
  | array items => '[' :: compactItems items ++ [']']
  | object members => '\x7b' :: compactMembers members ++ ['\x7d']

def compactItems : List Value → List Char
  | [] => []
  | [v] => compactChars v
  | v :: vs => compactChars v ++ ',' :: compactItems vs

def compactMembers : List (String × Value) → List Char
  | [] => []
  | [(k, v)] => quotedChars k ++ ':' :: compactChars v
  | (k, v) :: ms => quotedChars k ++ ':' :: compactChars v ++ ',' :: compactMembers ms

end

def compact (v : Value) : String := String.ofList v.compactChars

/-! ## One item a line -/

def newLine (level : Nat) : List Char := '\n' :: List.replicate (2 * level) ' '

mutual

/-- The value, whose own line is at `level`. -/
def prettyChars (level : Nat) : Value → List Char
  | null => ['n', 'u', 'l', 'l']
  | bool b => boolChars b
  | number n => n.chars
  | string s => quotedChars s
  | array [] => ['[', ']']
  | array (v :: vs) =>
    '[' :: prettyItems (level + 1) (v :: vs) ++ newLine level ++ [']']
  | object [] => ['\x7b', '\x7d']
  | object (m :: ms) =>
    '\x7b' :: prettyMembers (level + 1) (m :: ms) ++ newLine level ++ ['\x7d']

def prettyItems (level : Nat) : List Value → List Char
  | [] => []
  | [v] => newLine level ++ prettyChars level v
  | v :: vs => newLine level ++ prettyChars level v ++ ',' :: prettyItems level vs

def prettyMembers (level : Nat) : List (String × Value) → List Char
  | [] => []
  | [(k, v)] => newLine level ++ quotedChars k ++ ':' :: ' ' :: prettyChars level v
  | (k, v) :: ms =>
    newLine level ++ quotedChars k ++ ':' :: ' ' :: prettyChars level v ++
      ',' :: prettyMembers level ms

end

/-- The value with one item or member a line. -/
def pretty (v : Value) : String := String.ofList (v.prettyChars 0)

end Value

end Signoff.Json

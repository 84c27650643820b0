/-
# `Signoff.Json.Token` — the words of a JSON text

A JSON text is a sequence of brackets, separators, texts, numerals and three literals, with blanks
between them.  The escapes of a text are UTF-16 units; units that do not pair up make the text
unreadable as characters but not malformed, so it is kept as `none` and left to the reader.  A
numeral keeps the digits of a number, so that a reader can still tell `1`, `1.0` and `1e0` apart and
decide for itself which values it can hold.
-/

namespace Signoff.Json

/-! ## Numerals -/

/-- A number as written: sign, digits, digits after the point, and exponent with its sign. -/
structure Numeral where
  negative : Bool := false
  whole : List Char
  fraction : Option (List Char) := none
  exponent : Option (Bool × List Char) := none
  deriving DecidableEq, Repr

namespace Numeral

def digitValue (c : Char) : Nat := c.toNat - '0'.toNat

def digitsValue (cs : List Char) : Nat := cs.foldl (fun n c => n * 10 + digitValue c) 0

/-- A power of ten, or one below zero. -/
def tens (e : Int) : Nat := Nat.pow 10 e.toNat

/-- A power of two, or one below zero. -/
def twos (e : Int) : Nat := Nat.pow 2 e.toNat

/-- The value of a numeral without sign, point and exponent. -/
def natural? (n : Numeral) : Option Nat :=
  if n.negative = false ∧ n.fraction = none ∧ n.exponent = none then some (digitsValue n.whole)
  else none

/-! ## Reading -/

/-- The digits that a text starts with, and the rest. -/
def splitDigits (cs : List Char) : List Char × List Char :=
  (cs.takeWhile Char.isDigit, cs.dropWhile Char.isDigit)

def readDigits (cs : List Char) : Option (List Char × List Char) :=
  match splitDigits cs with
  | ([], _) => none
  | (ds, rest) => some (ds, rest)

/-- Digits without a leading zero, or a zero alone. -/
def readWhole (cs : List Char) : Option (List Char × List Char) :=
  match readDigits cs with
  | some ('0' :: _ :: _, _) => none
  | r => r

def readFraction : List Char → Option (Option (List Char) × List Char)
  | '.' :: cs => (readDigits cs).map fun (ds, rest) => (some ds, rest)
  | cs => some (none, cs)

def readExponentDigits (negative : Bool) (cs : List Char) :
    Option (Option (Bool × List Char) × List Char) :=
  (readDigits cs).map fun (ds, rest) => (some (negative, ds), rest)

def readSignedExponent : List Char → Option (Option (Bool × List Char) × List Char)
  | '+' :: cs => readExponentDigits false cs
  | '-' :: cs => readExponentDigits true cs
  | cs => readExponentDigits false cs

def readExponent : List Char → Option (Option (Bool × List Char) × List Char)
  | 'e' :: cs => readSignedExponent cs
  | 'E' :: cs => readSignedExponent cs
  | cs => some (none, cs)

def readUnsigned (negative : Bool) (cs : List Char) : Option (Numeral × List Char) := do
  let (whole, cs) ← readWhole cs
  let (fraction, cs) ← readFraction cs
  let (exponent, cs) ← readExponent cs
  return (⟨negative, whole, fraction, exponent⟩, cs)

def read : List Char → Option (Numeral × List Char)
  | '-' :: cs => readUnsigned true cs
  | cs => readUnsigned false cs

end Numeral

/-- One word of a JSON text. -/
inductive Token where
  | openBrace
  | closeBrace
  | openBracket
  | closeBracket
  | comma
  | colon
  | null
  | bool (b : Bool)
  | number (n : Numeral)
  /-- A text; `none` if its escapes are no characters. -/
  | text (s : Option String)
  deriving DecidableEq, Repr

/-! ## Texts -/

namespace Quoted

/-- What a text is written with: characters, and units given by `\u` escapes. -/
inductive Mark where
  | char (c : Char)
  | unit (u : Nat)

def hexValue? (c : Char) : Option Nat :=
  if '0' ≤ c ∧ c ≤ '9' then some (c.toNat - 48)
  else if 'a' ≤ c ∧ c ≤ 'f' then some (c.toNat - 87)
  else if 'A' ≤ c ∧ c ≤ 'F' then some (c.toNat - 55)
  else none

/-- The unit written by four hexadecimal digits. -/
def unit? (a b c d : Char) : Option Nat := do
  let a ← hexValue? a
  let b ← hexValue? b
  let c ← hexValue? c
  let d ← hexValue? d
  return ((a * 16 + b) * 16 + c) * 16 + d

/-- The character of an escape by one letter. -/
def escaped? : Char → Option Char
  | '"' => some '"'
  | '\\' => some '\\'
  | '/' => some '/'
  | 'b' => some '\x08'
  | 'f' => some '\x0c'
  | 'n' => some '\n'
  | 'r' => some '\r'
  | 't' => some '\t'
  | _ => none

/-- The marks up to the closing quote, after those read so far (last first), and the rest. -/
def readMarks (acc : List Mark) : List Char → Option (List Mark × List Char)
  | [] => none
  | '"' :: cs => some (acc.reverse, cs)
  | '\\' :: 'u' :: a :: b :: c :: d :: cs =>
    match unit? a b c d with
    | some u => readMarks (.unit u :: acc) cs
    | none => none
  | '\\' :: e :: cs =>
    match escaped? e with
    | some c => readMarks (.char c :: acc) cs
    | none => none
  | c :: cs => if c = '\\' ∨ c < ' ' then none else readMarks (.char c :: acc) cs

/-- Is the unit the first of a pair? -/
def isHigh (u : Nat) : Bool := 0xd800 ≤ u && u ≤ 0xdbff

def isLow (u : Nat) : Bool := 0xdc00 ≤ u && u ≤ 0xdfff

/-- The character that a pair of units stands for. -/
def pairChar (high low : Nat) : Char :=
  Char.ofNat (0x10000 + (high - 0xd800) * 0x400 + (low - 0xdc00))

/-- The characters that the marks stand for, unless a unit is left without its partner. -/
def decode : List Mark → Option (List Char)
  | [] => some []
  | .char c :: ms => (decode ms).map (c :: ·)
  | .unit u :: .unit v :: ms =>
    if isHigh u then
      if isLow v then (decode ms).map (pairChar u v :: ·) else none
    else if isLow u then none
    else (decode (.unit v :: ms)).map (Char.ofNat u :: ·)
  | .unit u :: ms =>
    if isHigh u || isLow u then none else (decode ms).map (Char.ofNat u :: ·)

/-- A text after its opening quote, and the rest. -/
def read (cs : List Char) : Option (Option String × List Char) :=
  (readMarks [] cs).map fun (ms, rest) => ((decode ms).map String.ofList, rest)

end Quoted

/-! ## Words -/

namespace Token

/-- The blanks that may stand between words. -/
def isBlank (c : Char) : Bool := c == ' ' || c == '\t' || c == '\n' || c == '\r'

def read : List Char → Option (Token × List Char)
  | '\x7b' :: cs => some (.openBrace, cs)
  | '\x7d' :: cs => some (.closeBrace, cs)
  | '[' :: cs => some (.openBracket, cs)
  | ']' :: cs => some (.closeBracket, cs)
  | ',' :: cs => some (.comma, cs)
  | ':' :: cs => some (.colon, cs)
  | '"' :: cs => (Quoted.read cs).map fun (s, rest) => (.text s, rest)
  | 'n' :: 'u' :: 'l' :: 'l' :: cs => some (.null, cs)
  | 't' :: 'r' :: 'u' :: 'e' :: cs => some (.bool true, cs)
  | 'f' :: 'a' :: 'l' :: 's' :: 'e' :: cs => some (.bool false, cs)
  | cs => (Numeral.read cs).map fun (n, rest) => (.number n, rest)

/-- All words, after those read so far (last first); at most `fuel` more. -/
def readAll (fuel : Nat) (acc : List Token) (cs : List Char) : Option (List Token) :=
  match cs.dropWhile isBlank, fuel with
  | [], _ => some acc.reverse
  | _ :: _, 0 => none
  | c :: cs, fuel + 1 =>
    match read (c :: cs) with
    | some (t, rest) => readAll fuel (t :: acc) rest
    | none => none

/-- The words of a text.  Each takes up a character at least, so its length bounds their number. -/
def ofChars (cs : List Char) : Option (List Token) := readAll cs.length [] cs

end Token

end Signoff.Json

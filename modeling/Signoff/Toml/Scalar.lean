/-
# `Signoff.Toml.Scalar` — numbers, truth values and moments

Everything that is not a text, an array or a table is written as one word without blanks, apart from
the blank that may stand between a date and a time of day.

Of an integer only its layout matters at first: where its base, its sign and its underscores stand.
What has the layout and still spells no integer, such as a base without digits, is a value of its
own.  A reader that looks at a number holds integers of 128 bits, with or without sign, and floats in
the range of doubles; it refuses the others, and the value that spells none (`Value.inRange`).
-/
import Signoff.Json.Token
import Signoff.Timestamp
import Signoff.Toml.Table

namespace Signoff.Toml.Scalar

/-! ## Integers -/

/-- The digits, when single underscores stand between digits only. -/
def plainDigits? (isDigit : Char → Bool) : List Char → Option (List Char)
  | [] => none
  | [c] => if isDigit c then some [c] else none
  | c :: '_' :: cs => if isDigit c then (plainDigits? isDigit cs).map (c :: ·) else none
  | c :: cs => if isDigit c then (plainDigits? isDigit cs).map (c :: ·) else none

/-- Decimal digits.  They start with a zero only if that is all of them, or if they are `spaced`. -/
def decimalDigits? (spaced : Bool) (cs : List Char) : Option (List Char) :=
  match plainDigits? Char.isDigit cs with
  | some ('0' :: d :: ds) => if spaced then some ('0' :: d :: ds) else none
  | r => r

def splitSign : List Char → Bool × List Char
  | '+' :: cs => (false, cs)
  | '-' :: cs => (true, cs)
  | cs => (false, cs)

/-- The sign of a whole number, whether an underscore spaces the digits from it, and the rest. -/
def splitSpacedSign : List Char → Bool × Bool × List Char
  | '+' :: '_' :: cs => (false, true, cs)
  | '-' :: '_' :: cs => (true, true, cs)
  | cs => ((splitSign cs).1, false, (splitSign cs).2)

def hexValue (c : Char) : Nat :=
  if c.isDigit then c.toNat - 48 else if c.toNat < 97 then c.toNat - 55 else c.toNat - 87

def isHex (c : Char) : Bool := c.isDigit || ('a' ≤ c && c ≤ 'f') || ('A' ≤ c && c ≤ 'F')

/-- The value of digits in a base. -/
def valueIn (base : Nat) (cs : List Char) : Int := cs.foldl (fun n c => n * base + hexValue c) 0

/-- What a word spells after its base.  Without digits it spells no integer. -/
def inBase? (isDigit : Char → Bool) (base : Nat) (ds : List Char) : Option Value :=
  if ds.isEmpty then some .misspelt
  else (plainDigits? isDigit ds).map fun ds => .integer (valueIn base ds)

/-- Does each underscore stand between two hexadecimal digits?  `after` says whether such a digit
stands before the text. -/
def isGrouped (after : Bool) : List Char → Bool
  | [] => true
  | '_' :: cs => after && cs.head?.any isHex && isGrouped false cs
  | c :: cs => isGrouped (isHex c) cs

/-- Is the text after a sign laid out like a decimal integer in groups?  An underscore stands before
its digits or after the first of them, and nothing makes it a float.  What else the groups hold does
not matter. -/
def isLaidOut (spaced : Bool) (ds : List Char) : Bool :=
  isGrouped false ds && !ds.any (fun c => c == '.' || c == 'e' || c == 'E') &&
    if spaced then ds.head?.any isHex
    else ds.head? != some '0' && (ds.dropWhile Char.isDigit).head? == some '_'

/-- The integer that the word spells, or a misspelt one that has the layout of an integer. -/
def integer? (cs : List Char) : Option Value :=
  match cs with
  | '0' :: 'x' :: ds => inBase? isHex 16 ds
  | '0' :: 'o' :: ds => inBase? (fun c => '0' ≤ c && c ≤ '7') 8 ds
  | '0' :: 'b' :: ds => inBase? (fun c => c == '0' || c == '1') 2 ds
  | _ =>
    let (negative, spaced, ds) := splitSpacedSign cs
    match decimalDigits? spaced ds with
    | some digits =>
      let n : Int := Json.Numeral.digitsValue digits
      some (.integer (if negative then -n else n))
    | none => if isLaidOut spaced ds then some .misspelt else none

/-! ## Floats -/

/-- The value of an exponent after its letter. -/
def exponent? (cs : List Char) : Option Int :=
  let (negative, ds) := splitSign cs
  (plainDigits? Char.isDigit ds).map fun ds =>
    let n : Int := Json.Numeral.digitsValue ds
    if negative then -n else n

/-- The digits after the point; there is a point exactly if there are any. -/
def fraction? : List Char → Option (List Char)
  | [] => some []
  | '.' :: ds => plainDigits? Char.isDigit ds
  | _ => none

/-- The digits of a float and the power of ten that they are units of, whatever its sign. -/
def float? (word : List Char) : Option (List Char × Int) :=
  let (_, spaced, cs) := splitSpacedSign word
  let mantissa := cs.takeWhile fun c => c != 'e' && c != 'E'
  let power := (cs.dropWhile fun c => c != 'e' && c != 'E').tail
  let hasPower := mantissa.length < cs.length
  let whole := mantissa.takeWhile (· != '.')
  let rest := mantissa.dropWhile (· != '.')
  match decimalDigits? spaced whole, fraction? rest, (if hasPower then exponent? power else some 0) with
  | some w, some f, some e =>
    if hasPower || !f.isEmpty then some (w ++ f, e - f.length) else none
  | _, _, _ => none

/-- Is the word, after its sign, one of the values that have no digits? -/
def isSpecialFloat (cs : List Char) : Bool := cs == ['i', 'n', 'f'] || cs == ['n', 'a', 'n']

/-! ## Moments -/

/-- A number of `n` digits that a test accepts, and the rest. -/
def field? (n : Nat) (test : Nat → Bool) (cs : List Char) : Option (Nat × List Char) :=
  match ClockReading.readDigits n 0 cs with
  | some (v, rest) => if test v then some (v, rest) else none
  | none => none

def skipDate? (cs : List Char) : Option (List Char) := do
  let (year, cs) ← field? 4 (fun _ => true) cs
  let (month, cs) ← field? 2 (fun m => 1 ≤ m && m ≤ 12) (← ClockReading.skip '-' cs)
  let (_, cs) ← field? 2 (fun d => 1 ≤ d && d ≤ ClockReading.daysInMonth year month)
    (← ClockReading.skip '-' cs)
  return cs

def skipDecimals? : List Char → Option (List Char)
  | '.' :: cs =>
    match cs.takeWhile Char.isDigit with
    | [] => none
    | _ => some (cs.dropWhile Char.isDigit)
  | cs => some cs

/-- The rest after a time of day; the seconds may be left out. -/
def skipTime? (cs : List Char) : Option (List Char) := do
  let (_, cs) ← field? 2 (· ≤ 23) cs
  let (_, cs) ← field? 2 (· ≤ 59) (← ClockReading.skip ':' cs)
  match cs with
  | ':' :: cs =>
    let (_, cs) ← field? 2 (· ≤ 60) cs
    skipDecimals? cs
  | cs => return cs

/-- Is this an offset from UTC, or nothing? -/
def isOffset : List Char → Bool
  | [] => true
  | ['Z'] => true
  | ['z'] => true
  | c :: cs =>
    (c == '+' || c == '-') &&
      (do
        let (_, cs) ← field? 2 (· ≤ 23) cs
        let (_, cs) ← field? 2 (· ≤ 59) (← ClockReading.skip ':' cs)
        return cs) == some []

def isDate (cs : List Char) : Bool := skipDate? cs == some []

def isTime (cs : List Char) : Bool := skipTime? cs == some []

def isTimeWithOffset (cs : List Char) : Bool := (skipTime? cs).any isOffset

def isDateTime (cs : List Char) : Bool :=
  match skipDate? cs with
  | some (c :: rest) => (c == 'T' || c == 't') && isTimeWithOffset rest
  | _ => false

/-! ## Words -/

def wordEnds : List Char := ['=', ',', '[', ']', '\x7b', '\x7d', '#', ' ', '\t', '\r', '\n']

/-- May the character stand in a word? -/
def isWordChar (c : Char) : Bool := !wordEnds.contains c

/-- The value that the word spells. -/
def ofWord? (cs : List Char) : Option Value :=
  if cs = ['t', 'r', 'u', 'e'] then some (.bool true)
  else if cs = ['f', 'a', 'l', 's', 'e'] then some (.bool false)
  else
    match integer? cs with
    | some v => some v
    | none =>
      if isSpecialFloat (splitSign cs).2 || (float? cs).isSome then some (.float (String.ofList cs))
      else if isDate cs || isTime cs || isDateTime cs then some (.moment (String.ofList cs))
      else none

/-- The value that a text starts with, and the rest.  A date goes on over one blank if a digit
follows it. -/
def read (cs : List Char) : Option (Value × List Char) :=
  let word := cs.takeWhile isWordChar
  match isDate word, cs.dropWhile isWordChar with
  | true, ' ' :: d :: rest =>
    if d.isDigit then
      let time := (d :: rest).takeWhile isWordChar
      if isTimeWithOffset time then
        some (.moment (String.ofList (word ++ ' ' :: time)), (d :: rest).dropWhile isWordChar)
      else none
    else some (.moment (String.ofList word), ' ' :: d :: rest)
  | _, rest => (ofWord? word).map fun v => (v, rest)

end Signoff.Toml.Scalar

namespace Signoff.Toml

/-! ## Numbers that a reader can hold -/

/-! ## Numbers -/

/-- Do 128 bits, with or without sign, hold the integer? -/
def integerInRange (n : Int) : Bool := -Json.Numeral.twos 127 ≤ n && n < Json.Numeral.twos 128

/-- Is `digits · 10^exponent` beyond the doubles?  It is from halfway above the greatest one on. -/
def overflows (digits : List Char) (exponent : Int) : Bool :=
  let significant := digits.dropWhile (· == '0')
  let places := significant.length + exponent
  if significant.isEmpty ∨ places < 308 then false
  else if 310 < places then true
  else
    let n := Json.Numeral.digitsValue significant
    (Json.Numeral.twos 1024 - Json.Numeral.twos 970) * Json.Numeral.tens (-exponent) ≤
      n * Json.Numeral.tens exponent

/-- Is the float in the range of doubles?  The values without digits are. -/
def floatInRange (text : String) : Bool :=
  match Scalar.float? text.toList with
  | some (digits, exponent) => !overflows digits exponent
  | none => true

/-! ## Values -/

namespace Value

mutual

/-- Is every number in the value in range?  One that is misspelt is in none. -/
def inRange : Value → Bool
  | .integer n => integerInRange n
  | .misspelt => false
  | .float text => floatInRange text
  | .array items => itemsInRange items
  | .table members => membersInRange members
  | _ => true

def itemsInRange : List Value → Bool
  | [] => true
  | v :: vs => inRange v && itemsInRange vs

def membersInRange : List (String × Value) → Bool
  | [] => true
  | (_, v) :: ms => inRange v && membersInRange ms

end

end Value

end Signoff.Toml

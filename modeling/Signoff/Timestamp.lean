/-
# `Signoff.Timestamp` — points in time, as RFC 3339 writes them

`2026-01-31T23:59:59.5+02:00`: a date, a time of day with up to nine decimals that count, and the
offset from UTC in hours and minutes.  A leap second is accepted where one can fall, at the end of a
month in UTC, and stands for the last instant before it.
-/

namespace Signoff

/-- Date, time of day and offset, as they are written. -/
structure ClockReading where
  year : Nat
  month : Nat
  day : Nat
  hour : Nat
  minute : Nat
  second : Nat
  nanosecond : Nat
  /-- Is the offset to the west of UTC? -/
  west : Bool
  offsetHour : Nat
  offsetMinute : Nat
  deriving DecidableEq, Repr

namespace ClockReading

def isLeapYear (year : Nat) : Bool := year % 4 == 0 && (year % 100 != 0 || year % 400 == 0)

def daysInMonth (year month : Nat) : Nat :=
  if month = 2 then (if isLeapYear year then 29 else 28)
  else if month = 4 ∨ month = 6 ∨ month = 9 ∨ month = 11 then 30
  else 31

/-- Is this a point in time, written in the one way that it is written?  An offset of zero is not to
the west. -/
def isValid (r : ClockReading) : Bool :=
  r.year ≤ 9999 && 1 ≤ r.month && r.month ≤ 12 && 1 ≤ r.day &&
    r.day ≤ daysInMonth r.year r.month && r.hour ≤ 23 && r.minute ≤ 59 && r.second ≤ 59 &&
    r.nanosecond ≤ 999999999 && r.offsetHour ≤ 23 && r.offsetMinute ≤ 59 &&
    !(r.west && r.offsetHour == 0 && r.offsetMinute == 0)

end ClockReading

/-- A point in time with the offset it is told by. -/
structure Timestamp where
  reading : ClockReading
  valid : reading.isValid = true
  deriving DecidableEq

namespace ClockReading

/-! ## Leap seconds -/

/-- Minutes since midnight, moved to UTC; below 0 it is the day before. -/
def utcMinutes (r : ClockReading) : Int :=
  let offset : Int := r.offsetHour * 60 + r.offsetMinute
  (r.hour * 60 + r.minute : Nat) - (if r.west then -offset else offset)

/-- Is this the last second of a month in UTC?  An offset is less than a day, so that the last minute
of a day in UTC falls on the same day or on the next. -/
def endsMonth (r : ClockReading) : Bool :=
  r.second == 59 &&
    if r.utcMinutes = 1439 then r.day == daysInMonth r.year r.month
    else r.utcMinutes == -1 && r.day == 1

/-! ## Reading -/

def digit? (c : Char) : Option Nat := if c.isDigit then some (c.toNat - '0'.toNat) else none

/-- A number of `n` digits, after the value of those before it, and the rest. -/
def readDigits : Nat → Nat → List Char → Option (Nat × List Char)
  | 0, v, cs => some (v, cs)
  | _ + 1, _, [] => none
  | n + 1, v, c :: cs =>
    match digit? c with
    | some d => readDigits n (v * 10 + d) cs
    | none => none

def skip (c : Char) : List Char → Option (List Char)
  | d :: cs => if c = d then some cs else none
  | [] => none

/-- The decimals of a second after the first, the unit of the next one given, and the rest. -/
def readDecimals (value unit : Nat) : List Char → Nat × List Char
  | [] => (value, [])
  | c :: cs =>
    match digit? c with
    | some d => readDecimals (value + d * unit) (unit / 10) cs
    | none => (value, c :: cs)

/-- The nanoseconds, if there is a point, and the rest. -/
def readFraction : List Char → Option (Nat × List Char)
  | '.' :: c :: cs =>
    match digit? c with
    | some d => some (readDecimals (d * 100000000) 10000000 cs)
    | none => none
  | '.' :: [] => none
  | cs => some (0, cs)

/-- Hours and minutes of an offset. -/
def readOffsetTime (west : Bool) (cs : List Char) : Option (Bool × Nat × Nat) := do
  let (h, cs) ← readDigits 2 0 cs
  let cs ← skip ':' cs
  let (m, cs) ← readDigits 2 0 cs
  if cs = [] then return (west && !(h == 0 && m == 0), h, m) else none

/-- The offset, which ends the text. -/
def readOffset : List Char → Option (Bool × Nat × Nat)
  | ['Z'] => some (false, 0, 0)
  | ['z'] => some (false, 0, 0)
  | '+' :: cs => readOffsetTime false cs
  | '-' :: cs => readOffsetTime true cs
  | _ => none

/-- The rest after the one character between date and time; any that takes one byte will do. -/
def skipSeparator : List Char → Option (List Char)
  | c :: cs => if c.toNat < 128 then some cs else none
  | [] => none

/-- The reading that the text gives, a leap second not resolved. -/
def read (cs : List Char) : Option ClockReading := do
  let (year, cs) ← readDigits 4 0 cs
  let (month, cs) ← readDigits 2 0 (← skip '-' cs)
  let (day, cs) ← readDigits 2 0 (← skip '-' cs)
  let (hour, cs) ← readDigits 2 0 (← skipSeparator cs)
  let (minute, cs) ← readDigits 2 0 (← skip ':' cs)
  let (second, cs) ← readDigits 2 0 (← skip ':' cs)
  let (nanosecond, cs) ← readFraction cs
  let (west, offsetHour, offsetMinute) ← readOffset cs
  return ⟨year, month, day, hour, minute, second, nanosecond, west, offsetHour, offsetMinute⟩

/-- A leap second stands for the last instant before it, if it can fall there. -/
def resolveLeap? (r : ClockReading) : Option ClockReading :=
  if r.second = 60 then
    let before := { r with second := 59, nanosecond := 999999999 }
    if before.endsMonth then some before else none
  else some r

/-! ## Writing -/

/-- A number in at least `width` digits. -/
def padded (width n : Nat) : List Char :=
  let ds := Nat.toDigits 10 n
  List.replicate (width - ds.length) '0' ++ ds

/-- The decimals of a second, without trailing zeros. -/
def fractionChars (nanosecond : Nat) : List Char :=
  if nanosecond = 0 then []
  else '.' :: ((padded 9 nanosecond).reverse.dropWhile (· == '0')).reverse

/-- The offset; `Z` for UTC. -/
def offsetChars (r : ClockReading) : List Char :=
  if r.offsetHour = 0 ∧ r.offsetMinute = 0 then ['Z']
  else (if r.west then '-' else '+') :: padded 2 r.offsetHour ++ ':' :: padded 2 r.offsetMinute

def chars (r : ClockReading) : List Char :=
  padded 4 r.year ++ '-' :: padded 2 r.month ++ '-' :: padded 2 r.day ++ 'T' :: padded 2 r.hour ++
    ':' :: padded 2 r.minute ++ ':' :: padded 2 r.second ++ fractionChars r.nanosecond ++
    offsetChars r

end ClockReading

namespace Timestamp

/-- The point in time, if the reading is one. -/
def ofReading? (r : ClockReading) : Option Timestamp :=
  if h : r.isValid = true then some ⟨r, h⟩ else none

def ofText? (s : String) : Option Timestamp := do
  let r ← ClockReading.read s.toList
  ofReading? (← r.resolveLeap?)

def text (t : Timestamp) : String := String.ofList t.reading.chars

/-- The start of the Unix era. -/
def epoch : Timestamp := ⟨⟨1970, 1, 1, 0, 0, 0, 0, false, 0, 0⟩, by decide⟩

end Timestamp

end Signoff

/-
# `Signoff.Json.Double` — doubles and their decimal texts

Reading scales an integer of 64 bits by a power of ten, in double arithmetic.  Writing finds the
fewest digits that read back: the interval of reals that round to the double is searched on the
decimal grids of 1, 2, … 17 digits, in exact arithmetic.
-/
import Signoff.Json.Token
import Signoff.Json.Value

namespace Signoff.Json.Double

/-! ## Reading -/

/-- The double nearest to a power of ten. -/
def power (n : Nat) : Float := Float.ofScientific 1 false n

/-- `f` divided by a power of ten, in steps that a double can hold. -/
def scaleDown (f : Float) (e : Nat) : Float :=
  if e ≤ 308 then f / power e
  else if f == 0 then f
  else scaleDown (f / power 308) (e - 308)
termination_by e

/-- The double for a significand and an exponent of ten, unless it is out of range. -/
def ofDecimal? (significand : Nat) (exponent : Int) : Option Float :=
  let f := (UInt64.ofNat significand).toFloat
  if exponent < 0 then some (scaleDown f exponent.natAbs)
  else if f == 0 then some f
  else if 308 < exponent then none
  else
    let g := f * power exponent.toNat
    if g.isInf then none else some g

/-- The digits that fit into 64 bits after `n`, as one number, and how many they are. -/
def takeDigits (n taken : Nat) : List Char → Nat × Nat
  | [] => (n, taken)
  | c :: cs =>
    let m := n * 10 + Numeral.digitValue c
    if m < UInt64.size then takeDigits m (taken + 1) cs else (n, taken)

/-- The value of the exponent as written. -/
def exponentValue : Option (Bool × List Char) → Int
  | none => 0
  | some (true, ds) => -(Numeral.digitsValue ds : Int)
  | some (false, ds) => Numeral.digitsValue ds

/-- The double that a numeral stands for.  Digits that do not fit into 64 bits only count as
places. -/
def ofNumeral? (n : Numeral) : Option Float := do
  let (w, taken) := takeDigits 0 0 n.whole
  let (s, after) := takeDigits w 0 (n.fraction.getD [])
  let e := ((n.whole.length - taken : Nat) : Int) - after + exponentValue n.exponent
  let f ← ofDecimal? s e
  return if n.negative then -f else f

/-! ## Writing -/

/-- A positive finite double as a significand and a power of two. -/
def parts (bits : UInt64) : Nat × Int :=
  let m := (bits &&& 0xfffffffffffff).toNat
  let e := (bits >>> 52 &&& 0x7ff).toNat
  if e = 0 then (m, -1074) else (m + Numeral.twos 52, (e : Int) - 1075)

/-- The reals that round to a double, over a common denominator: lower end, value, upper end,
denominator, and whether the ends belong to them. -/
structure Interval where
  low : Nat
  value : Nat
  high : Nat
  denominator : Nat
  closed : Bool

/-- The interval of `m · 2^q`; below a power of two the neighbour is half as far away. -/
def interval (m : Nat) (q : Int) : Interval :=
  let narrow := m = Numeral.twos 52 ∧ -1074 < q
  let up := Numeral.twos q
  { low := (if narrow then 4 * m - 1 else 4 * m - 2) * up
    value := 4 * m * up
    high := (4 * m + 2) * up
    denominator := 4 * Numeral.twos (-q)
    closed := m % 2 = 0 }

/-- Does `d · 10^k` lie in the interval? -/
def Interval.holds (i : Interval) (d : Nat) (k : Int) : Bool :=
  let x := d * Numeral.tens k * i.denominator
  let scale := Numeral.tens (-k)
  if i.closed then i.low * scale ≤ x && x ≤ i.high * scale
  else i.low * scale < x && x < i.high * scale

/-- The grid point at or below the value, in units of `10^k`. -/
def Interval.floor (i : Interval) (k : Int) : Nat :=
  i.value * Numeral.tens (-k) / (i.denominator * Numeral.tens k)

/-- Is the value nearer to the grid point above than to the one at or below it?  Halfway the even
one is taken. -/
def Interval.roundsUp (i : Interval) (d : Nat) (k : Int) : Bool :=
  let twice := 2 * i.value * Numeral.tens (-k)
  let middle := (2 * d + 1) * Numeral.tens k * i.denominator
  middle < twice || (middle == twice && d % 2 == 1)

/-- A grid point that reads back, if the grid of `10^k` has one. -/
def Interval.onGrid? (i : Interval) (k : Int) : Option Nat :=
  let d := i.floor k
  match i.holds d k, i.holds (d + 1) k with
  | true, true => some (if i.roundsUp d k then d + 1 else d)
  | true, false => some d
  | false, true => some (d + 1)
  | false, false => none

/-- The first grid with a hit, from `10^k` down through `n` finer grids. -/
def Interval.shortest (i : Interval) : Nat → Int → Nat × Int
  | 0, k => (i.floor k, k)
  | n + 1, k =>
    match i.onGrid? k with
    | some d => (d, k)
    | none => i.shortest n (k - 1)

/-- Digits without trailing zeros, and the exponent that makes up for them. -/
def stripZeros : Nat → Nat → Int → Nat × Int
  | 0, d, k => (d, k)
  | fuel + 1, d, k => if d ≠ 0 ∧ d % 10 = 0 then stripZeros fuel (d / 10) (k + 1) else (d, k)

/-- The fewest digits that read back as the positive double, and their exponent of ten. -/
def shortestDigits (bits : UInt64) : Nat × Int :=
  let (m, q) := parts bits
  let i := interval m q
  let places : Int := (Nat.toDigits 10 (i.value / i.denominator)).length
  let start : Int := if i.denominator ≤ i.value then places else 0
  let (d, k) := i.shortest 360 start
  stripZeros 20 d k

/-- The digits with the point where the exponent puts it: positional from `1e-5` up to `1e16`, and
with a signed exponent beyond. -/
def layOut (digits : List Char) (k : Int) : List Char :=
  let n : Int := digits.length
  let point := n + k
  if 0 ≤ k ∧ point ≤ 16 then digits ++ List.replicate k.toNat '0' ++ ['.', '0']
  else if 0 < point ∧ point ≤ 16 then
    digits.take point.toNat ++ '.' :: digits.drop point.toNat
  else if -5 < point ∧ point ≤ 0 then
    '0' :: '.' :: List.replicate (-point).toNat '0' ++ digits
  else
    let e := point - 1
    let exponent := (if e < 0 then '-' else '+') :: Nat.toDigits 10 e.natAbs
    match digits with
    | [d] => d :: 'e' :: exponent
    | d :: ds => d :: '.' :: ds ++ 'e' :: exponent
    | [] => []

def text (bits : UInt64) : List Char :=
  let sign := if bits >>> 63 = 1 then ['-'] else []
  let magnitude := bits &&& 0x7fffffffffffffff
  if magnitude = 0 then sign ++ ['0', '.', '0']
  else
    let (d, k) := shortestDigits magnitude
    sign ++ layOut (Nat.toDigits 10 d) k

end Signoff.Json.Double

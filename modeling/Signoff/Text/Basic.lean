/-
# `Signoff.Text.Basic` — white space, words and numbers

Properties of characters that a standard defines by tables are held as lists of closed ranges.  Blank
characters are the 25 code points of the Unicode property White_Space; names, counts and paths are
all trimmed and split by this one notion.  Every number that is shown to a reader is written in
decimal without leading zeros; labels pad to two digits.
-/

namespace Signoff.Text

/-! ## Sets of characters -/

/-- A set of characters: closed ranges of code points, ascending and apart. -/
structure CharSet where
  ranges : List (Nat × Nat)

namespace CharSet

def contains (s : CharSet) (c : Char) : Bool :=
  s.ranges.any fun r => r.1 ≤ c.toNat && c.toNat ≤ r.2

theorem contains_iff {s : CharSet} {c : Char} :
    s.contains c = true ↔ ∃ r ∈ s.ranges, r.1 ≤ c.toNat ∧ c.toNat ≤ r.2 := by
  simp [contains]

end CharSet

/-! ## White space -/

/-- The Unicode property White_Space. -/
def blankSet : CharSet :=
  ⟨[(0x09, 0x0d), (0x20, 0x20), (0x85, 0x85), (0xa0, 0xa0), (0x1680, 0x1680), (0x2000, 0x200a),
    (0x2028, 0x2029), (0x202f, 0x202f), (0x205f, 0x205f), (0x3000, 0x3000)]⟩

def isBlank (c : Char) : Bool := blankSet.contains c

/-! ## On characters -/

def dropBlank (cs : List Char) : List Char := cs.dropWhile isBlank

/-- The text without its leading and trailing blanks. -/
def trimChars (cs : List Char) : List Char := (dropBlank (dropBlank cs).reverse).reverse

theorem dropBlank_eq_nil_iff {cs : List Char} :
    dropBlank cs = [] ↔ ∀ c ∈ cs, isBlank c = true := by
  induction cs with
  | nil => simp [dropBlank]
  | cons c cs ih =>
      rw [dropBlank] at ih ⊢
      cases hc : isBlank c with
      | true => simp [hc, ih]
      | false => simp [hc]

theorem trimChars_eq_nil_iff {cs : List Char} :
    trimChars cs = [] ↔ ∀ c ∈ cs, isBlank c = true := by
  have hrest : (∀ c ∈ dropBlank cs, isBlank c = true) ↔ dropBlank cs = [] := by
    constructor
    · intro hall
      -- what is left would begin with a character that is not blank
      refine Decidable.byContradiction fun hne => ?_
      have hblank := hall _ (List.head_mem hne)
      have hnot : isBlank ((dropBlank cs).head hne) = false := List.head_dropWhile_not isBlank hne
      rw [hnot] at hblank
      cases hblank
    · intro hnil
      rw [hnil]
      intro c hc
      cases hc
  rw [trimChars, List.reverse_eq_nil_iff, dropBlank_eq_nil_iff]
  simp only [List.mem_reverse]
  rw [hrest, dropBlank_eq_nil_iff]

/-- The maximal runs of non-blank characters, in order. -/
def words : List Char → List (List Char)
  | [] => []
  | c :: cs =>
    if isBlank c then words cs
    else if cs.head?.all isBlank then [c] :: words cs
    else match words cs with
      | [] => [[c]]
      | w :: ws => (c :: w) :: ws

/-! ## On strings -/

def trim (s : String) : String := String.ofList (trimChars s.toList)

def isBlankText (s : String) : Bool := s.toList.all isBlank

/-! ## Numbers -/

def decimalChars (n : Nat) : List Char := Nat.toDigits 10 n

def decimal (n : Nat) : String := String.ofList (decimalChars n)

/-- The number in decimal digits, with a leading `-` when it is negative. -/
def decimalInt (n : Int) : String :=
  if n < 0 then "-" ++ decimal n.natAbs else decimal n.natAbs

/-- The number in decimal, with a leading zero when it has one digit. -/
def twoDigits (n : Nat) : String := if n < 10 then "0" ++ decimal n else decimal n

theorem ofDigitChars_twoDigits (n : Nat) : Nat.ofDigitChars 10 (twoDigits n).toList 0 = n := by
  by_cases h : n < 10
  · simp [twoDigits, decimal, decimalChars, h, Nat.ofDigitChars_cons]
  · simp [twoDigits, decimal, decimalChars, h]

theorem twoDigits_injective {m n : Nat} (h : twoDigits m = twoDigits n) : m = n := by
  rw [← ofDigitChars_twoDigits m, h, ofDigitChars_twoDigits]

end Signoff.Text

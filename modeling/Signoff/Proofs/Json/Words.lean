/-
# `Signoff.Proofs.Json.Words` — written words read back

The reader of a JSON text takes one word after the other and passes over the blanks between them.
`Token.Reads` says which words it takes and what it leaves, without the fuel that the loop counts
down.  Three kinds of words carry something: numerals, texts, and truth values.  Each of them, as it
is written, reads back as what was written (`Numeral.read_chars`, `Quoted.read_quotedChars`), also
with more text behind it.  A numeral alone sets a condition on that text: nothing in it may prolong
the numeral (`Numeral.Ends`).
-/
import Mathlib.Data.Nat.Digits.Defs
import Signoff.Json.Printer
import Signoff.Json.Reader

namespace Signoff.Json

/-! ## Numerals -/

theorem head?_toDigits_ne_zero {n : Nat} (hn : 0 < n) :
    (Nat.toDigits 10 n).head? ≠ some '0' := by
  induction n using Nat.strongRecOn with
  | ind n ih =>
      by_cases hlt : n < 10
      · have hdigit : ∀ k < 10, 0 < k → [Nat.digitChar k].head? ≠ some '0' := by decide
        rw [Nat.toDigits_of_lt_base hlt]
        exact hdigit n hlt hn
      · have hhead := ih (n / 10) (by omega) (by omega)
        rw [Nat.toDigits_of_base_le (by omega) (by omega)]
        cases h : Nat.toDigits 10 (n / 10) with
        | nil => exact absurd h Nat.toDigits_ne_nil
        | cons c cs =>
            rw [h] at hhead
            exact hhead

namespace Numeral

/-- The text does not prolong a numeral in front of it. -/
def Ends (rest : List Char) : Prop :=
  ∀ c ∈ rest.head?, c.isDigit = false ∧ c ≠ '.' ∧ c ≠ 'e' ∧ c ≠ 'E'

def ofInt (n : Int) : Numeral := ⟨decide (n < 0), Nat.toDigits 10 n.natAbs, none, none⟩

theorem digitsValue_toDigits (n : Nat) : digitsValue (Nat.toDigits 10 n) = n := by
  have h : Nat.ofDigitChars 10 (Nat.toDigits 10 n) 0 = n := Nat.ofDigitChars_ten_toDigits
  rw [Nat.ofDigitChars_eq_foldl] at h
  simpa only [digitsValue, digitValue, Nat.mul_comm] using h

theorem splitDigits_append {ds rest : List Char} (hds : ∀ c ∈ ds, c.isDigit = true)
    (hrest : Ends rest) : splitDigits (ds ++ rest) = (ds, rest) := by
  have htake : rest.takeWhile Char.isDigit = [] ∧ rest.dropWhile Char.isDigit = rest := by
    cases rest with
    | nil => exact ⟨rfl, rfl⟩
    | cons c cs =>
        have hc := (hrest c rfl).1
        exact ⟨List.takeWhile_cons_of_neg (by simp [hc]), List.dropWhile_cons_of_neg (by simp [hc])⟩
  rw [splitDigits, List.takeWhile_append_of_pos hds, List.dropWhile_append_of_pos hds, htake.1,
    htake.2, List.append_nil]

theorem readWhole_toDigits (n : Nat) {rest : List Char} (hrest : Ends rest) :
    readWhole (Nat.toDigits 10 n ++ rest) = some (Nat.toDigits 10 n, rest) := by
  have hdigits : ∀ c ∈ Nat.toDigits 10 n, c.isDigit = true :=
    fun c hc => Nat.isDigit_of_mem_toDigits (by omega) (by omega) hc
  have hread : readDigits (Nat.toDigits 10 n ++ rest) = some (Nat.toDigits 10 n, rest) := by
    rw [readDigits, splitDigits_append hdigits hrest]
    cases h : Nat.toDigits 10 n with
    | nil => exact absurd h Nat.toDigits_ne_nil
    | cons c cs => rfl
  rw [readWhole, hread]
  split
  · rename_i c cs rest' h
    obtain ⟨hzero, -⟩ := Prod.mk.inj (Option.some.inj h)
    rcases Nat.eq_zero_or_pos n with rfl | hn
    · rw [Nat.toDigits_zero] at hzero
      cases hzero
    · exact absurd (by rw [hzero]; rfl) (head?_toDigits_ne_zero hn)
  · rfl

theorem readFraction_of_ends {rest : List Char} (hrest : Ends rest) :
    readFraction rest = some (none, rest) := by
  rw [readFraction]
  rintro cs rfl
  exact (hrest '.' rfl).2.1 rfl

theorem readExponent_of_ends {rest : List Char} (hrest : Ends rest) :
    readExponent rest = some (none, rest) := by
  rw [readExponent]
  · rintro cs rfl
    exact (hrest 'e' rfl).2.2.1 rfl
  · rintro cs rfl
    exact (hrest 'E' rfl).2.2.2 rfl

theorem readUnsigned_toDigits (negative : Bool) (n : Nat) {rest : List Char} (hrest : Ends rest) :
    readUnsigned negative (Nat.toDigits 10 n ++ rest) =
      some (⟨negative, Nat.toDigits 10 n, none, none⟩, rest) := by
  rw [readUnsigned, readWhole_toDigits n hrest]
  simp only [Option.bind_eq_bind, Option.bind_some]
  rw [readFraction_of_ends hrest]
  simp only [Option.bind_some]
  rw [readExponent_of_ends hrest]
  rfl

theorem exists_chars_eq_cons (n : Int) :
    ∃ c cs, (Number.integer n).chars = c :: cs ∧ (c = '-' ∨ c.isDigit = true) := by
  rw [Number.chars]
  split
  · exact ⟨'-', _, rfl, .inl rfl⟩
  · cases h : Nat.toDigits 10 n.natAbs with
    | nil => exact absurd h Nat.toDigits_ne_nil
    | cons c cs =>
        have hc : c ∈ Nat.toDigits 10 n.natAbs := by
          rw [h]
          exact List.mem_cons_self
        exact ⟨c, cs, rfl, .inr (Nat.isDigit_of_mem_toDigits (by omega) (by omega) hc)⟩

theorem read_chars (n : Int) {rest : List Char} (hrest : Ends rest) :
    Numeral.read ((Number.integer n).chars ++ rest) = some (ofInt n, rest) := by
  rw [Number.chars]
  by_cases hn : n < 0
  · rw [if_pos hn, List.cons_append, Numeral.read, readUnsigned_toDigits true _ hrest, ofInt,
      decide_eq_true hn]
  · rw [if_neg hn, Numeral.read, readUnsigned_toDigits false _ hrest, ofInt, decide_eq_false hn]
    -- a sign is no digit
    intro cs hcs
    cases h : Nat.toDigits 10 n.natAbs with
    | nil => exact Nat.toDigits_ne_nil h
    | cons c ds =>
        rw [h] at hcs
        obtain ⟨rfl, -⟩ := List.cons.inj hcs
        have hdigit : '-'.isDigit = true :=
          Nat.isDigit_of_mem_toDigits (b := 10) (n := n.natAbs) (by omega) (by omega)
            (by rw [h]; exact List.mem_cons_self)
        exact absurd hdigit (by decide)

theorem isBlank_of_start {c : Char} (hc : c = '-' ∨ c.isDigit = true) :
    Token.isBlank c = false := by
  rw [Token.isBlank]
  simp only [Bool.or_eq_false_iff, beq_eq_false_iff_ne]
  rcases hc with rfl | hc
  · decide
  · refine ⟨⟨⟨?_, ?_⟩, ?_⟩, ?_⟩ <;> (rintro rfl; revert hc; decide)

end Numeral

theorem Token.read_of_start {c : Char} (hc : c = '-' ∨ c.isDigit = true) (cs : List Char) :
    Token.read (c :: cs) = (Numeral.read (c :: cs)).map fun (n, rest) => (.number n, rest) := by
  have hne : ∀ d, (d = '-' ∨ d.isDigit = true) = False → ∀ ds, c :: cs = d :: ds → False := by
    intro d hd ds h
    obtain ⟨rfl, -⟩ := List.cons.inj h
    exact hd.mp hc
  rw [Token.read]
  all_goals exact fun ds => hne _ (by decide) _

/-- An integer of 64 bits, with or without sign, is the number that its numeral stands for. -/
theorem Number.ofNumeral?_ofInt {n : Int} (hlow : Int64.minValue.toInt ≤ n)
    (hhigh : n < UInt64.size) : Number.ofNumeral? (Numeral.ofInt n) = some (.integer n) := by
  have hwhole : Numeral.digitsValue (Numeral.ofInt n).whole = n.natAbs :=
    Numeral.digitsValue_toDigits n.natAbs
  have hplain : ((Numeral.ofInt n).fraction.isSome || (Numeral.ofInt n).exponent.isSome) = false :=
    rfl
  rw [ofNumeral?, hwhole, hplain]
  by_cases hn : n < 0
  · have habs : -(n.natAbs : Int) = n := by omega
    have hneg : (Numeral.ofInt n).negative = true := decide_eq_true hn
    rw [hneg, habs]
    simp only [Bool.false_eq_true, if_false, if_true]
    exact if_pos ⟨by omega, hlow⟩
  · have habs : (n.natAbs : Int) = n := by omega
    have hneg : (Numeral.ofInt n).negative = false := decide_eq_false hn
    rw [hneg, habs]
    simp only [Bool.false_eq_true, if_false]
    exact if_pos (by omega)

/-! ## Texts -/

namespace Quoted

/-- The mark that a character is written with. -/
def markOf (c : Char) : Mark :=
  if c < ' ' ∧ c ∉ ['\x08', '\x0c', '\n', '\r', '\t'] then .unit c.toNat else .char c

theorem unit?_control :
    ∀ n < 32, unit? '0' '0' (hexDigit (n / 16)) (hexDigit (n % 16)) = some n := by decide

theorem readMarks_escapedChar (acc : List Mark) (c : Char) (rest : List Char) :
    readMarks acc (escapedChar c ++ rest) = readMarks (markOf c :: acc) rest := by
  rw [escapedChar]
  split
  · subst c; rfl
  split
  · subst c; rfl
  split
  · subst c; rfl
  split
  · subst c; rfl
  split
  · subst c; rfl
  split
  · subst c; rfl
  split
  · subst c; rfl
  rename_i hquote hback h8 hc hn hr ht
  split
  · rename_i hctl
    have hlt : c.toNat < 32 := hctl
    have hmark : markOf c = .unit c.toNat := if_pos ⟨hctl, by simp [h8, hc, hn, hr, ht]⟩
    have hunit := unit?_control c.toNat hlt
    simp only [List.cons_append, List.nil_append, readMarks, hunit, hmark]
  · rename_i hctl
    have hmark : markOf c = .char c := if_neg fun h => hctl h.1
    rw [List.singleton_append, readMarks, if_neg (not_or.mpr ⟨hback, hctl⟩), hmark]
    · rintro rfl
      exact hquote rfl
    · rintro - - - - - rfl
      exact fun _ => hback rfl
    · rintro - - rfl
      exact fun _ => hback rfl

theorem readMarks_flatMap (cs : List Char) : ∀ (acc : List Mark) (rest : List Char),
    readMarks acc (cs.flatMap escapedChar ++ '"' :: rest) =
      some (acc.reverse ++ cs.map markOf, rest) := by
  induction cs with
  | nil =>
      intro acc rest
      simp [readMarks]
  | cons c cs ih =>
      intro acc rest
      rw [List.flatMap_cons, List.append_assoc, readMarks_escapedChar, ih]
      simp

/-- A unit that belongs to no pair stands for its character, whatever comes after it. -/
theorem decode_unit {u : Nat} (hu : u < 0xd800) (ms : List Mark) :
    decode (.unit u :: ms) = (decode ms).map (Char.ofNat u :: ·) := by
  have hhigh : isHigh u = false := by simp [isHigh, hu]
  have hlow : isLow u = false := by simp [isLow]; omega
  cases ms with
  | nil => simp [decode, hhigh, hlow]
  | cons m ms => cases m <;> simp [decode, hhigh, hlow]

theorem decode_map_markOf (cs : List Char) : decode (cs.map markOf) = some cs := by
  induction cs with
  | nil => rfl
  | cons c cs ih =>
      rw [List.map_cons, markOf]
      split
      · rename_i hctl
        have hlt : c.toNat < 32 := hctl.1
        rw [decode_unit (by omega), ih, Char.ofNat_toNat]
        rfl
      · rw [decode, ih]
        rfl

theorem read_quotedChars (s : String) (rest : List Char) :
    Token.read (quotedChars s ++ rest) = some (.text (some s), rest) := by
  rw [quotedChars, List.cons_append, List.cons_append, List.append_assoc, List.singleton_append,
    Token.read, Quoted.read, readMarks_flatMap, List.reverse_nil, List.nil_append]
  simp only [Option.map_some, decode_map_markOf, String.ofList_toList]

end Quoted

/-! ## The words of a text -/

namespace Token

/-- From the text, the reader takes the words and leaves the rest. -/
inductive Reads : List Char → List Token → List Char → Prop
  | done (cs : List Char) : Reads cs [] cs
  | blank {c : Char} {cs rest : List Char} {ts : List Token} :
      isBlank c = true → Reads cs ts rest → Reads (c :: cs) ts rest
  | word {c : Char} {cs cs' rest : List Char} {t : Token} {ts : List Token} :
      isBlank c = false → Token.read (c :: cs) = some (t, cs') → cs'.length ≤ cs.length →
      Reads cs' ts rest → Reads (c :: cs) (t :: ts) rest

namespace Reads

variable {cs cs' rest : List Char} {ts us : List Token}

theorem trans (h : Reads cs ts cs') (h' : Reads cs' us rest) : Reads cs (ts ++ us) rest := by
  induction h with
  | done cs => exact h'
  | blank hc _ ih => exact .blank hc (ih h')
  | word hc hread hle _ ih => exact .word hc hread hle (ih h')

theorem blanks {bs : List Char} (hbs : ∀ c ∈ bs, isBlank c = true) (cs : List Char) :
    Reads (bs ++ cs) [] cs := by
  induction bs with
  | nil => exact .done cs
  | cons b bs ih =>
      exact .blank (hbs b List.mem_cons_self) (ih fun c hc => hbs c (List.mem_cons_of_mem b hc))

theorem length_le (h : Reads cs ts rest) : ts.length + rest.length ≤ cs.length := by
  induction h with
  | done cs => simp
  | blank _ _ ih => exact Nat.le_succ_of_le ih
  | word _ _ hle _ ih =>
      simp only [List.length_cons]
      omega

theorem readAll_blank {c : Char} (hc : isBlank c = true) (fuel : Nat) (acc : List Token) :
    Token.readAll fuel acc (c :: cs) = Token.readAll fuel acc cs := by
  rw [readAll.eq_def, List.dropWhile_cons_of_pos hc, readAll.eq_def fuel acc cs]

theorem readAll_word {c : Char} {t : Token} (hc : isBlank c = false)
    (hread : Token.read (c :: cs) = some (t, cs')) (fuel : Nat) (acc : List Token) :
    Token.readAll (fuel + 1) acc (c :: cs) = Token.readAll fuel (t :: acc) cs' := by
  rw [readAll.eq_def, List.dropWhile_cons_of_neg (by simp [hc])]
  simp only [hread]

/-- The loop takes the words one after the other, one unit of fuel each. -/
theorem readAll (h : Reads cs ts rest) : ∀ (fuel : Nat) (acc : List Token),
    Token.readAll (ts.length + fuel) acc cs = Token.readAll fuel (ts.reverse ++ acc) rest := by
  induction h with
  | done cs =>
      intro fuel acc
      simp
  | blank hc _ ih =>
      intro fuel acc
      rw [readAll_blank hc, ih]
  | word hc hread _ _ ih =>
      intro fuel acc
      rw [List.length_cons, Nat.add_right_comm, readAll_word hc hread, ih, List.reverse_cons,
        List.append_assoc, List.singleton_append]

/-- A text of which nothing is left consists of its words. -/
theorem ofChars (h : Reads cs ts []) : Token.ofChars cs = some ts := by
  have hle : ts.length ≤ cs.length := by simpa using h.length_le
  obtain ⟨fuel, hfuel⟩ := Nat.exists_eq_add_of_le hle
  rw [Token.ofChars, hfuel, h.readAll fuel [], List.append_nil]
  rw [readAll.eq_def, List.reverse_reverse]
  rfl

end Reads

end Token

end Signoff.Json

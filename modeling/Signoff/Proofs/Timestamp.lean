/-
# `Signoff.Proofs.Timestamp` — a written point in time reads back

All parts of a point in time but one are numbers of a fixed width; a reader takes as many digits and
has the number (`readDigits_padded`).  The decimals of a second are the exception: zeros at their end
are not written, and the reader makes up for them by the unit that it gives every decimal
(`decimals_strip`).  A reading that is valid is written in one way only, and read back from it
(`read_chars`, `Timestamp.ofText?_text`).
-/
import Mathlib.Data.List.TakeWhile
import Mathlib.Data.Nat.Digits.Defs
import Signoff.Timestamp

namespace Signoff

namespace ClockReading

/-! ## Numbers of a fixed width -/

theorem digit?_of_isDigit {c : Char} (hc : c.isDigit = true) :
    digit? c = some (c.toNat - '0'.toNat) := if_pos hc

theorem readDigits_append {ds : List Char} (hds : ∀ c ∈ ds, c.isDigit = true) :
    ∀ (v : Nat) (rest : List Char),
      readDigits ds.length v (ds ++ rest) = some (Nat.ofDigitChars 10 ds v, rest) := by
  induction ds with
  | nil => exact fun _ _ => rfl
  | cons c cs ih =>
      intro v rest
      have hc := digit?_of_isDigit (hds c List.mem_cons_self)
      have hcs := ih fun d hd => hds d (List.mem_cons_of_mem c hd)
      rw [List.length_cons, List.cons_append, readDigits, hc]
      simp only [hcs, Nat.ofDigitChars_cons, Nat.mul_comm]

section Padded

variable {width n : Nat}

theorem isDigit_of_mem_padded {c : Char} (hc : c ∈ padded width n) : c.isDigit = true := by
  rcases List.mem_append.mp hc with hc | hc
  · rw [List.eq_of_mem_replicate hc]
    rfl
  · exact Nat.isDigit_of_mem_toDigits (by omega) (by omega) hc

theorem length_padded (hwidth : 0 < width) (hn : n < 10 ^ width) :
    (padded width n).length = width := by
  have hle : (Nat.toDigits 10 n).length ≤ width :=
    (Nat.length_toDigits_le_iff (by omega) hwidth).mpr hn
  rw [padded, List.length_append, List.length_replicate]
  omega

theorem ofDigitChars_padded : Nat.ofDigitChars 10 (padded width n) 0 = n := by
  rw [padded, Nat.ofDigitChars_append, Nat.ofDigitChars_replicate_zero, Nat.mul_zero,
    Nat.ofDigitChars_ten_toDigits]

theorem readDigits_padded (hwidth : 0 < width) (hn : n < 10 ^ width) (rest : List Char) :
    readDigits width 0 (padded width n ++ rest) = some (n, rest) := by
  have hdigits : ∀ c ∈ padded width n, c.isDigit = true := fun c hc => isDigit_of_mem_padded hc
  have hread := readDigits_append hdigits 0 rest
  rwa [length_padded hwidth hn, ofDigitChars_padded] at hread

end Padded

/-! ## Decimals -/

/-- The value of decimals, the unit of the first one given. -/
def decimals : Nat → List Char → Nat
  | _, [] => 0
  | unit, c :: cs => (c.toNat - '0'.toNat) * unit + decimals (unit / 10) cs

/-- With as many decimals as the unit has places, the value is the number that they spell. -/
theorem decimals_eq_ofDigitChars : ∀ (k : Nat) (ds : List Char), ds.length = k + 1 →
    decimals (10 ^ k) ds = Nat.ofDigitChars 10 ds 0
  | 0, [c], _ => by simp [decimals, Nat.ofDigitChars_cons]
  | k + 1, c :: cs, h => by
      have hlength : cs.length = k + 1 := by simpa using h
      have hunit : 10 ^ (k + 1) / 10 = 10 ^ k := by
        rw [Nat.pow_succ, Nat.mul_div_cancel _ (by omega)]
      have hrest := @Nat.ofDigitChars_eq_ofDigitChars_zero cs (c.toNat - '0'.toNat)
      rw [decimals, hunit, decimals_eq_ofDigitChars k cs hlength, Nat.ofDigitChars_cons,
        Nat.mul_zero, Nat.zero_add, hrest, hlength, Nat.mul_comm]

theorem decimals_append_zeros {zs : List Char} (hzs : ∀ c ∈ zs, c = '0') :
    ∀ (unit : Nat) (ds : List Char), decimals unit (ds ++ zs) = decimals unit ds
  | unit, d :: ds => by
      rw [List.cons_append, decimals, decimals, decimals_append_zeros hzs]
  | unit, [] => by
      induction zs generalizing unit with
      | nil => rfl
      | cons z zs ih =>
          have hrest := ih (fun c hc => hzs c (List.mem_cons_of_mem z hc)) (unit / 10)
          rw [List.nil_append] at hrest ⊢
          rw [decimals.eq_2, hrest, hzs z List.mem_cons_self]
          simp [decimals]

theorem readDecimals_append {ds rest : List Char} (hds : ∀ c ∈ ds, c.isDigit = true)
    (hrest : ∀ c ∈ rest.head?, c.isDigit = false) : ∀ value unit : Nat,
      readDecimals value unit (ds ++ rest) = (value + decimals unit ds, rest) := by
  induction ds with
  | nil =>
      intro value unit
      cases rest with
      | nil => rfl
      | cons c cs =>
          have hc : digit? c = none := if_neg (by simp [hrest c rfl])
          rw [List.nil_append, readDecimals, hc]
          rfl
  | cons c cs ih =>
      intro value unit
      have hc := digit?_of_isDigit (hds c List.mem_cons_self)
      have hcs := ih fun d hd => hds d (List.mem_cons_of_mem c hd)
      rw [List.cons_append, readDecimals, hc]
      simp only [hcs, decimals, Nat.add_assoc]

theorem exists_padded_eq (ns : Nat) : ∃ zs, (∀ c ∈ zs, c = '0') ∧
    padded 9 ns = ((padded 9 ns).reverse.dropWhile (· == '0')).reverse ++ zs := by
  refine ⟨((padded 9 ns).reverse.takeWhile (· == '0')).reverse, ?_, ?_⟩
  · intro c hc
    have hzero := List.mem_takeWhile_imp (p := (· == '0')) (List.mem_reverse.mp hc)
    exact beq_iff_eq.mp hzero
  · rw [← List.reverse_append, List.takeWhile_append_dropWhile, List.reverse_reverse]

/-- The decimals that are written have the value of all nine. -/
theorem decimals_strip {ns : Nat} (hns : ns < 10 ^ 9) :
    decimals (10 ^ 8) ((padded 9 ns).reverse.dropWhile (· == '0')).reverse = ns := by
  obtain ⟨zs, hzs, hpadded⟩ := exists_padded_eq ns
  have hall : decimals (10 ^ 8) (padded 9 ns) = ns := by
    rw [decimals_eq_ofDigitChars 8 _ (length_padded (by omega) hns), ofDigitChars_padded]
  rwa [hpadded, decimals_append_zeros hzs] at hall

theorem readFraction_fractionChars {ns : Nat} (hns : ns < 10 ^ 9) {rest : List Char}
    (hrest : ∀ c ∈ rest.head?, c.isDigit = false ∧ c ≠ '.') :
    readFraction (fractionChars ns ++ rest) = some (ns, rest) := by
  rw [fractionChars]
  split
  · rename_i hzero
    subst hzero
    rw [List.nil_append, readFraction]
    · rintro c cs rfl
      exact (hrest '.' rfl).2 rfl
    · rintro rfl
      exact (hrest '.' rfl).2 rfl
  · rename_i hne
    have hvalue := decimals_strip hns
    have hdigits : ∀ c ∈ ((padded 9 ns).reverse.dropWhile (· == '0')).reverse,
        c.isDigit = true := by
      intro c hc
      have hmem := (List.dropWhile_suffix _).subset (List.mem_reverse.mp hc)
      exact isDigit_of_mem_padded (List.mem_reverse.mp hmem)
    generalize ((padded 9 ns).reverse.dropWhile (· == '0')).reverse = ds at hvalue hdigits ⊢
    cases ds with
    | nil => exact absurd hvalue.symm hne
    | cons c cs =>
        have hc := digit?_of_isDigit (hdigits c List.mem_cons_self)
        have hcs := readDecimals_append (fun d hd => hdigits d (List.mem_cons_of_mem c hd))
          (fun d hd => (hrest d hd).1)
        rw [List.cons_append, List.cons_append, readFraction, hc]
        simp only [hcs]
        rw [← hvalue]
        rfl

/-! ## The offset -/

theorem readOffset_offsetChars {r : ClockReading} (hhour : r.offsetHour ≤ 23)
    (hminute : r.offsetMinute ≤ 59)
    (hwest : ¬ (r.west = true ∧ r.offsetHour = 0 ∧ r.offsetMinute = 0)) :
    readOffset (offsetChars r) = some (r.west, r.offsetHour, r.offsetMinute) := by
  rw [offsetChars]
  split
  · rename_i hzero
    have hw : r.west = false := by
      cases hw : r.west with
      | false => rfl
      | true => exact absurd ⟨hw, hzero⟩ hwest
    rw [hw, hzero.1, hzero.2]
    rfl
  · have htime : ∀ west : Bool, ¬ (west = true ∧ r.offsetHour = 0 ∧ r.offsetMinute = 0) →
        readOffsetTime west (padded 2 r.offsetHour ++ ':' :: padded 2 r.offsetMinute) =
          some (west, r.offsetHour, r.offsetMinute) := by
      intro west hw
      have hm := readDigits_padded (n := r.offsetMinute) (by omega : 0 < 2) (by omega) []
      rw [List.append_nil] at hm
      rw [readOffsetTime, readDigits_padded (by omega) (by omega)]
      simp only [Option.bind_eq_bind, Option.bind_some, skip, if_true, hm]
      cases west with
      | false => rfl
      | true =>
          have hne : ¬ (r.offsetHour = 0 ∧ r.offsetMinute = 0) := fun h => hw ⟨rfl, h⟩
          simpa using not_and_or.mp hne
    cases hw : r.west with
    | false => exact htime false (by simp)
    | true => exact htime true (hw ▸ hwest)

/-! ## Readings -/

theorem skip_self (c : Char) (cs : List Char) : skip c (c :: cs) = some cs := if_pos rfl

theorem skipSeparator_T (cs : List Char) : skipSeparator ('T' :: cs) = some cs := rfl

theorem head_offsetChars (r : ClockReading) :
    ∀ c ∈ (offsetChars r).head?, c.isDigit = false ∧ c ≠ '.' := by
  intro c hc
  rw [offsetChars] at hc
  split at hc
  · obtain rfl := Option.some.inj hc
    decide
  · cases hw : r.west with
    | false =>
        rw [hw] at hc
        obtain rfl := Option.some.inj hc
        decide
    | true =>
        rw [hw] at hc
        obtain rfl := Option.some.inj hc
        decide

theorem read_chars {r : ClockReading} (h : r.isValid = true) : read r.chars = some r := by
  simp only [isValid, Bool.and_eq_true, decide_eq_true_eq, Bool.not_eq_true', Bool.and_eq_false_iff,
    beq_eq_false_iff_ne, ne_eq] at h
  obtain ⟨⟨⟨⟨⟨⟨⟨⟨⟨⟨⟨hyear, -⟩, hmonth⟩, -⟩, hday⟩, hhour⟩, hminute⟩, hsecond⟩, hns⟩, hoffsetHour⟩,
    hoffsetMinute⟩, hwest⟩ := h
  have hdays : daysInMonth r.year r.month ≤ 31 := by
    rw [daysInMonth]
    split <;> [split; split] <;> omega
  have hoffset := readOffset_offsetChars hoffsetHour hoffsetMinute (by
    rintro ⟨hw, hh, hm⟩
    simp [hw, hh, hm] at hwest)
  rw [chars, read]
  simp only [List.append_assoc, List.cons_append, Option.bind_eq_bind, Option.bind_some,
    skip_self, skipSeparator_T, readDigits_padded (by omega : 0 < 4) (by omega : r.year < 10 ^ 4),
    readDigits_padded (by omega : 0 < 2) (by omega : r.month < 10 ^ 2),
    readDigits_padded (by omega : 0 < 2) (by omega : r.day < 10 ^ 2),
    readDigits_padded (by omega : 0 < 2) (by omega : r.hour < 10 ^ 2),
    readDigits_padded (by omega : 0 < 2) (by omega : r.minute < 10 ^ 2),
    readDigits_padded (by omega : 0 < 2) (by omega : r.second < 10 ^ 2),
    readFraction_fractionChars (by omega : r.nanosecond < 10 ^ 9) (head_offsetChars r), hoffset]
  rfl

end ClockReading

/-- **A written point in time reads back.** -/
theorem Timestamp.ofText?_text (t : Timestamp) : Timestamp.ofText? t.text = some t := by
  have hsecond : t.reading.second ≠ 60 := by
    have h := t.valid
    simp only [ClockReading.isValid, Bool.and_eq_true, decide_eq_true_eq] at h
    omega
  have hleap : t.reading.resolveLeap? = some t.reading := if_neg hsecond
  rw [ofText?, text, String.toList_ofList, ClockReading.read_chars t.valid]
  simp only [Option.bind_eq_bind, Option.bind_some, hleap, ofReading?]
  exact dif_pos t.valid

end Signoff

/-
# `Signoff.Proofs.CountTexts` — a count may be given as a number or as its text

The decimal text of an integer has no blank in it, is no spelling of "not applicable", and spells the
integer and nothing else, if it is not negative (`spells_decimalInt_iff`).  So a number and its text
declare the same count, or are reported with the same words.  Of all other texts, what they declare is
said by their characters alone: `Numerals` is an optional plus before digits of some value, where the
value is the one that digits have anywhere, not the one that the reader computes.
-/
import Signoff.Proofs.Counts
import Signoff.Proofs.Json.Words
import Signoff.Proofs.Text.Blank

namespace Signoff.Config

open Text (isBlank Trimmed)

/-- An optional plus, and digits of this value. -/
def Numerals (t : List Char) (n : Nat) : Prop :=
  ∃ plus ds, (plus = [] ∨ plus = ['+']) ∧ t = plus ++ ds ∧ ds ≠ [] ∧
    (∀ c ∈ ds, c.isDigit = true) ∧ Nat.ofDigitChars 10 ds 0 = n

variable {n : Int} {k : Nat} {c : Char}

/-! ## The text of an integer -/

theorem isBlank_of_isDigit (h : c.isDigit = true) : isBlank c = false := by
  have hdigit : 48 ≤ c.toNat ∧ c.toNat ≤ 57 := by
    rw [Char.isDigit, Bool.and_eq_true, decide_eq_true_eq, decide_eq_true_eq] at h
    exact h
  have hapart : ∀ r ∈ Text.blankSet.ranges, r.2 < 48 ∨ 57 < r.1 := by decide
  rw [← Bool.not_eq_true, isBlank, Text.CharSet.contains_iff]
  rintro ⟨r, hr, hlow, hhigh⟩
  have hr := hapart r hr
  omega

theorem toList_decimalInt (n : Int) :
    (Text.decimalInt n).toList = (Json.Number.integer n).chars := by
  rw [Text.decimalInt, Text.decimal, Text.decimalChars, Json.Number.chars]
  split
  · rw [String.toList_append]
    exact congrArg ('-' :: ·) String.toList_ofList
  · exact String.toList_ofList

theorem isDigit_of_mem_toDigits {m : Nat} (h : c ∈ Nat.toDigits 10 m) : c.isDigit = true :=
  Nat.isDigit_of_mem_toDigits (by omega) (by omega) h

theorem mem_decimalInt (h : c ∈ (Text.decimalInt n).toList) : c = '-' ∨ c.isDigit = true := by
  rw [toList_decimalInt, Json.Number.chars] at h
  split at h
  · rcases List.mem_cons.mp h with h | h
    · exact .inl h
    · exact .inr (isDigit_of_mem_toDigits h)
  · exact .inr (isDigit_of_mem_toDigits h)

theorem trim_decimalInt (n : Int) : Text.trim (Text.decimalInt n) = Text.decimalInt n := by
  have hblank : ∀ c ∈ (Text.decimalInt n).toList, isBlank c = false := by
    intro c hc
    rcases mem_decimalInt hc with rfl | hdigit
    · decide
    · exact isBlank_of_isDigit hdigit
  have htrimmed : Trimmed (Text.decimalInt n).toList :=
    ⟨fun c hc => hblank c (List.mem_of_mem_head? hc),
      fun c hc => hblank c (List.mem_of_mem_getLast? hc)⟩
  rw [Text.trim, htrimmed.trimChars_eq, String.ofList_toList]

theorem not_mem_absentSpellings (n : Int) : Text.decimalInt n ∉ absentSpellings := by
  have hfirst : ∀ s ∈ absentSpellings,
      s.toList.head?.all (fun c => c != '-' && !c.isDigit) = true := by decide
  obtain ⟨c, cs, hchars, hc⟩ := Json.Numeral.exists_chars_eq_cons n
  rw [← toList_decimalInt] at hchars
  intro habsent
  have hstart := hfirst _ habsent
  rw [hchars] at hstart
  rcases hc with rfl | hdigit
  · exact absurd hstart (by simp)
  · exact absurd hstart (by simp [hdigit])

theorem spells_decimalInt_iff : Spells (Text.decimalInt n).toList k ↔ n = k := by
  rw [toList_decimalInt, Json.Number.chars]
  constructor
  · intro h
    split at h
    · -- a sign is neither a digit nor a plus
      generalize hchars : '-' :: Nat.toDigits 10 n.natAbs = t at h
      cases h with
      | digits _ hall =>
          subst hchars
          exact absurd (hall '-' List.mem_cons_self) (by decide)
      | plus => cases hchars
    · generalize hchars : Nat.toDigits 10 n.natAbs = t at h
      cases h with
      | digits =>
          rw [← hchars, Json.Numeral.digitsValue_toDigits]
          omega
      | plus =>
          have hplus : '+' ∈ Nat.toDigits 10 n.natAbs := by
            rw [hchars]
            exact List.mem_cons_self
          exact absurd (isDigit_of_mem_toDigits hplus) (by decide)
  · rintro rfl
    have h : Spells (Nat.toDigits 10 k) (Json.Numeral.digitsValue (Nat.toDigits 10 k)) :=
      .digits Nat.toDigits_ne_nil fun _ => isDigit_of_mem_toDigits
    rw [Json.Numeral.digitsValue_toDigits] at h
    rwa [if_neg (by omega)]

/-! ## Numbers and texts -/

variable {m : Int64} {field : String} {v : UInt32} {o : Option UInt32}

/-- A number and its text declare the same. -/
theorem declares_decimalInt_iff :
    Declares (some (.text (Text.decimalInt m.toInt))) o ↔ Declares (some (.number m)) o := by
  rw [declares_number_iff]
  constructor
  · intro h
    cases h with
    | absent habsent =>
        rw [trim_decimalInt] at habsent
        exact absurd habsent (not_mem_absentSpellings m.toInt)
    | spelled hspells =>
        rw [trim_decimalInt, spells_decimalInt_iff] at hspells
        exact ⟨_, hspells, rfl⟩
  · rintro ⟨v, hm, rfl⟩
    refine .spelled ?_
    rw [trim_decimalInt, spells_decimalInt_iff]
    exact hm

theorem parseCount_congr {x y : CountValue} (hshown : x.shown = y.shown)
    (hdeclares : ∀ o, Declares (some x) o ↔ Declares (some y) o) :
    parseCount field (some x) = parseCount field (some y) := by
  cases hy : parseCount field (some y) with
  | ok o =>
      rw [parseCount_eq_ok_iff] at hy ⊢
      exact (hdeclares o).mpr hy
  | error err =>
      obtain ⟨z, hz, hnone, herr⟩ := parseCount_eq_error_iff.mp hy
      obtain rfl := Option.some.inj hz
      refine parseCount_eq_error_iff.mpr ⟨x, rfl, fun o ho => hnone o ((hdeclares o).mp ho), ?_⟩
      rw [herr, hshown]

theorem parseCount_number (field : String) (m : Int64) :
    parseCount field (some (.number m)) =
      if 0 ≤ m.toInt ∧ m.toInt < UInt32.size then .ok (some (UInt32.ofNat m.toInt.toNat))
      else .error (.invalidCount field (Text.decimalInt m.toInt)) := by
  split
  · next h =>
      have hsize : m.toInt.toNat < UInt32.size := by omega
      refine parseCount_eq_ok_iff.mpr (.number ?_)
      rw [UInt32.toNat_ofNat_of_lt' hsize]
      omega
  · next h =>
      refine parseCount_eq_error_iff.mpr ⟨_, rfl, fun o ho => ?_, rfl⟩
      obtain ⟨v, hm, -⟩ := declares_number_iff.mp ho
      have hv := v.toNat_lt_size
      omega

/-! ## All texts -/

theorem digitsValue_eq_ofDigitChars (ds : List Char) :
    Json.Numeral.digitsValue ds = Nat.ofDigitChars 10 ds 0 := by
  rw [Nat.ofDigitChars_eq_foldl, Json.Numeral.digitsValue]
  simp only [Json.Numeral.digitValue, Nat.mul_comm]

theorem spells_iff_numerals {t : List Char} : Spells t k ↔ Numerals t k := by
  constructor
  · intro h
    cases h with
    | digits hne hall =>
        exact ⟨[], t, .inl rfl, rfl, hne, hall, (digitsValue_eq_ofDigitChars t).symm⟩
    | @plus ds hne hall =>
        exact ⟨['+'], ds, .inr rfl, rfl, hne, hall, (digitsValue_eq_ofDigitChars ds).symm⟩
  · rintro ⟨plus, ds, rfl | rfl, rfl, hne, hall, rfl⟩
    · rw [← digitsValue_eq_ofDigitChars]
      exact .digits hne hall
    · rw [← digitsValue_eq_ofDigitChars]
      exact .plus hne hall

theorem parseCount_text_eq_none_iff {s : String} :
    parseCount field (some (.text s)) = .ok none ↔ Text.trim s ∈ absentSpellings := by
  rw [parseCount_eq_ok_iff]
  constructor
  · intro h
    cases h with
    | absent habsent => exact habsent
  · exact .absent

theorem parseCount_text_eq_some_iff {s : String} :
    parseCount field (some (.text s)) = .ok (some v) ↔ Numerals (Text.trim s).toList v.toNat := by
  rw [parseCount_eq_ok_iff, ← spells_iff_numerals]
  constructor
  · intro h
    cases h with
    | spelled hspells => exact hspells
  · exact .spelled

theorem parseCount_text_eq_error_iff {s : String} {err : ConfigError} :
    parseCount field (some (.text s)) = .error err ↔
      Text.trim s ∉ absentSpellings ∧ (∀ v : UInt32, ¬ Numerals (Text.trim s).toList v.toNat) ∧
        err = .invalidCount field s := by
  have hnone : parseCount field (some (.text s)) = .ok none ↔ _ := parseCount_text_eq_none_iff
  have hsome : ∀ v, parseCount field (some (.text s)) = .ok (some v) ↔ _ :=
    fun _ => parseCount_text_eq_some_iff
  simp only [← hnone, ← hsome]
  constructor
  · intro h
    obtain ⟨x, hx, -, rfl⟩ := parseCount_eq_error_iff.mp h
    obtain rfl := Option.some.inj hx
    rw [h]
    exact ⟨nofun, nofun, rfl⟩
  · rintro ⟨hnone, hsome, rfl⟩
    cases h : parseCount field (some (.text s)) with
    | ok o =>
        cases o with
        | none => exact absurd h hnone
        | some v => exact absurd h (hsome v)
    | error err =>
        obtain ⟨x, hx, -, rfl⟩ := parseCount_eq_error_iff.mp h
        obtain rfl := Option.some.inj hx
        rfl

/-- **Counts.**  A number is a count if 32 bits hold it, and is reported otherwise; so is its decimal
text, with the same words.  A text is trimmed: in a spelling of "not applicable" it declares no
count, as an optional plus before digits it declares their value if 32 bits hold it, and otherwise it
is reported as it was written. -/
theorem parseCount_exact (field : String) :
    (∀ m : Int64,
      parseCount field (some (.text (Text.decimalInt m.toInt))) =
          parseCount field (some (.number m)) ∧
        parseCount field (some (.number m)) =
          if 0 ≤ m.toInt ∧ m.toInt < UInt32.size then .ok (some (UInt32.ofNat m.toInt.toNat))
          else .error (.invalidCount field (Text.decimalInt m.toInt))) ∧
      ∀ s : String,
        (parseCount field (some (.text s)) = .ok none ↔ Text.trim s ∈ absentSpellings) ∧
          (∀ v : UInt32, parseCount field (some (.text s)) = .ok (some v) ↔
            Numerals (Text.trim s).toList v.toNat) ∧
          ∀ err, parseCount field (some (.text s)) = .error err ↔
            Text.trim s ∉ absentSpellings ∧
              (∀ v : UInt32, ¬ Numerals (Text.trim s).toList v.toNat) ∧
              err = .invalidCount field s :=
  ⟨fun m => ⟨parseCount_congr rfl fun _ => declares_decimalInt_iff, parseCount_number field m⟩,
    fun _ => ⟨parseCount_text_eq_none_iff, fun _ => parseCount_text_eq_some_iff,
      fun _ => parseCount_text_eq_error_iff⟩⟩

end Signoff.Config

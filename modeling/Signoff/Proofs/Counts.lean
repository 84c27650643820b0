/-
# `Signoff.Proofs.Counts` — which settings declare a count, and which

A count is written as a number or as a text.  `Declares` says what a setting stands for, without
saying how it is read: a number stands for itself if 32 bits hold it, a text, trimmed, for "not
applicable" in one of its spellings or for the value of its digits.  The reader takes exactly these
settings (`parseCount_eq_ok_iff`) and reports every other one as it was written
(`parseCount_eq_error_iff`).
-/
import Signoff.Config.Resolution
import Signoff.Proofs.Firsts

namespace Signoff.Config

/-! ## Spellings -/

/-- The spellings of "not applicable", in any mixture of the ASCII cases. -/
def absentSpellings : List String :=
  ["", "n/a", "n/A", "N/a", "N/A", "na", "nA", "Na", "NA"]

/-- The text is decimal digits, with an optional plus before them, and this is their value. -/
inductive Spells : List Char → Nat → Prop
  | digits {ds : List Char} : ds ≠ [] → (∀ c ∈ ds, c.isDigit = true) →
      Spells ds (Json.Numeral.digitsValue ds)
  | plus {ds : List Char} : ds ≠ [] → (∀ c ∈ ds, c.isDigit = true) →
      Spells ('+' :: ds) (Json.Numeral.digitsValue ds)

/-- What the setting of a count stands for. -/
inductive Declares : Option CountValue → Option UInt32 → Prop
  | missing : Declares none none
  | number {n : Int64} {v : UInt32} : n.toInt = v.toNat → Declares (some (.number n)) (some v)
  | absent {s : String} : Text.trim s ∈ absentSpellings → Declares (some (.text s)) none
  | spelled {s : String} {v : UInt32} : Spells (Text.trim s).toList v.toNat →
      Declares (some (.text s)) (some v)

/-- The setting as it is reported. -/
def CountValue.shown : CountValue → String
  | .number n => Text.decimalInt n.toInt
  | .text s => s

/-! ## Letters -/

theorem toNat_toLower (c : Char) :
    c.toLower.toNat = if 65 ≤ c.toNat ∧ c.toNat ≤ 90 then c.toNat + 32 else c.toNat := by
  have hletter : c.val ≥ 'A'.val ∧ c.val ≤ 'Z'.val ↔ 65 ≤ c.toNat ∧ c.toNat ≤ 90 := Iff.rfl
  by_cases h : 65 ≤ c.toNat ∧ c.toNat ≤ 90
  · have hval : c.toLower.val = c.val + ('a'.val - 'A'.val) :=
      congrArg Char.val (dif_pos (hletter.mpr h))
    rw [if_pos h]
    show c.toLower.val.toNat = c.toNat + 32
    rw [hval, UInt32.toNat_add]
    show (c.toNat + 32) % 4294967296 = c.toNat + 32
    omega
  · have hsame : c.toLower = c := dif_neg (mt hletter.mp h)
    rw [if_neg h, hsame]

theorem toLower_eq_letter {c low up : Char} (hlow : 97 ≤ low.toNat ∧ low.toNat ≤ 122)
    (hup : up.toNat + 32 = low.toNat) : c.toLower = low ↔ c = low ∨ c = up := by
  rw [← Char.toNat_inj, ← Char.toNat_inj, ← Char.toNat_inj, toNat_toLower]
  split <;> omega

theorem toLower_eq_slash {c : Char} : c.toLower = '/' ↔ c = '/' := by
  have hslash : '/'.toNat = 47 := rfl
  rw [← Char.toNat_inj, ← Char.toNat_inj, toNat_toLower, hslash]
  split <;> omega

theorem isAbsent_iff {t : List Char} : isAbsent t = true ↔ String.ofList t ∈ absentSpellings := by
  have hn {c : Char} : c.toLower = 'n' ↔ c = 'n' ∨ c = 'N' :=
    toLower_eq_letter (by decide) (by decide)
  have ha {c : Char} : c.toLower = 'a' ↔ c = 'a' ∨ c = 'A' :=
    toLower_eq_letter (by decide) (by decide)
  constructor
  · intro h
    simp only [isAbsent, Bool.or_eq_true, beq_iff_eq, List.map_eq_cons_iff, List.map_eq_nil_iff]
      at h
    rcases h with ((rfl | ⟨n, _, rfl, hn', _, _, rfl, hs, a, _, rfl, ha', rfl⟩) |
      ⟨n, _, rfl, hn', a, _, rfl, ha', rfl⟩)
    · decide
    · obtain rfl := toLower_eq_slash.mp hs
      rcases hn.mp hn' with rfl | rfl <;> rcases ha.mp ha' with rfl | rfl <;> decide
    · rcases hn.mp hn' with rfl | rfl <;> rcases ha.mp ha' with rfl | rfl <;> decide
  · intro h
    have hall : ∀ s ∈ absentSpellings, isAbsent s.toList = true := by decide
    have ht := hall _ h
    rwa [String.toList_ofList] at ht

/-! ## Numbers -/

theorem natural?_plus (ds : List Char) :
    natural? ('+' :: ds) =
      if ds ≠ [] ∧ ds.all Char.isDigit then some (Json.Numeral.digitsValue ds) else none :=
  rfl

theorem natural?_of_no_plus {t : List Char} (h : ∀ ds, t ≠ '+' :: ds) :
    natural? t =
      if t ≠ [] ∧ t.all Char.isDigit then some (Json.Numeral.digitsValue t) else none := by
  rw [natural?]
  exact h

theorem natural?_eq_some_iff {t : List Char} {n : Nat} : natural? t = some n ↔ Spells t n := by
  by_cases h : ∃ ds, t = '+' :: ds
  · obtain ⟨ds, rfl⟩ := h
    rw [natural?_plus, Option.ite_none_right_eq_some, Option.some.injEq, List.all_eq_true]
    constructor
    · rintro ⟨⟨hne, hall⟩, rfl⟩
      exact .plus hne hall
    · rintro (⟨-, hall⟩ | ⟨hne, hall⟩)
      · exact absurd (hall '+' List.mem_cons_self) (by decide)
      · exact ⟨⟨hne, hall⟩, rfl⟩
  · have hplus := not_exists.mp h
    rw [natural?_of_no_plus hplus, Option.ite_none_right_eq_some, Option.some.injEq,
      List.all_eq_true]
    constructor
    · rintro ⟨⟨hne, hall⟩, rfl⟩
      exact .digits hne hall
    · rintro (⟨hne, hall⟩ | @⟨ds, -, -⟩)
      · exact ⟨⟨hne, hall⟩, rfl⟩
      · exact absurd rfl (hplus ds)

theorem count?_eq_some_iff {n : Nat} {v : UInt32} : count? n = some v ↔ n = v.toNat := by
  rw [count?, Option.ite_none_right_eq_some, Option.some.injEq]
  constructor
  · rintro ⟨hn, rfl⟩
    exact (UInt32.toNat_ofNat_of_lt' hn).symm
  · rintro rfl
    exact ⟨v.toNat_lt, UInt32.ofNat_toNat⟩

theorem Spells.not_isAbsent {t : List Char} {n : Nat} (h : Spells t n) : isAbsent t = false := by
  rw [← Bool.not_eq_true, isAbsent_iff]
  intro habsent
  have hnone : ∀ s ∈ absentSpellings, natural? s.toList = none := by decide
  have ht := hnone _ habsent
  rw [String.toList_ofList, natural?_eq_some_iff.mpr h] at ht
  cases ht

/-! ## Settings -/

section Settings

variable {field : String} {setting : Option CountValue} {o : Option UInt32} {err : ConfigError}

theorem number?_eq_some_iff {n : Int64} {v : UInt32} :
    (if n.toInt < 0 then none else count? n.toInt.toNat) = some v ↔ n.toInt = v.toNat := by
  rw [Option.ite_none_left_eq_some, count?_eq_some_iff]
  omega

theorem spelled?_eq_some_iff {t : List Char} {v : UInt32} :
    (natural? t).bind count? = some v ↔ Spells t v.toNat := by
  rw [Option.bind_eq_some_iff]
  constructor
  · rintro ⟨n, hn, hv⟩
    obtain rfl := count?_eq_some_iff.mp hv
    exact natural?_eq_some_iff.mp hn
  · intro h
    exact ⟨v.toNat, natural?_eq_some_iff.mpr h, count?_eq_some_iff.mpr rfl⟩

theorem declares_number_iff {n : Int64} :
    Declares (some (.number n)) o ↔ ∃ v, n.toInt = v.toNat ∧ o = some v := by
  constructor
  · rintro (_ | hn)
    exact ⟨_, hn, rfl⟩
  · rintro ⟨v, hn, rfl⟩
    exact .number hn

theorem declares_text_iff {s : String} :
    Declares (some (.text s)) o ↔
      (isAbsent (Text.trimChars s.toList) = true ∧ o = none) ∨
        ∃ v, Spells (Text.trimChars s.toList) v.toNat ∧ o = some v := by
  have htrim : (Text.trim s).toList = Text.trimChars s.toList := String.toList_ofList
  constructor
  · rintro (_ | _ | habsent | hspells)
    · exact .inl ⟨isAbsent_iff.mpr habsent, rfl⟩
    · exact .inr ⟨_, htrim ▸ hspells, rfl⟩
  · rintro (⟨habsent, rfl⟩ | ⟨v, hspells, rfl⟩)
    · exact .absent (isAbsent_iff.mp habsent)
    · exact .spelled (htrim ▸ hspells)

/-- What is taken is what the setting declares. -/
theorem parseCount_eq_ok_iff : parseCount field setting = .ok o ↔ Declares setting o := by
  match setting with
  | none =>
      constructor
      · rintro ⟨⟩
        exact .missing
      · rintro ⟨⟩
        rfl
  | some (.number n) =>
      simp only [declares_number_iff, ← number?_eq_some_iff, parseCount]
      cases if n.toInt < 0 then none else count? n.toInt.toNat with
      | none => simp
      | some v => simp [eq_comm]
  | some (.text s) =>
      rw [declares_text_iff]
      cases habsent : isAbsent (Text.trimChars s.toList) with
      | true =>
          have hnone : ∀ v : UInt32, ¬ Spells (Text.trimChars s.toList) v.toNat := by
            intro v hspells
            rw [hspells.not_isAbsent] at habsent
            cases habsent
          simp [parseCount, habsent, hnone, eq_comm]
      | false =>
          simp only [← spelled?_eq_some_iff, parseCount, habsent]
          cases (natural? (Text.trimChars s.toList)).bind count? with
          | none => simp
          | some v => simp [eq_comm]

/-- A setting stands for one thing. -/
theorem Declares.unique {o' : Option UInt32} (h : Declares setting o) (h' : Declares setting o') :
    o = o' := by
  have hok : parseCount "" setting = .ok o := parseCount_eq_ok_iff.mpr h
  rw [parseCount_eq_ok_iff.mpr h'] at hok
  exact (Except.ok.inj hok).symm

theorem shown_of_parseCount (h : parseCount field setting = .error err) :
    ∃ v, setting = some v ∧ err = .invalidCount field v.shown := by
  match setting with
  | none => cases h
  | some (.number n) =>
      rw [parseCount] at h
      split at h
      · cases h
      · cases h
        exact ⟨_, rfl, rfl⟩
  | some (.text s) =>
      simp only [parseCount] at h
      split at h
      · cases h
      · split at h
        · cases h
        · cases h
          exact ⟨_, rfl, rfl⟩

/-- What is reported declares nothing. -/
theorem parseCount_eq_error_iff :
    parseCount field setting = .error err ↔
      ∃ v, setting = some v ∧ (∀ o, ¬ Declares setting o) ∧
        err = .invalidCount field v.shown := by
  constructor
  · intro h
    obtain ⟨v, hv, herr⟩ := shown_of_parseCount h
    refine ⟨v, hv, ?_, herr⟩
    intro o ho
    rw [parseCount_eq_ok_iff.mpr ho] at h
    cases h
  · rintro ⟨v, rfl, hnone, rfl⟩
    cases h : parseCount field (some v) with
    | ok o => exact absurd (parseCount_eq_ok_iff.mp h) (hnone o)
    | error err =>
        obtain ⟨v', hv', rfl⟩ := shown_of_parseCount h
        rw [Option.some.inj hv']

end Settings

end Signoff.Config

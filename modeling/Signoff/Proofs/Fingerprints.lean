/-
# `Signoff.Proofs.Fingerprints` — how far a fingerprint tells items apart

An item is recognised across runs by the digest of four fields that are joined by bars.  A bar
inside a field is joined as it stands, so the joined text keeps the pieces between the bars but not
the fields that they come from: two items have one canonical text exactly if they have the same
sequence of pieces (`Identity.canonical_eq_iff`).  What is lost is how many pieces the check and the
name had; items that agree in these numbers and in the text are the same (`Identity.eq_iff`).

The digest loses nothing beyond that, unless it takes one value on the two texts at hand.  Texts can
be read back from their bytes, and bytes from their hexadecimal digits.  That the digest never takes
a value twice cannot be assumed of all texts, of which there are more than values; so the
assumption is made for two of them (`Separates`).
-/
import Signoff.Fingerprint

namespace Signoff

/-! ## Bytes and their digits -/

theorem Digest.Sha256.hexDigit_inj :
    ∀ m < 16, ∀ n < 16, hexDigit m = hexDigit n → m = n := by decide

theorem Digest.Sha256.hex_inj {bs bs' : List UInt8} : hex bs = hex bs' ↔ bs = bs' := by
  rw [hex, hex, String.ofList_inj]
  induction bs generalizing bs' with
  | nil => cases bs' <;> simp
  | cons b bs ih =>
      cases bs' with
      | nil => simp
      | cons b' bs' =>
          simp only [List.flatMap_cons, List.cons_append, List.nil_append, List.cons.injEq, ih]
          have hlt (b : UInt8) : b.toNat / 16 < 16 := by
            have := b.toNat_lt
            omega
          have hmod (b : UInt8) : b.toNat % 16 < 16 := Nat.mod_lt _ (by decide)
          constructor
          · rintro ⟨hhigh, hlow, htail⟩
            have hhigh := hexDigit_inj _ (hlt b) _ (hlt b') hhigh
            have hlow := hexDigit_inj _ (hmod b) _ (hmod b') hlow
            refine ⟨UInt8.toNat_inj.mp ?_, htail⟩
            rw [← Nat.div_add_mod b.toNat 16, hhigh, hlow, Nat.div_add_mod]
          · rintro ⟨rfl, htail⟩
            exact ⟨rfl, rfl, htail⟩

namespace Fingerprint

def message (text : String) : List UInt8 := text.toList.flatMap String.utf8EncodeChar

theorem message_inj {s t : String} : message s = message t ↔ s = t := by
  have hbytes (s : String) : (message s).toByteArray = s.toByteArray := String.utf8Encode_toList
  constructor
  · intro h
    rw [← String.toByteArray_inj, ← hbytes, ← hbytes, h]
  · rintro rfl
    rfl

/-- The digest takes one value on the two texts only if they are the same. -/
def Separates (s t : String) : Prop :=
  Digest.Sha256.digest (message s) = Digest.Sha256.digest (message t) → message s = message t

/-! ## Pieces -/

/-- The number of bars in a text. -/
def bars (s : String) : Nat := s.toList.count '|'

/-- What stands between the bars of a text. -/
def pieces (s : String) : List (List Char) := s.toList.splitOn '|'

theorem pieces_inj {s t : String} : pieces s = pieces t ↔ s = t := by
  have hread (s : String) : ['|'].intercalate (pieces s) = s.toList := List.intercalate_splitOn '|'
  constructor
  · intro h
    rw [← String.toList_inj, ← hread s, ← hread t, h]
  · rintro rfl
    rfl

theorem pieces_bar (s t : String) : pieces (s ++ "|" ++ t) = pieces s ++ pieces t := by
  rw [pieces, String.toList_append, String.toList_append, List.append_assoc]
  exact List.splitOn_append_cons_self s.toList t.toList

theorem length_splitOn (cs : List Char) : (cs.splitOn '|').length = cs.count '|' + 1 := by
  induction cs with
  | nil => rfl
  | cons c cs ih =>
      rw [List.splitOn_cons_eq_if_modifyHead, List.count_cons]
      split
      · rw [List.length_cons, ih]
      · rw [List.length_modifyHead, ih]

theorem length_pieces (s : String) : (pieces s).length = bars s + 1 := length_splitOn s.toList

theorem pieces_tag (s : Severity) : pieces s.tag = [s.tag.toList] := by
  cases s <;> decide

theorem tag_inj {s t : Severity} : s.tag.toList = t.tag.toList ↔ s = t := by
  cases s <;> cases t <;> decide

/-! ## Items -/

/-- The fields that an item is recognised by. -/
@[ext]
structure Identity where
  checkId : String
  severity : Severity
  name : String
  reason : String
  deriving DecidableEq

namespace Identity

variable {i j : Identity}

def canonical (i : Identity) : String :=
  Fingerprint.canonical i.checkId i.severity i.name i.reason

def fingerprint (i : Identity) : String := ofItem i.checkId i.severity i.name i.reason

/-- The pieces of all fields, in order. -/
def pieces (i : Identity) : List (List Char) :=
  Fingerprint.pieces i.checkId ++
    i.severity.tag.toList :: (Fingerprint.pieces i.name ++ Fingerprint.pieces i.reason)

theorem pieces_canonical (i : Identity) : Fingerprint.pieces i.canonical = i.pieces := by
  rw [canonical, Fingerprint.canonical, pieces_bar, pieces_bar, pieces_bar, pieces_tag,
    List.append_assoc, List.append_assoc]
  rfl

/-- The canonical text keeps the pieces and nothing else. -/
theorem canonical_eq_iff : i.canonical = j.canonical ↔ i.pieces = j.pieces := by
  rw [← pieces_inj, pieces_canonical, pieces_canonical]

/-- The fields can be read off the canonical text if it is known how many pieces they have. -/
theorem eq_iff :
    i = j ↔ i.canonical = j.canonical ∧ bars i.checkId = bars j.checkId ∧
      bars i.name = bars j.name := by
  constructor
  · rintro rfl
    exact ⟨rfl, rfl, rfl⟩
  · rintro ⟨hcanonical, hcheckId, hname⟩
    have hlength {s t : String} (h : bars s = bars t) :
        (Fingerprint.pieces s).length = (Fingerprint.pieces t).length := by
      rw [length_pieces, length_pieces, h]
    have hpieces := canonical_eq_iff.mp hcanonical
    obtain ⟨hcheckId, hrest⟩ := List.append_inj hpieces (hlength hcheckId)
    obtain ⟨hseverity, hrest⟩ := List.cons.inj hrest
    obtain ⟨hname, hreason⟩ := List.append_inj hrest (hlength hname)
    exact Identity.ext (pieces_inj.mp hcheckId) (tag_inj.mp hseverity) (pieces_inj.mp hname)
      (pieces_inj.mp hreason)

theorem canonical_eq_iff_of_checkId (h : i.checkId = j.checkId) :
    i.canonical = j.canonical ↔
      i.severity = j.severity ∧ i.name ++ "|" ++ i.reason = j.name ++ "|" ++ j.reason := by
  rw [canonical_eq_iff, pieces, pieces, h, List.append_cancel_left_eq, List.cons.injEq, tag_inj,
    ← pieces_bar, ← pieces_bar, pieces_inj]

theorem fingerprint_eq_iff (h : Separates i.canonical j.canonical) :
    i.fingerprint = j.fingerprint ↔ i.canonical = j.canonical := by
  constructor
  · intro hfingerprint
    exact message_inj.mp (h (Digest.Sha256.hex_inj.mp hfingerprint))
  · intro hcanonical
    show Digest.Sha256.hex (Digest.Sha256.digest (message i.canonical)) = _
    rw [hcanonical]
    rfl

/-- **Fingerprints.**  Two items have one canonical text exactly if they have the same pieces; items
that differ but have as many bars in their checks and in their names have different texts; items of
one check have one text only if they have one severity and `name|reason` reads the same.  The
fingerprints are as different as the texts, unless the digest takes one value on these two. -/
theorem identified (i j : Identity) :
    (i.canonical = j.canonical ↔ i.pieces = j.pieces) ∧
      (bars i.checkId = bars j.checkId → bars i.name = bars j.name → i ≠ j →
        i.canonical ≠ j.canonical) ∧
      (i.checkId = j.checkId → (i.canonical = j.canonical ↔
        i.severity = j.severity ∧ i.name ++ "|" ++ i.reason = j.name ++ "|" ++ j.reason)) ∧
      (Separates i.canonical j.canonical →
        (i.fingerprint = j.fingerprint ↔ i.canonical = j.canonical)) := by
  refine ⟨canonical_eq_iff, ?_, canonical_eq_iff_of_checkId, fingerprint_eq_iff⟩
  intro hcheckId hname hne hcanonical
  exact hne (eq_iff.mpr ⟨hcanonical, hcheckId, hname⟩)

def errorNet : Identity := ⟨"CHK-1", .error, "NET_A", "Violation found"⟩

def infoNet : Identity := ⟨"CHK-1", .info, "NET_A", "Violation found"⟩

theorem separates_nets : Separates errorNet.canonical infoNet.canonical := by
  have hne : Digest.Sha256.digest (message errorNet.canonical) ≠
      Digest.Sha256.digest (message infoNet.canonical) := by decide +kernel
  exact fun h => absurd h hne

theorem identified_nets :
    errorNet.canonical ≠ infoNet.canonical ∧ errorNet.fingerprint ≠ infoNet.fingerprint := by
  obtain ⟨-, htext, -, hfingerprint⟩ := identified errorNet infoNet
  have hcanonical := htext rfl rfl (by decide)
  exact ⟨hcanonical, fun h => hcanonical ((hfingerprint separates_nets).mp h)⟩

/-- A waived violation whose waiver has a bar in its reason. -/
def barredReason : Identity := ⟨"C", .info, "n", "Waived: x|Waived: R2[WAIVER]"⟩

/-- A waived violation with a bar in its name. -/
def barredName : Identity := ⟨"C", .info, "n|Waived: x", "Waived: R2[WAIVER]"⟩

/-- Items that differ can have one text. -/
theorem not_identified : ¬ ∀ i j : Identity, i ≠ j → i.canonical ≠ j.canonical := by
  intro h
  refine h barredReason barredName (by decide) ?_
  exact (canonical_eq_iff_of_checkId rfl).mpr ⟨rfl, by decide⟩

end Identity

end Fingerprint

end Signoff

/-
# `Signoff.Proofs.EvaluationFaults` — exactly when an evaluation fails

Two things can keep a check from being evaluated: a pass that is forced without a comment, and
evidence that does not have the shape of the resolved type.  The first is looked for before the
evidence is, so it wins (`Fault`); there is no third (`evaluate_eq_error_iff`).  Neither depends on
the context.

Behind the front end neither can happen.  What is resolved has been validated by the same rule, and
evidence is parsed for the type that was resolved; so a configuration that resolves and a file that
parses for it are always evaluated (`evaluate_isOk_of_parse`).
-/
import Signoff.Proofs.Advisory
import Signoff.Proofs.Running

namespace Signoff

variable {m : CheckModel} {e : Evidence} {ctx : CheckContext} {err : ConfigError}

/-! ## Shapes -/

/-- The shape of evidence that the type asks for, as it is named in messages. -/
def CheckType.shape (t : CheckType) : String := if t.usesPatterns then "scoped" else "split"

theorem Classification.classify_eq_error_iff {type : CheckType} {s : Scoping}
    {patterns : List String} :
    classify type s patterns e = .error err ↔
      ¬ e.Fits type ∧ err = .evidenceMismatch type type.shape := by
  cases hp : type.usesPatterns with
  | true => cases e <;> simp [classify, Evidence.Fits, CheckType.shape, hp, eq_comm]
  | false => cases e <;> simp [classify, Evidence.Fits, CheckType.shape, hp, eq_comm]

/-! ## Faults -/

namespace CheckModel

/-- The pass is forced, and nothing justifies it. -/
def Unjustified (m : CheckModel) : Prop := m.waivers.value = some 0 ∧ m.waivers.entries = []

/-- What is reported of the check and its evidence. -/
inductive Fault (m : CheckModel) (e : Evidence) : ConfigError → Prop
  | unjustified : m.Unjustified → Fault m e .forcedPassWithoutComments
  | shape : ¬ m.Unjustified → ¬ e.Fits m.type →
      Fault m e (.evidenceMismatch m.type m.type.shape)

theorem unjustified_iff :
    m.Unjustified ↔ m.waivers.mode = .forcedPass ∧ m.waivers.entries = [] := by
  rw [Unjustified, WaiverPolicy.mode_eq_forcedPass_iff]

theorem evaluate_of_unjustified (h : m.Unjustified) :
    m.evaluate e ctx = .error .forcedPassWithoutComments := by
  rw [evaluate_eq_ite, if_pos (unjustified_iff.mp h)]

theorem evaluate_of_not_unjustified (h : ¬ m.Unjustified) :
    m.evaluate e ctx =
      (Classification.classify m.type ctx.scoping m.requirements.patterns e).map
        (Evaluation.ofClassification m ctx) := by
  rw [evaluate_eq_ite, if_neg (mt unjustified_iff.mpr h)]

theorem evaluate_eq_error_iff : m.evaluate e ctx = .error err ↔ m.Fault e err := by
  by_cases h : m.Unjustified
  · rw [evaluate_of_unjustified h]
    constructor
    · intro herr
      obtain rfl := Except.error.inj herr
      exact .unjustified h
    · intro hfault
      cases hfault with
      | unjustified _ => rfl
      | shape hnot _ => exact absurd h hnot
  · have hmap : m.evaluate e ctx = .error err ↔
        Classification.classify m.type ctx.scoping m.requirements.patterns e = .error err := by
      rw [evaluate_of_not_unjustified h]
      cases Classification.classify m.type ctx.scoping m.requirements.patterns e <;>
        simp [Except.map]
    rw [hmap, Classification.classify_eq_error_iff]
    constructor
    · rintro ⟨hshape, rfl⟩
      exact .shape h hshape
    · intro hfault
      cases hfault with
      | unjustified hforced => exact absurd hforced h
      | shape _ hshape => exact ⟨hshape, rfl⟩

theorem evaluate_isOk_iff :
    (∃ r, m.evaluate e ctx = .ok r) ↔ ¬ m.Unjustified ∧ e.Fits m.type := by
  by_cases h : m.Unjustified
  · rw [evaluate_of_unjustified h]
    constructor
    · rintro ⟨r, hr⟩
      cases hr
    · rintro ⟨hnot, -⟩
      exact absurd h hnot
  · have hclassify : (∃ c, Classification.classify m.type ctx.scoping m.requirements.patterns e =
        .ok c) ↔ e.Fits m.type := Classification.classify_isOk_iff
    rw [evaluate_of_not_unjustified h, and_iff_right h, ← hclassify]
    cases Classification.classify m.type ctx.scoping m.requirements.patterns e <;>
      simp [Except.map]

theorem type_of_evaluate {r : Evaluation} (h : m.evaluate e ctx = .ok r) : r.type = m.type := by
  obtain ⟨-, c, -, rfl⟩ := evaluate_eq_ok_iff.mp h
  rfl

end CheckModel

/-! ## Behind the front end -/

namespace Config

variable {d : Document} {c : Resolved}

theorem Document.justified_of_resolve (h : d.resolve = .ok c) :
    ¬ c.model.Unjustified ∧ c.type = c.model.type := by
  obtain ⟨id, required, waived, warnings, mode, sep, kind, -, -, -, -, hvalid, -, -, -, rfl⟩ :=
    settle_eq_ok_iff.mp (resolve_eq_ok_iff.mp h).1
  refine ⟨?_, rfl⟩
  rw [CheckModel.unjustified_iff]
  rintro ⟨hforced, hnone⟩
  exact (CheckModel.validate_eq_ok_iff.mp hvalid).1 hforced hnone

/-- A configuration that resolves is evaluated with every file that parses for it. -/
theorem Document.evaluate_isOk_of_parse {text : String} {fe : FlaggedEvidence}
    (hc : d.resolve = .ok c) (he : EvidenceFile.parse text c.type = .ok fe) :
    ∃ r, c.model.evaluate fe.evidence ctx = .ok r ∧ r.type = c.type := by
  obtain ⟨hjustified, htype⟩ := justified_of_resolve hc
  have hfits : fe.evidence.Fits c.model.type := htype ▸ EvidenceFile.fits_of_parse he
  obtain ⟨r, hr⟩ := CheckModel.evaluate_isOk_iff.mpr ⟨hjustified, hfits⟩
  exact ⟨r, hr, (CheckModel.type_of_evaluate hr).trans htype.symm⟩

end Config

/-! ## The whole -/

/-- **Failures.**  An evaluation fails with the missing comment if and only if the pass is forced
without one, whatever the evidence; otherwise with the type and the shape that it asks for if and
only if the evidence has the other shape; and otherwise it succeeds for that type.  With what a
configuration resolves to and a file that parses for it, it succeeds in every context. -/
theorem CheckModel.evaluate_fails_iff :
    (∀ (m : CheckModel) (e : Evidence) (ctx : CheckContext),
      (m.evaluate e ctx = .error .forcedPassWithoutComments ↔
        m.waivers.value = some 0 ∧ m.waivers.entries = []) ∧
      (¬ (m.waivers.value = some 0 ∧ m.waivers.entries = []) →
        (∀ type expected, m.evaluate e ctx = .error (.evidenceMismatch type expected) ↔
          ¬ e.Fits m.type ∧ type = m.type ∧
            expected = if m.type.usesPatterns then "scoped" else "split") ∧
        (e.Fits m.type → ∃ r, m.evaluate e ctx = .ok r ∧ r.type = m.type))) ∧
    ∀ (d : Config.Document) (c : Config.Resolved) (text : String) (fe : FlaggedEvidence),
      d.resolve = .ok c → EvidenceFile.parse text c.type = .ok fe →
        ∀ ctx, ∃ r, c.model.evaluate fe.evidence ctx = .ok r ∧ r.type = c.type := by
  refine ⟨fun m e ctx => ⟨?_, fun hjustified => ⟨fun type expected => ?_, fun hfits => ?_⟩⟩, ?_⟩
  · rw [evaluate_eq_error_iff]
    constructor
    · rintro ⟨hforced⟩
      exact hforced
    · exact .unjustified
  · rw [evaluate_eq_error_iff]
    constructor
    · rintro (_ | ⟨-, hshape⟩)
      exact ⟨hshape, rfl, rfl⟩
    · rintro ⟨hshape, rfl, rfl⟩
      exact .shape hjustified hshape
  · obtain ⟨r, hr⟩ := evaluate_isOk_iff.mpr ⟨hjustified, hfits⟩
    exact ⟨r, hr, type_of_evaluate hr⟩
  · intro d c text fe hc he ctx
    exact Config.Document.evaluate_isOk_of_parse hc he

section Clocks

/-- Two clocks, one of them recorded twice. -/
def clockEvidence : String :=
  "\x7b\"findings\": [\x7b\"identifier\": \"CLK_A\", \"line_number\": 7, " ++
    ("\"source_path\": \"./clk.rpt\", \"detail_text\": \"late\"\x7d, " ++
      ("\x7b\"identifier\": \"CLK_B\", \"correct\": true\x7d, " ++
        "\x7b\"identifier\": \"CLK_A\", \"correct\": true\x7d]\x7d"))

def clockRecords : List FindingRecord :=
  [{ identifier := "CLK_A", line := some 7, path := some "./clk.rpt", detail := "late" },
   { identifier := "CLK_B", correct := true }, { identifier := "CLK_A", correct := true }]

open Json.Tree in
def clockTree : Json.Tree :=
  object
    [(some "findings",
      array
        [object
          [(some "identifier", text (some "CLK_A")),
           (some "line_number", number ⟨false, ['7'], none, none⟩),
           (some "source_path", text (some "./clk.rpt")),
           (some "detail_text", text (some "late"))],
         object [(some "identifier", text (some "CLK_B")), (some "correct", bool true)],
         object [(some "identifier", text (some "CLK_A")), (some "correct", bool true)]])]

set_option maxRecDepth 10000 in
theorem ofText_clockEvidence :
    EvidenceFile.ofText clockEvidence = .ok { findings := some clockRecords } := by
  have hfile : EvidenceFile.ofTree? clockTree = some { findings := some clockRecords } := by cbv
  -- the characters are read off the literals, since the text itself is slow to take apart
  refine EvidenceFile.ofText_of_chars (toList_append_of String.toList_ofList <|
    toList_append_of String.toList_ofList <|
      toList_append_of String.toList_ofList String.toList_ofList) ?_ ?_ hfile
  · rfl
  · cbv

theorem parse_clockEvidence {type : CheckType} (hp : type.usesPatterns = true) :
    EvidenceFile.parse clockEvidence type = .ok (.ofRecords clockRecords) := by
  refine EvidenceFile.parse_eq_ok_iff.mpr ⟨_, ofText_clockEvidence, rfl, ?_⟩
  rw [EvidenceFile.evidence, if_pos hp]
  rfl

/-- Three clocks that are judged by their flags.  The pattern for one of them is given twice, and
the same one is waived. -/
def clockDocument : Config.Document where
  checker := { id := some " CLK ", mode := some "status" }
  requirements := { patternItems := ["CLK_A", "CLK_B", "CLK_A", "CLK_C"] }
  waivers := { value := some (.number 1), waiveItems := [.entry "CLK_A" "known"] }

def clockCheck : Config.Resolved where
  checker := ⟨"CLK", "", .status, .exact, .usual .patternWaiver⟩
  model :=
    { requirements := ⟨none, ["CLK_A", "CLK_B", "CLK_C"]⟩
      waivers := ⟨some 1, [.named ⟨"CLK_A", "known"⟩]⟩ }
  type := .patternWaiver
  warnings :=
    ["duplicate pattern_items entry ignored: CLK_A",
     "requirements.value is N/A but 3 pattern_items are declared"]

theorem resolve_clockDocument : clockDocument.resolve = .ok clockCheck := by cbv

/-- The clocks are evaluated in every context. -/
theorem CheckModel.evaluate_fails_iff_clocks :
    clockDocument.resolve = .ok clockCheck ∧
      ∃ fe, EvidenceFile.parse clockEvidence clockCheck.type = .ok fe ∧
        ∀ ctx, ∃ r, clockCheck.model.evaluate fe.evidence ctx = .ok r ∧ r.type = .patternWaiver :=
  ⟨resolve_clockDocument, _, parse_clockEvidence rfl,
    evaluate_fails_iff.2 _ _ _ _ resolve_clockDocument (parse_clockEvidence rfl)⟩

end Clocks

end Signoff

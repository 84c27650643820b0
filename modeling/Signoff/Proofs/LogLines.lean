/-
# `Signoff.Proofs.LogLines` — the log tells reports apart

The log is made of lines, and whatever it shows is put into them as it stands: a description may read
like a verdict, and a name like the heading of a group.  Nothing is mistaken for something else, as
long as no description and no name breaks its line.  The verdict ends at the first colon, for its
label has none.  The identifier of the check is the one piece that may break its line; it is known
beforehand, so it is taken off by its length.  All the rest ends where its line does.

How many names a group has is not written anywhere.  It is told by the first character of a line: a
name is indented, and the heading of the next group begins with the identifier, which was trimmed
(`Shown.nameLines_append_inj`).  So the groups are taken off one after the other
(`Shown.lines_logGroup_inj`), and reports of one check have the same log exactly if they have the
same verdict, description and groups (`Report.render_log_inj`).

The condition is needed.  A name that breaks its line stands for as many lines as it likes, and two
reports share a log (`Report.not_render_log_inj`).
-/
import Signoff.Proofs.Guarantees
import Signoff.Proofs.Json.Members
import Signoff.Proofs.Layout
import Signoff.Proofs.Running
import Signoff.Proofs.Text.Blank
import Signoff.Report

namespace Signoff

/-! ## Lines -/

namespace Text

/-- The text does not break its line. -/
def OneLine (s : String) : Prop := '\n' ∉ s.toList

instance (s : String) : Decidable (OneLine s) := inferInstanceAs (Decidable ('\n' ∉ s.toList))

def Indented (s : String) : Prop := s.toList.head? = some ' '

/-- The text begins with a character that is no space. -/
def Flush (s : String) : Prop := ∃ c ∈ s.toList.head?, c ≠ ' '

section Lines

variable {a b s t : String}

theorem OneLine.append (ha : OneLine a) (hb : OneLine b) : OneLine (a ++ b) := by
  intro hmem
  rw [String.toList_append, List.mem_append] at hmem
  rcases hmem with hmem | hmem
  · exact ha hmem
  · exact hb hmem

theorem oneLine_twoDigits (n : Nat) : OneLine (twoDigits n) := by
  have hdecimal : OneLine (decimal n) := by
    intro hmem
    rw [decimal, String.toList_ofList] at hmem
    have hdigit := Nat.isDigit_of_mem_toDigits (by omega) (by omega) hmem
    cases hdigit
  rw [twoDigits]
  split
  · exact OneLine.append (by decide) hdecimal
  · exact hdecimal

theorem Flush.not_indented_append (ha : Flush a) (s : String) : ¬ Indented (a ++ s) := by
  obtain ⟨c, hc, hspace⟩ := ha
  intro hindented
  rw [Indented, String.toList_append, List.head?_append, hc] at hindented
  exact hspace (Option.some.inj hindented)

/-- What is left of a text, trimmed, is flush. -/
theorem flush_trim (hne : trim s ≠ "") : Flush (trim s) := by
  have hhead := (trimmed_trimChars s.toList).head_not_blank
  have hchars : (trim s).toList = trimChars s.toList := String.toList_ofList
  cases hcs : trimChars s.toList with
  | nil => exact absurd (String.toList_eq_nil_iff.mp (hchars.trans hcs)) hne
  | cons c cs =>
      rw [hcs] at hhead
      rw [Flush, hchars, hcs]
      refine ⟨c, rfl, ?_⟩
      rintro rfl
      exact absurd (hhead ' ' rfl) (by decide)

theorem append_cons_inj_of_not_mem {α : Type} {c : α} {u v x y : List α} (hu : c ∉ u)
    (hv : c ∉ v) : u ++ c :: x = v ++ c :: y ↔ u = v ∧ x = y := by
  induction u generalizing v with
  | nil =>
      cases v with
      | nil => simp
      | cons d v =>
          have hne : c ≠ d := fun h => hv (h ▸ List.mem_cons_self)
          simp [hne]
  | cons e u ih =>
      cases v with
      | nil =>
          have hne : e ≠ c := fun h => hu (h ▸ List.mem_cons_self)
          simp [hne]
      | cons d v =>
          have hrest := ih (fun h => hu (List.mem_cons_of_mem e h))
            (fun h => hv (List.mem_cons_of_mem d h))
          rw [List.cons_append, List.cons_append, List.cons.injEq, List.cons.injEq, hrest, and_assoc]

theorem mark_append_inj {c : Char} {mark : String} (hmark : mark.toList = [c])
    (ha : c ∉ a.toList) (hb : c ∉ b.toList) :
    a ++ (mark ++ s) = b ++ (mark ++ t) ↔ a = b ∧ s = t := by
  simp only [← String.toList_inj, String.toList_append, hmark]
  exact append_cons_inj_of_not_mem ha hb

theorem line_append_inj (ha : OneLine a) (hb : OneLine b) :
    a ++ ("\n" ++ s) = b ++ ("\n" ++ t) ↔ a = b ∧ s = t :=
  mark_append_inj (by decide) ha hb

end Lines

end Text

open Text (OneLine Indented Flush)

/-! ## Groups that can be read -/

/-- The label spells the severity and a number, and neither the description nor a name breaks its
line. -/
structure ResultGroup.Legible (g : ResultGroup) : Prop where
  label : ∃ k, g.label = g.severity.tag ++ Text.twoDigits k
  description : OneLine g.description
  names : ∀ name ∈ g.items, OneLine name

namespace ResultGroup.Legible

variable {g h : ResultGroup}

theorem oneLine_label (hg : g.Legible) : OneLine g.label := by
  obtain ⟨k, hk⟩ := hg.label
  have htag : OneLine g.severity.tag := by cases g.severity <;> decide
  rw [hk]
  exact htag.append (Text.oneLine_twoDigits k)

/-- The log does not show the severity, and need not, since the label spells it. -/
theorem eq_iff (hg : g.Legible) (hh : h.Legible) :
    g = h ↔ g.label = h.label ∧ g.description = h.description ∧ g.items = h.items := by
  constructor
  · rintro rfl
    exact ⟨rfl, rfl, rfl⟩
  · rintro ⟨hlabel, hdescription, hitems⟩
    obtain ⟨k, hk⟩ := hg.label
    obtain ⟨k', hk'⟩ := hh.label
    have hseverity : g.severity = h.severity := by
      rw [hk, hk'] at hlabel
      exact (Severity.label_injective hlabel).1
    cases g
    cases h
    cases hlabel
    cases hseverity
    cases hdescription
    cases hitems
    rfl

end ResultGroup.Legible

/-! ## The lines of a log -/

namespace Shown

variable {checkId s t : String} {g h : ResultGroup} {gs hs : List ResultGroup}

theorem lines_nil {α : Type} (f : α → String) : lines f [] = "" := rfl

theorem lines_cons {α : Type} (f : α → String) (x : α) (xs : List α) :
    lines f (x :: xs) = f x ++ lines f xs := by
  rw [lines, List.map_cons, String.join_cons, ← lines]

/-- A name as the log lists it. -/
def nameLine (name : String) : String := "    " ++ name ++ "\n"

theorem nameLine_append (name s : String) : nameLine name ++ s = "    " ++ (name ++ ("\n" ++ s)) := by
  simp only [nameLine, String.append_assoc]

theorem indented_nameLine_append (name s : String) : Indented (nameLine name ++ s) := by
  rw [nameLine_append, Indented, String.toList_append]
  rfl

theorem nameLines_append_inj {xs ys : List String} (hxs : ∀ x ∈ xs, OneLine x)
    (hys : ∀ y ∈ ys, OneLine y) (hs : ¬ Indented s) (ht : ¬ Indented t) :
    lines nameLine xs ++ s = lines nameLine ys ++ t ↔ xs = ys ∧ s = t := by
  induction xs generalizing ys with
  | nil =>
      cases ys with
      | nil => simp only [lines_nil, String.empty_append, true_and]
      | cons y ys =>
          -- one side has ended, and the other goes on with a name
          refine iff_of_false (fun h => hs ?_) nofun
          rw [lines_nil, String.empty_append, lines_cons, String.append_assoc] at h
          rw [h]
          exact indented_nameLine_append y _
  | cons x xs ih =>
      cases ys with
      | nil =>
          refine iff_of_false (fun h => ht ?_) nofun
          rw [lines_nil, String.empty_append, lines_cons, String.append_assoc] at h
          rw [← h]
          exact indented_nameLine_append x _
      | cons y ys =>
          rw [List.forall_mem_cons] at hxs hys
          rw [lines_cons, lines_cons, String.append_assoc, String.append_assoc, nameLine_append,
            nameLine_append, String.append_right_inj, Text.line_append_inj hxs.1 hys.1,
            ih hxs.2 hys.2, List.cons.injEq, and_assoc]

theorem logGroup_append (checkId : String) (g : ResultGroup) (s : String) :
    logGroup checkId g ++ s =
      checkId ++ ("-" ++ ((g.label ++ ":") ++ ("\n" ++ (("  " ++ g.description ++ ":") ++
        ("\n" ++ (lines nameLine g.items ++ s)))))) := by
  have hbreak : ":\n  " = ":" ++ ("\n" ++ "  ") := by decide
  have hend : ":\n" = ":" ++ "\n" := by decide
  rw [logGroup, hbreak, hend]
  simp only [String.append_assoc]
  rfl

theorem logGroup_append_inj (hg : g.Legible) (hh : h.Legible) (hs : ¬ Indented s)
    (ht : ¬ Indented t) :
    logGroup checkId g ++ s = logGroup checkId h ++ t ↔ g = h ∧ s = t := by
  have hcolon : OneLine ":" := by decide
  have hmargin : OneLine "  " := by decide
  have hheading := hg.oneLine_label.append hcolon
  have hheading' := hh.oneLine_label.append hcolon
  have hbelow := (hmargin.append hg.description).append hcolon
  have hbelow' := (hmargin.append hh.description).append hcolon
  rw [logGroup_append, logGroup_append, String.append_right_inj, String.append_right_inj,
    Text.line_append_inj hheading hheading', Text.line_append_inj hbelow hbelow',
    nameLines_append_inj hg.names hh.names hs ht, String.append_left_inj, String.append_left_inj,
    String.append_right_inj, hg.eq_iff hh, and_assoc, and_assoc]

theorem not_indented_lines_logGroup (hid : Flush checkId) (gs : List ResultGroup) :
    ¬ Indented (lines (logGroup checkId) gs) := by
  cases gs with
  | nil => exact nofun
  | cons g gs =>
      rw [lines_cons, logGroup_append]
      exact hid.not_indented_append _

theorem lines_logGroup_ne_nil (checkId : String) (g : ResultGroup) (gs : List ResultGroup) :
    lines (logGroup checkId) (g :: gs) ≠ "" := by
  intro hempty
  rw [lines_cons, logGroup_append] at hempty
  have hdash := (String.append_eq_empty_iff.mp (String.append_eq_empty_iff.mp hempty).2).1
  exact absurd hdash (by decide)

/-- The groups are taken off one after the other. -/
theorem lines_logGroup_inj (hid : Flush checkId) (hgs : ∀ g ∈ gs, g.Legible)
    (hhs : ∀ h ∈ hs, h.Legible) :
    lines (logGroup checkId) gs = lines (logGroup checkId) hs ↔ gs = hs := by
  induction gs generalizing hs with
  | nil =>
      cases hs with
      | nil => exact iff_of_true rfl rfl
      | cons h hs => exact iff_of_false (lines_logGroup_ne_nil checkId h hs).symm nofun
  | cons g gs ih =>
      cases hs with
      | nil => exact iff_of_false (lines_logGroup_ne_nil checkId g gs) nofun
      | cons h hs =>
          -- the names of a group end, for what follows is nothing or begins with the identifier
          rw [List.forall_mem_cons] at hgs hhs
          rw [lines_cons, lines_cons, logGroup_append_inj hgs.1 hhs.1
            (not_indented_lines_logGroup hid gs) (not_indented_lines_logGroup hid hs),
            ih hgs.2 hhs.2, List.cons.injEq]

/-- The pieces of the log end where they seem to. -/
structure Legible (c : Shown) : Prop where
  checkId : Flush c.checkId
  status : ':' ∉ c.status.toList
  description : OneLine c.description
  groups : ∀ g ∈ c.groups, g.Legible

theorem log_eq (c : Shown) :
    c.log = c.status ++ (":" ++ (c.checkId ++ (":" ++ (c.description ++ ("\n" ++
      lines (logGroup c.checkId) c.groups))))) := by
  simp only [log, String.append_assoc]

/-- What the log shows can be read off it, if the identifier is known. -/
theorem log_inj {c c' : Shown} (hc : c.Legible) (hc' : c'.Legible) (hid : c.checkId = c'.checkId) :
    c.log = c'.log ↔
      c.status = c'.status ∧ c.description = c'.description ∧ c.groups = c'.groups := by
  have hcolon : ":".toList = [':'] := by decide
  rw [log_eq, log_eq, Text.mark_append_inj hcolon hc.status hc'.status, ← hid,
    String.append_right_inj, String.append_right_inj,
    Text.line_append_inj hc.description hc'.description,
    lines_logGroup_inj hc.checkId hc.groups hc'.groups]

end Shown

/-! ## Reports of runs -/

theorem Status.colon_not_mem_label (s : Status) (waived : Bool) :
    ':' ∉ (s.label waived).toList := by
  cases s <;> cases waived <;> decide

theorem ResultBuilder.label_of_mem_layout {b : ResultBuilder} {x : LabelledGroup}
    (hx : x ∈ b.layout) : ∃ k, x.label = x.draft.severity.tag ++ Text.twoDigits k := by
  obtain ⟨s, -, hs⟩ := List.mem_flatMap.mp hx
  obtain ⟨⟨draft, k⟩, -, rfl⟩ := List.mem_map.mp hs
  exact ⟨k, rfl⟩

theorem Config.flush_of_load {text : String} {c : Resolved} (h : load text = .ok c) :
    Flush c.checker.id := by
  obtain ⟨d, -, hd⟩ := load_eq_ok_iff.mp h
  obtain ⟨id, required, waived, warnings, mode, sep, kind, -, hid, -, -, -, -, -, -, rfl⟩ :=
    Document.settle_eq_ok_iff.mp (Document.resolve_eq_ok_iff.mp hd).1
  obtain ⟨s, -, rfl, hne⟩ := checkerId_eq_ok_iff.mp hid
  exact Text.flush_trim hne

namespace Report

variable {r r' : Report}

/-- No description and no name breaks its line. -/
structure Unbroken (r : Report) : Prop where
  description : OneLine r.check.description
  descriptions : ∀ g ∈ r.result.groups, OneLine g.description
  names : ∀ g ∈ r.result.groups, ∀ name ∈ g.items, OneLine name

theorem legible_of_run {stamp : Run.Stamp} {config evidence : String}
    (h : Run.run stamp config evidence = .ok r) (hr : r.Unbroken) : r.shown.Legible := by
  obtain ⟨c, e, matcher, result, hload, -, -, hevaluate, rfl⟩ := Run.run_eq_ok_iff.mp h
  obtain ⟨-, classification, -, rfl⟩ := CheckModel.evaluate_eq_ok_iff.mp hevaluate
  constructor
  · exact Config.flush_of_load hload
  · exact Status.colon_not_mem_label _ _
  · exact hr.description
  · intro g hg
    obtain ⟨x, hx, rfl⟩ := List.mem_map.mp hg
    exact ⟨ResultBuilder.label_of_mem_layout hx, hr.descriptions _ hg, hr.names _ hg⟩

/-- **The log.**  Let two reports be made by any runs of checks with one identifier, and let no
description and no name break its line.  They have the same log exactly if they have the same verdict,
the same description and the same groups, in the same order and with the same names in order. -/
theorem render_log_inj (h : ∃ stamp config evidence, Run.run stamp config evidence = .ok r)
    (h' : ∃ stamp config evidence, Run.run stamp config evidence = .ok r')
    (hid : r.check.id = r'.check.id) (hr : r.Unbroken) (hr' : r'.Unbroken) :
    r.render .log = r'.render .log ↔
      r.result.statusLabel = r'.result.statusLabel ∧ r.check.description = r'.check.description ∧
        r.result.groups = r'.result.groups := by
  obtain ⟨stamp, config, evidence, hrun⟩ := h
  obtain ⟨stamp', config', evidence', hrun'⟩ := h'
  exact Shown.log_inj (legible_of_run hrun hr) (legible_of_run hrun' hr') hid

end Report

/-! ## Evidence of names -/

namespace EvidenceFile

/-- A record of which only the name is given. -/
def nameRecord (name : String) : Json.Value := .object [("identifier", .string name)]

/-- A file of violations and passes of which only the names are given. -/
def ofNames (violations passes : List String) : Json.Value :=
  .object
    [("violations", .array (violations.map nameRecord)), ("passes", .array (passes.map nameRecord))]

/-- Records with these names and nothing else. -/
def named (names : List String) : List FindingRecord := names.map fun name => { identifier := name }

theorem recordsOfTree?_names (names : List String) :
    recordsOfTree? (Json.Value.array (names.map nameRecord)).tree = some (named names) := by
  show (Json.Value.itemTrees (names.map nameRecord)).mapM FindingRecord.ofTree? = _
  induction names with
  | nil => rfl
  | cons name names ih =>
      have hname : FindingRecord.ofTree? (nameRecord name).tree = some { identifier := name } := rfl
      rw [List.map_cons, Json.Value.itemTrees, List.mapM_cons, hname, ih]
      rfl

theorem ofTree?_lists {ts us : List Json.Tree} {vs ps : List FindingRecord}
    (hvs : recordsOfTree? (.array ts) = some vs) (hps : recordsOfTree? (.array us) = some ps) :
    ofTree? (.object [(some "violations", .array ts), (some "passes", .array us)]) =
      some { violations := some vs, passes := some ps } := by
  simp [ofTree?, Json.Tree.record?, Json.Tree.countKey, Json.Tree.optional, hvs, hps,
    lookup_cons_eq_ite]

theorem plain_ofNames (violations passes : List String) :
    Json.Value.Plain 3 (ofNames violations passes) := by
  have hrecord (name : String) : Json.Value.Plain 1 (nameRecord name) :=
    .object (List.forall_mem_singleton.mpr (.string name))
  refine .object (List.forall_mem_cons.mpr ⟨?_, List.forall_mem_singleton.mpr ?_⟩)
  · exact Json.Value.plain_map hrecord violations
  · exact Json.Value.plain_map hrecord passes

theorem parse_ofNames (violations passes : List String) :
    parse (ofNames violations passes).compact .boolean =
      .ok ⟨.split ((named violations).map FindingRecord.finding)
          ((named passes).map FindingRecord.finding),
        flagsOf (named violations ++ named passes)⟩ := by
  have hwords := Json.Value.readsAs_compactChars (plain_ofNames violations passes)
  have hfile : ofTree? (ofNames violations passes).tree =
      some { violations := some (named violations), passes := some (named passes) } :=
    ofTree?_lists (recordsOfTree?_names violations) (recordsOfTree?_names passes)
  have hblank : Text.isBlankText (ofNames violations passes).compact = false := by
    rw [Text.isBlankText, Json.Value.compact, String.toList_ofList]
    rfl
  refine parse_eq_ok_iff.mpr
    ⟨{ violations := some (named violations), passes := some (named passes) }, ?_, rfl, rfl⟩
  rw [ofText, hblank, Json.Value.compact, Json.Value.tree_ofText?_of_readsAs hwords,
    Option.bind_some, hfile]
  rfl

end EvidenceFile

/-! ## Names that look like the lines of a log -/

section Lookalikes

/-- The identifier of the check is two lines long. -/
def twoLineConfig : String := "[checker]\nid = \"C\\nC\"\n"

def twoLineToml : Toml.Value := .table [("checker", .table [("id", .string "C\nC")])]

def twoLineCheck : Config.Resolved where
  checker := ⟨"C\nC", "", .existence, .exact, .usual .boolean⟩
  model := {}
  type := .boolean
  warnings := []

theorem ofText_twoLineConfig : Toml.Value.ofText? twoLineConfig = some twoLineToml := by cbv

theorem load_twoLineConfig : Config.load twoLineConfig = .ok twoLineCheck :=
  Config.load_of_tables ofText_twoLineConfig (by decide) (by cbv) (by decide) rfl (by cbv)

def twoLineStamp : Run.Stamp := ⟨"1", .epoch, .epoch⟩

/-- The report of the check for violations and passes with these names. -/
def twoLineReport (violations passes : List String) : Report :=
  Run.report twoLineStamp twoLineCheck <|
    Evaluation.ofClassification twoLineCheck.model
      { checkId := "C\nC", descriptions := some (.usual .boolean) }
      (.boolean (.classify (violations.map fun name => { identifier := name })
        (passes.map fun name => { identifier := name })))

theorem run_twoLineConfig (violations passes : List String) :
    Run.run twoLineStamp twoLineConfig (EvidenceFile.ofNames violations passes).compact =
      .ok (twoLineReport violations passes) := by
  refine Run.run_eq_ok_iff.mpr ⟨twoLineCheck, _, _, _, load_twoLineConfig,
    EvidenceFile.parse_ofNames violations passes, rfl, rfl, ?_⟩
  rw [EvidenceFile.named, EvidenceFile.named, List.map_map, List.map_map]
  rfl

/-- Violations that are named like the lines of another group are not mistaken for it, although the
identifier of the check has a line like one of them. -/
theorem Report.render_log_inj_lookalikes :
    let names := ["a", "C", "C-INFO01:", "  Checks passed:", "    b"]
    ∃ r r', Run.run twoLineStamp twoLineConfig (EvidenceFile.ofNames ["a"] ["b"]).compact = .ok r ∧
      Run.run twoLineStamp twoLineConfig (EvidenceFile.ofNames names []).compact = .ok r' ∧
      r.check.id = r'.check.id ∧ r.Unbroken ∧ r'.Unbroken ∧ r.render .log ≠ r'.render .log := by
  intro names
  have hrun := run_twoLineConfig ["a"] ["b"]
  have hrun' := run_twoLineConfig names []
  have hr : (twoLineReport ["a"] ["b"]).Unbroken := ⟨by decide, by decide, by decide⟩
  have hr' : (twoLineReport names []).Unbroken := ⟨by decide, by decide, by decide⟩
  refine ⟨_, _, hrun, hrun', rfl, hr, hr', fun hlog => ?_⟩
  obtain ⟨-, -, hgroups⟩ :=
    (Report.render_log_inj ⟨_, _, _, hrun⟩ ⟨_, _, _, hrun'⟩ rfl hr hr').mp hlog
  exact absurd hgroups (by decide)

theorem Report.not_render_log_inj :
    ¬ ∀ (stamp : Run.Stamp) (config config' evidence evidence' : String) (r r' : Report),
      Run.run stamp config evidence = .ok r → Run.run stamp config' evidence' = .ok r' →
        r.check.id = r'.check.id → r.render .log = r'.render .log →
          r.result.groups = r'.result.groups := by
  intro h
  have hgroups := h _ _ _ _ _ _ _ (run_twoLineConfig ["a"] ["b"])
    (run_twoLineConfig ["a\nC\nC-INFO01:\n  Checks passed:\n    b"] []) rfl (by decide)
  exact absurd hgroups (by decide)

end Lookalikes

end Signoff

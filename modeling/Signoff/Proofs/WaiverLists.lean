/-
# `Signoff.Proofs.WaiverLists` — what an edit of the waiver list does

Two runs of one check with different waiver lists differ in the matcher, too: it is built from the
list, and for globs it holds a table of just the names that are listed.  Still it does the same with
the names that both lists have (`MatchKind.apply_of_build`), so an edit can be studied with one
matcher.  Whether a violation is waived then hangs on the set of names alone: more names waive more
(`WaiverOutcome.sublist_waived`) and their order does not matter (`WaiverOutcome.resolve_perm`).
Which waiver it is, and which waivers go unused, hangs on the order; waivers that are added at the
end take nothing away from those before them (`WaiverOutcome.unused_append`).
-/
import Signoff.Evaluation
import Signoff.Proofs.Matchers
import Signoff.Proofs.Waivers

namespace Signoff

/-! ## Built matchers -/

namespace MatchKind

/-- What a matcher of the kind does with a name that it was built for. -/
def covers : MatchKind → Matcher
  | exact => Matcher.exact
  | caseInsensitive => Matcher.caseInsensitive
  | normalized => Matcher.normalized
  | view c => Matcher.view c
  | glob => fun violation waiver =>
    match Glob.Pattern.ofText waiver with
    | .ok p => p.covers violation
    | .error _ => false

end MatchKind

theorem Matcher.GlobTable.lookup_of_ofNames {names : List String} {table : GlobTable}
    {name : String} (h : ofNames names = .ok table) (hname : name ∈ names) :
    ∃ p, Glob.Pattern.ofText name = .ok p ∧ table.lookup name = some p := by
  induction names generalizing table with
  | nil => exact absurd hname List.not_mem_nil
  | cons n names ih =>
      cases hn : Glob.Pattern.ofText n with
      | error fault => simp [ofNames_cons, hn] at h
      | ok p =>
          cases hrest : ofNames names with
          | error err => simp [ofNames_cons, hn, hrest, Except.map] at h
          | ok rest =>
              obtain rfl : (n, p) :: rest = table := by
                simpa [ofNames_cons, hn, hrest, Except.map] using h
              by_cases heq : name = n
              · subst heq
                exact ⟨p, hn, by simp⟩
              · have hmem := (List.mem_cons.mp hname).resolve_left heq
                obtain ⟨q, hq, hlookup⟩ := ih hrest hmem
                exact ⟨q, hq, by rw [List.lookup_cons, beq_eq_false_iff_ne.mpr heq, hlookup]⟩

/-- A built matcher does with the names that it was built for what its kind does. -/
theorem MatchKind.apply_of_build {k : MatchKind} {ws : List NamedWaiver} {matcher : Matcher}
    {w : NamedWaiver} (h : k.build ws = .ok matcher) (hw : w ∈ ws) (violation : String) :
    matcher violation w.name = k.covers violation w.name := by
  cases k with
  | glob =>
      cases hnames : Matcher.GlobTable.ofNames (ws.map NamedWaiver.name) with
      | error err => simp [build_glob, hnames, Except.map] at h
      | ok table =>
          obtain rfl : Matcher.glob table = matcher := by
            simpa [build_glob, hnames, Except.map] using h
          obtain ⟨p, hp, hlookup⟩ :=
            Matcher.GlobTable.lookup_of_ofNames hnames (List.mem_map_of_mem hw)
          simp only [Matcher.glob, covers, hlookup, hp]
  | exact => obtain rfl := Except.ok.inj h; rfl
  | caseInsensitive => obtain rfl := Except.ok.inj h; rfl
  | normalized => obtain rfl := Except.ok.inj h; rfl
  | view c => obtain rfl := Except.ok.inj h; rfl

theorem Uncovered.mono {m : Matcher} {ws ws' : List NamedWaiver} {name : String}
    (hnames : ws.map NamedWaiver.name ⊆ ws'.map NamedWaiver.name)
    (h : Uncovered m ws' name) : Uncovered m ws name := by
  intro w hw
  obtain ⟨w', hw', heq⟩ := List.mem_map.mp (hnames (List.mem_map_of_mem hw))
  rw [← heq]
  exact h w' hw'

namespace WaiverOutcome

variable {m m' : Matcher} {vs : List Finding} {ws ws' xs : List NamedWaiver} {f : Finding}

/-! ## One matcher -/

/-- The matchers do the same with the names of the waivers. -/
def Agree (m m' : Matcher) (ws : List NamedWaiver) : Prop :=
  ∀ w ∈ ws, ∀ violation, m violation w.name = m' violation w.name

theorem Agree.firstMatch?_eq (h : Agree m m' ws) (f : Finding) :
    firstMatch? m ws f = firstMatch? m' ws f := by
  induction ws with
  | nil => rfl
  | cons w ws ih =>
      have hrest := ih fun x hx => h x (List.mem_cons_of_mem w hx)
      rw [firstMatch?, firstMatch?] at hrest ⊢
      rw [List.findIdx?_cons, List.findIdx?_cons, h w List.mem_cons_self, hrest]

theorem Agree.waive?_eq (h : Agree m m' ws) (f : Finding) : waive? m ws f = waive? m' ws f := by
  induction ws with
  | nil => rfl
  | cons w ws ih =>
      have hrest := ih fun x hx => h x (List.mem_cons_of_mem w hx)
      rw [waive?, waive?] at hrest ⊢
      rw [List.find?_cons, List.find?_cons, h w List.mem_cons_self]
      split
      · rfl
      · exact hrest

theorem Agree.resolve_eq (h : Agree m m' ws) (vs : List Finding) :
    resolve m vs ws = resolve m' vs ws := by
  have hwaive : waive? m ws = waive? m' ws := funext h.waive?_eq
  have hfirst : firstMatch? m ws = firstMatch? m' ws := funext h.firstMatch?_eq
  rw [resolve, resolve, usedPositions, usedPositions, hwaive, hfirst]

/-! ## More names, other order -/

theorem findings_waived :
    (resolve m vs ws).waived.map WaivedFinding.finding =
      vs.filter fun f => (waive? m ws f).isSome :=
  map_filterMap_eq_filter (fun _ _ => finding_of_waive?) vs

theorem isSome_waive?_mono (hnames : ws.map NamedWaiver.name ⊆ ws'.map NamedWaiver.name)
    (h : (waive? m ws f).isSome = true) : (waive? m ws' f).isSome = true := by
  rw [← Option.ne_none_iff_isSome] at h ⊢
  exact fun hnone => h (waive?_eq_none_iff.mpr (Uncovered.mono hnames (waive?_eq_none_iff.mp hnone)))

theorem sublist_waived (hnames : ws.map NamedWaiver.name ⊆ ws'.map NamedWaiver.name) :
    ((resolve m vs ws).waived.map WaivedFinding.finding).Sublist
      ((resolve m vs ws').waived.map WaivedFinding.finding) := by
  rw [findings_waived, findings_waived]
  exact List.monotone_filter_right vs fun f => isSome_waive?_mono hnames

theorem unwaived_eq_nil_mono (hnames : ws.map NamedWaiver.name ⊆ ws'.map NamedWaiver.name)
    (h : (resolve m vs ws).unwaived = []) : (resolve m vs ws').unwaived = [] := by
  refine List.eq_nil_iff_forall_not_mem.mpr fun f hf => ?_
  obtain ⟨hmem, huncovered⟩ := mem_unwaived.mp hf
  exact List.eq_nil_iff_forall_not_mem.mp h f (mem_unwaived.mpr ⟨hmem, Uncovered.mono hnames huncovered⟩)

/-- Which names are uncovered says what is waived and what is left. -/
theorem resolve_congr (h : ∀ name, Uncovered m' ws' name ↔ Uncovered m ws name)
    (vs : List Finding) :
    (resolve m' vs ws').waived.map WaivedFinding.finding =
        (resolve m vs ws).waived.map WaivedFinding.finding ∧
      (resolve m' vs ws').unwaived = (resolve m vs ws).unwaived := by
  have hnone : ∀ f, (waive? m' ws' f).isNone = (waive? m ws f).isNone := by
    intro f
    rw [Bool.eq_iff_iff, Option.isNone_iff_eq_none, Option.isNone_iff_eq_none, waive?_eq_none_iff,
      waive?_eq_none_iff, h]
  have hsome : ∀ f, (waive? m' ws' f).isSome = (waive? m ws f).isSome := by
    intro f
    rw [← Option.not_isNone, ← Option.not_isNone, hnone]
  rw [findings_waived, findings_waived]
  simp only [resolve, hsome, hnone]
  exact ⟨trivial, trivial⟩

theorem resolve_perm (m : Matcher) (vs : List Finding) (h : ws'.Perm ws) :
    (resolve m vs ws').waived.map WaivedFinding.finding =
        (resolve m vs ws).waived.map WaivedFinding.finding ∧
      (resolve m vs ws').unwaived = (resolve m vs ws).unwaived := by
  have hnames := h.map NamedWaiver.name
  exact resolve_congr (fun _ => ⟨.mono hnames.symm.subset, .mono hnames.subset⟩) vs

/-! ## Waivers added at the end -/

theorem waived_append {v : WaivedFinding} (h : v ∈ (resolve m vs ws).waived) :
    v ∈ (resolve m vs (ws ++ xs)).waived := by
  obtain ⟨hmem, w, hw, hname, hreason⟩ := mem_waived.mp h
  exact mem_waived.mpr ⟨hmem, w, hw.append_left xs, hname, hreason⟩

/-- Where an old waiver is the first match, an added one makes no difference. -/
theorem firstMatch?_append_eq_some_iff {i : Nat} (hi : i < ws.length) :
    firstMatch? m (ws ++ xs) f = some i ↔ firstMatch? m ws f = some i := by
  rw [firstMatch?, firstMatch?, List.findIdx?_append]
  cases ws.findIdx? fun w => m f.identifier w.name with
  | some j => rw [Option.some_or]
  | none =>
      rw [Option.none_or]
      refine ⟨fun h => ?_, nofun⟩
      obtain ⟨j, -, rfl⟩ := Option.map_eq_some_iff.mp h
      omega

theorem contains_usedPositions {i : Nat} :
    (usedPositions m vs ws).contains i = vs.any fun f => firstMatch? m ws f == some i := by
  rw [Bool.eq_iff_iff, List.contains_iff_mem, usedPositions, List.mem_filterMap, List.any_eq_true]
  simp only [beq_iff_eq]

theorem unused_append :
    (resolve m vs (ws ++ xs)).unused =
      (resolve m vs ws).unused ++
        ((xs.zipIdx ws.length).filter fun x =>
          vs.all fun f => firstMatch? m (ws ++ xs) f != some x.2).map Prod.fst := by
  have hold : ∀ x ∈ ws.zipIdx,
      (!(usedPositions m vs (ws ++ xs)).contains x.2) = !(usedPositions m vs ws).contains x.2 := by
    intro x hx
    have hi : x.2 < ws.length := by
      have hlt := (List.mem_zipIdx hx).2.1
      omega
    simp only [contains_usedPositions]
    congr 2
    funext f
    rw [Bool.eq_iff_iff, beq_iff_eq, beq_iff_eq, firstMatch?_append_eq_some_iff hi]
  have hadded : ∀ x : NamedWaiver × Nat, (!(usedPositions m vs (ws ++ xs)).contains x.2) =
      vs.all fun f => firstMatch? m (ws ++ xs) f != some x.2 := by
    intro x
    rw [contains_usedPositions, List.not_any_eq_all_not]
    rfl
  simp only [resolve, unusedWaivers]
  rw [List.zipIdx_append, List.filter_append, List.map_append, List.filter_congr hold, Nat.zero_add]
  simp only [hadded]

end WaiverOutcome

/-! ## Evaluations -/

theorem Verdict.resolve_selective (c : Classification) (o : WaiverOutcome) :
    Verdict.resolve c (some o) .selective =
      if o.unwaived = [] then ⟨.pass, !o.waived.isEmpty⟩ else failure := by
  simp [resolve]

section Edits

variable {m m' : CheckModel} {k : MatchKind} {matcher matcher' : Matcher} {e : Evidence}
  {ctx : CheckContext} {r : Evaluation}

theorem CheckModel.evaluate_selective (hmode : m.waivers.mode = .selective)
    (hbuild : k.build m.waivers.named = .ok matcher)
    (h : m.evaluate e { ctx with matcher := matcher } = .ok r) :
    Classification.classify m.type ctx.scoping m.requirements.patterns e = .ok r.classification ∧
      r.waivers = some (.resolve k.covers r.classification.violations m.waivers.named) ∧
      r.verdict = Verdict.resolve r.classification r.waivers .selective ∧
      r.result.status = r.verdict.status := by
  have hagree : WaiverOutcome.Agree matcher k.covers m.waivers.named :=
    fun w hw => MatchKind.apply_of_build hbuild hw
  obtain ⟨-, c, hc, rfl⟩ := evaluate_eq_ok_iff.mp h
  refine ⟨hc, ?_, ?_, rfl⟩
  · rw [← hagree.resolve_eq]
    simp only [Evaluation.ofClassification, Evaluation.outcome?, hmode]
  · simp only [Evaluation.ofClassification, hmode]

/-- **Edits of the waiver list.**  Let a check in selective mode be evaluated, and then again with
another list that has all names of the first, the matcher built anew.  What was waived is waived
again, and a PASS stays a PASS.  If waivers were added at the end, every waived violation keeps its
waiver, and those go unused that did before and those of the added ones that are the first match of
no violation.  If the list was put in another order, the same is waived and the same is left. -/
theorem CheckModel.evaluate_edited (hmode : m.waivers.mode = .selective)
    (hmode' : m'.waivers.mode = .selective) (hrequirements : m'.requirements = m.requirements)
    (hnames : m.waivers.named.map NamedWaiver.name ⊆ m'.waivers.named.map NamedWaiver.name)
    (hbuild : k.build m.waivers.named = .ok matcher)
    (hbuild' : k.build m'.waivers.named = .ok matcher')
    (h : m.evaluate e { ctx with matcher := matcher } = .ok r) :
    ∃ r' o o', m'.evaluate e { ctx with matcher := matcher' } = .ok r' ∧
      r.waivers = some o ∧ r'.waivers = some o' ∧
      (o.waived.map WaivedFinding.finding).Sublist (o'.waived.map WaivedFinding.finding) ∧
      (r.result.status = .pass → r'.result.status = .pass) ∧
      (∀ xs, m'.waivers.named = m.waivers.named ++ xs →
        (∀ v ∈ o.waived, v ∈ o'.waived) ∧
          o'.unused = o.unused ++
            ((xs.zipIdx m.waivers.named.length).filter fun x =>
              r.classification.violations.all fun f =>
                WaiverOutcome.firstMatch? matcher' m'.waivers.named f != some x.2).map Prod.fst) ∧
      (m'.waivers.named.Perm m.waivers.named →
        o'.waived.map WaivedFinding.finding = o.waived.map WaivedFinding.finding ∧
          o'.unwaived = o.unwaived ∧ r'.verdict = r.verdict) := by
  obtain ⟨hclassify, hwaivers, hverdict, hstatus⟩ := evaluate_selective hmode hbuild h
  have htype : m'.type = m.type := by rw [type, type, hmode, hmode', hrequirements]
  obtain ⟨r', hr'⟩ : ∃ r', m'.evaluate e { ctx with matcher := matcher' } = .ok r' := by
    have hforced : m'.waivers.mode = .forcedPass → m'.waivers.entries ≠ [] := by
      intro hforced
      rw [hmode'] at hforced
      cases hforced
    refine ⟨_, evaluate_eq_ok_iff.mpr ⟨hforced, r.classification, ?_, rfl⟩⟩
    rw [htype, hrequirements]
    exact hclassify
  obtain ⟨hclassify', hwaivers', hverdict', hstatus'⟩ := evaluate_selective hmode' hbuild' hr'
  have hclass : r'.classification = r.classification := by
    rw [htype, hrequirements, hclassify] at hclassify'
    exact (Except.ok.inj hclassify').symm
  rw [hclass] at hwaivers' hverdict'
  rw [hwaivers, Verdict.resolve_selective] at hverdict
  rw [hwaivers', Verdict.resolve_selective] at hverdict'
  refine ⟨r', _, _, hr', hwaivers, hwaivers', WaiverOutcome.sublist_waived hnames, ?_, ?_, ?_⟩
  · rw [hstatus, hstatus', hverdict, hverdict']
    intro hpass
    split at hpass
    · rename_i hnil
      rw [if_pos (WaiverOutcome.unwaived_eq_nil_mono hnames hnil)]
    · cases hpass
  · intro xs hxs
    have hagree : WaiverOutcome.Agree matcher' k.covers m'.waivers.named :=
      fun w hw => MatchKind.apply_of_build hbuild' hw
    have hfirst : WaiverOutcome.firstMatch? matcher' m'.waivers.named =
        WaiverOutcome.firstMatch? k.covers m'.waivers.named := funext hagree.firstMatch?_eq
    rw [hfirst, hxs]
    exact ⟨fun v hv => WaiverOutcome.waived_append hv, WaiverOutcome.unused_append⟩
  · intro hperm
    obtain ⟨hwaived, hunwaived⟩ :=
      WaiverOutcome.resolve_perm k.covers r.classification.violations hperm
    have hempty := congrArg List.isEmpty hwaived
    rw [List.isEmpty_map, List.isEmpty_map] at hempty
    exact ⟨hwaived, hunwaived, by rw [hverdict, hverdict', hunwaived, hempty]⟩

/-- A glob is added that covers the violation, too; the violation keeps its waiver. -/
theorem CheckModel.evaluate_edited_globs :
    let f : Finding := ⟨"clk_a", none, none, ""⟩
    let e : Evidence := .split [f] []
    let w : NamedWaiver := ⟨"clk*", "known"⟩
    let m : CheckModel := { waivers := .selective [w] }
    let m' : CheckModel := { waivers := .selective (m.waivers.named ++ [⟨"*_a", "later"⟩]) }
    let ctx : CheckContext := { checkId := "C" }
    ∃ matcher' r' o', MatchKind.glob.build m'.waivers.named = .ok matcher' ∧
      m'.evaluate e { ctx with matcher := matcher' } = .ok r' ∧ r'.waivers = some o' ∧
      ⟨f, w.name, w.reason⟩ ∈ o'.waived := by
  intro f e w m m' ctx
  obtain ⟨matcher, hbuild⟩ : ∃ matcher, MatchKind.glob.build m.waivers.named = .ok matcher :=
    MatchKind.build_isOk_iff.mpr fun _ => by decide
  obtain ⟨matcher', hbuild'⟩ : ∃ matcher', MatchKind.glob.build m'.waivers.named = .ok matcher' :=
    MatchKind.build_isOk_iff.mpr fun _ => by decide
  obtain ⟨r, hr⟩ : ∃ r, m.evaluate e { ctx with matcher := matcher } = .ok r :=
    ⟨_, CheckModel.evaluate_eq_ok_iff.mpr ⟨nofun, _, rfl, rfl⟩⟩
  obtain ⟨hclassify, hwaivers, -, -⟩ := CheckModel.evaluate_selective rfl hbuild hr
  have hrequirements : m'.requirements = m.requirements := rfl
  have hnames : m.waivers.named.map NamedWaiver.name ⊆ m'.waivers.named.map NamedWaiver.name := by
    decide
  obtain ⟨r', o, o', hr', ho, ho', -, -, hadded, -⟩ :=
    CheckModel.evaluate_edited rfl rfl hrequirements hnames hbuild hbuild' hr
  obtain rfl := Option.some.inj (hwaivers.symm.trans ho)
  refine ⟨matcher', r', o', hbuild', hr', ho', (hadded [⟨"*_a", "later"⟩] rfl).1 _ ?_⟩
  rw [← Except.ok.inj hclassify]
  show _ ∈ (WaiverOutcome.resolve MatchKind.glob.covers [f] [w]).waived
  decide

end Edits

end Signoff

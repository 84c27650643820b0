/-
# `Signoff.Proofs.NamesAlone` — order and repetition of findings do not count

Parsers walk their logs in any order and may report a name many times, at many places.  As long as
findings are judged by their names (`Scoping.ByName`), two such parsers get the same verdict and the
same counts (`evaluate_alike`): what an evaluation takes from the evidence, apart from places and
texts, is which names each list has (`Evidence.SameNames`).

Deduplication keeps first occurrences, so the buckets of the two runs may differ in their order and
in every place; they have the same names, each once, and so one is a rearrangement of the other.
Buckets that follow the patterns have their names in the order of the patterns in both runs.
Waivers are matched by name, hence what holds of the violations holds of what is waived and of what
is left.
-/
import Signoff.Evaluation
import Signoff.Proofs.Buckets
import Signoff.Proofs.WaiverLists

namespace Signoff

open Finding (FirstFor Reported)

/-! ## The same names -/

namespace Finding

abbrev names (fs : List Finding) : List String := fs.map identifier

/-- The lists report the same names. -/
def SameNames (fs gs : List Finding) : Prop := ∀ name, Reported name fs ↔ Reported name gs

end Finding

/-- The evidence has the same shape, and corresponding lists report the same names. -/
inductive Evidence.SameNames : Evidence → Evidence → Prop
  | findings {fs gs : List Finding} : Finding.SameNames fs gs → SameNames (.scoped fs) (.scoped gs)
  | lists {vs vs' ps ps' : List Finding} : Finding.SameNames vs vs' → Finding.SameNames ps ps' →
      SameNames (.split vs ps) (.split vs' ps')

/-- What is found is judged by its name alone. -/
def Scoping.ByName : Scoping → Prop
  | .existence => True
  | .status correct => ∀ f g : Finding, f.identifier = g.identifier → correct f = correct g

section Raw

variable {s : Scoping} {patterns : List String} {e e' : Evidence} {fs gs : List Finding}
  {name : String}

/-- The first finding with a name may be another one, but it is judged alike. -/
theorem exists_judged_iff {correct : Finding → Bool} {verdict : Bool}
    (hs : (Scoping.status correct).ByName) (h : Finding.SameNames fs gs) :
    (∃ f, FirstFor name f fs ∧ correct f = verdict) ↔
      ∃ g, FirstFor name g gs ∧ correct g = verdict := by
  have transfer : ∀ {fs gs : List Finding}, (Reported name fs → Reported name gs) →
      (∃ f, FirstFor name f fs ∧ correct f = verdict) →
        ∃ g, FirstFor name g gs ∧ correct g = verdict := by
    rintro fs gs hr ⟨f, hf, hv⟩
    obtain ⟨g, hg⟩ := Finding.exists_firstFor_iff.mpr (hr hf.reported)
    exact ⟨g, hg, (hs g f (hg.name_eq.trans hf.name_eq.symm)).trans hv⟩
  exact ⟨transfer (h name).mp, transfer (h name).mpr⟩

theorem rawViolation_iff (hs : s.ByName) (h : e.SameNames e') :
    RawViolation s patterns e name ↔ RawViolation s patterns e' name := by
  cases h with
  | findings hf =>
      refine and_congr_right fun _ => ?_
      cases s with
      | existence => exact not_congr (hf name)
      | status correct => exact exists_judged_iff hs hf
  | lists hv _ => exact hv name

theorem rawSatisfied_iff (hs : s.ByName) (h : e.SameNames e') :
    RawSatisfied s patterns e name ↔ RawSatisfied s patterns e' name := by
  cases h with
  | findings hf =>
      refine and_congr_right fun _ => ?_
      cases s with
      | existence => exact hf name
      | status correct => exact exists_judged_iff hs hf
  | lists hv hp => exact and_congr (hp name) (not_congr (hv name))

theorem rawExtra_iff (h : e.SameNames e') :
    RawExtra patterns e name ↔ RawExtra patterns e' name := by
  cases h with
  | findings hf => exact and_congr_left' (hf name)
  | lists _ _ => exact Iff.rfl

end Raw

/-! ## Buckets -/

/-- Corresponding buckets have the same names, each as often.  What follows the patterns does so in
both. -/
inductive Classification.Alike : Classification → Classification → Prop
  | pattern {p p' : PatternPartition} :
      Finding.names p.found = Finding.names p'.found →
      Finding.names p.missing = Finding.names p'.missing →
      (Finding.names p.extra).Perm (Finding.names p'.extra) → Alike (.pattern p) (.pattern p')
  | boolean {b b' : BooleanPartition} :
      (Finding.names b.violations).Perm (Finding.names b'.violations) →
      (Finding.names b.passes).Perm (Finding.names b'.passes) → Alike (.boolean b) (.boolean b')

theorem eq_of_mem_filter_iff {α : Type} {p q : α → Bool} {xs : List α}
    (h : ∀ x, x ∈ xs.filter p ↔ x ∈ xs.filter q) : xs.filter p = xs.filter q := by
  refine List.filter_congr fun x hx => ?_
  have hx' := h x
  rw [List.mem_filter, List.mem_filter, and_iff_right hx, and_iff_right hx] at hx'
  exact Bool.eq_iff_iff.mpr hx'

namespace Classification

variable {s : Scoping} {patterns : List String} {e e' : Evidence} {c c' : Classification}

theorem Alike.perm_violations (h : c.Alike c') :
    (Finding.names c.violations).Perm (Finding.names c'.violations) := by
  cases h with
  | pattern _ hmissing _ => exact .of_eq hmissing
  | boolean hviolations _ => exact hviolations

theorem Alike.perm_satisfied (h : c.Alike c') :
    (Finding.names c.satisfied).Perm (Finding.names c'.satisfied) := by
  cases h with
  | pattern hfound _ _ => exact .of_eq hfound
  | boolean _ hpasses => exact hpasses

theorem Alike.perm_extra (h : c.Alike c') :
    (Finding.names c.extra).Perm (Finding.names c'.extra) := by
  cases h with
  | pattern _ _ hextra => exact hextra
  | boolean _ _ => exact .nil

theorem Sorts.perm_names (h : c.Sorts s patterns e) (h' : c'.Sorts s patterns e') (hs : s.ByName)
    (he : e.SameNames e') :
    (Finding.names c.violations).Perm (Finding.names c'.violations) ∧
      (Finding.names c.satisfied).Perm (Finding.names c'.satisfied) ∧
      (Finding.names c.extra).Perm (Finding.names c'.extra) := by
  refine ⟨?_, ?_, ?_⟩
  · refine (List.perm_ext_iff_of_nodup h.nodup_violations h'.nodup_violations).mpr fun name => ?_
    rw [h.mem_violations, h'.mem_violations, rawViolation_iff hs he]
  · refine (List.perm_ext_iff_of_nodup h.nodup_satisfied h'.nodup_satisfied).mpr fun name => ?_
    rw [h.mem_satisfied, h'.mem_satisfied, rawSatisfied_iff hs he]
  · refine (List.perm_ext_iff_of_nodup h.nodup_extra h'.nodup_extra).mpr fun name => ?_
    rw [h.mem_extra, h'.mem_extra, rawExtra_iff he]

theorem alike_pattern {fs gs : List Finding} (hs : s.ByName) (h : Finding.SameNames fs gs) :
    Alike (.pattern (.classify s fs patterns)) (.pattern (.classify s gs patterns)) := by
  obtain ⟨hmissing, hfound, hextra⟩ := (sorts_pattern s fs patterns).perm_names
    (sorts_pattern s gs patterns) hs (.findings h)
  simp only [violations, satisfied, extra, Finding.names, PatternPartition.names_found,
    PatternPartition.names_missing] at hmissing hfound hextra
  refine .pattern ?_ ?_ hextra
  -- both runs filter the list of the patterns, and lists of one order with one membership are equal
  · rw [Finding.names, Finding.names, PatternPartition.names_found, PatternPartition.names_found]
    exact eq_of_mem_filter_iff fun _ => hfound.mem_iff
  · rw [Finding.names, Finding.names, PatternPartition.names_missing,
      PatternPartition.names_missing]
    exact eq_of_mem_filter_iff fun _ => hmissing.mem_iff

theorem alike_boolean {vs vs' ps ps' : List Finding} (hv : Finding.SameNames vs vs')
    (hp : Finding.SameNames ps ps') :
    Alike (.boolean (.classify vs ps)) (.boolean (.classify vs' ps')) := by
  obtain ⟨hviolations, hpasses, -⟩ := (sorts_boolean .existence [] vs ps).perm_names
    (sorts_boolean .existence [] vs' ps') trivial (.lists hv hp)
  exact .boolean hviolations hpasses

/-- Either both shapes fit the type or neither does; if they fit, the buckets are alike. -/
theorem classify_alike (type : CheckType) (patterns : List String) (hs : s.ByName)
    (h : e.SameNames e') :
    (∃ err, classify type s patterns e = .error err ∧ classify type s patterns e' = .error err) ∨
      ∃ c c', classify type s patterns e = .ok c ∧ classify type s patterns e' = .ok c' ∧
        c.Alike c' ∧
        (type.usesPatterns = true → Finding.names c.violations = Finding.names c'.violations) := by
  cases h with
  | @findings fs gs hf =>
      cases htype : type.usesPatterns with
      | false =>
          simp only [classify, htype]
          exact .inl ⟨_, rfl, rfl⟩
      | true =>
          have halike : Alike (.pattern (.classify s fs patterns))
              (.pattern (.classify s gs patterns)) := alike_pattern hs hf
          simp only [classify, htype]
          refine .inr ⟨_, _, rfl, rfl, halike, fun _ => ?_⟩
          cases halike with
          | pattern _ hmissing _ => exact hmissing
  | lists hv hp =>
      cases htype : type.usesPatterns with
      | false =>
          simp only [classify, htype]
          exact .inr ⟨_, _, rfl, rfl, alike_boolean hv hp,
            fun h => absurd h Bool.false_ne_true⟩
      | true =>
          simp only [classify, htype]
          exact .inl ⟨_, rfl, rfl⟩

end Classification

/-! ## Waivers -/

namespace WaiverOutcome

variable {m : Matcher} {vs vs' : List Finding} {ws : List NamedWaiver}

abbrev waivedNames (o : WaiverOutcome) : List String := o.waived.map fun v => v.finding.identifier

abbrev unwaivedNames (o : WaiverOutcome) : List String := Finding.names o.unwaived

/-- Some waiver covers the name. -/
def covered (m : Matcher) (ws : List NamedWaiver) (name : String) : Bool :=
  ws.any fun w => m name w.name

theorem isSome_waive? (f : Finding) : (waive? m ws f).isSome = covered m ws f.identifier := by
  rw [waive?, Option.isSome_map, Bool.eq_iff_iff, List.find?_isSome, covered, List.any_eq_true]

theorem waivedNames_resolve :
    (resolve m vs ws).waivedNames = (Finding.names vs).filter (covered m ws) := by
  have hmap : (resolve m vs ws).waivedNames =
      ((resolve m vs ws).waived.map WaivedFinding.finding).map Finding.identifier := by
    rw [List.map_map]
    rfl
  rw [hmap, findings_waived, List.filter_map]
  congr 2
  exact funext isSome_waive?

theorem unwaivedNames_resolve :
    (resolve m vs ws).unwaivedNames = (Finding.names vs).filter fun name => !covered m ws name := by
  simp only [unwaivedNames, Finding.names, resolve, List.filter_map]
  congr 2
  funext f
  rw [← Option.not_isSome, isSome_waive?]
  rfl

theorem unused_resolve (h : (Finding.names vs).Perm (Finding.names vs')) :
    (resolve m vs ws).unused = (resolve m vs' ws).unused := by
  have hused : ∀ i,
      (usedPositions m vs ws).contains i = (usedPositions m vs' ws).contains i := by
    intro i
    have hany := h.any_eq (f := fun name => (ws.findIdx? fun w => m name w.name) == some i)
    rw [List.any_map, List.any_map] at hany
    rw [contains_usedPositions, contains_usedPositions]
    exact hany
  simp only [resolve, unusedWaivers, hused]

/-- The outcomes tell the same names apart, and the same waivers are unused. -/
structure Alike (o o' : WaiverOutcome) : Prop where
  perm_waived : o.waivedNames.Perm o'.waivedNames
  perm_unwaived : o.unwaivedNames.Perm o'.unwaivedNames
  unused_eq : o.unused = o'.unused

theorem alike_resolve (m : Matcher) (ws : List NamedWaiver)
    (h : (Finding.names vs).Perm (Finding.names vs')) :
    (resolve m vs ws).Alike (resolve m vs' ws) where
  perm_waived := by
    rw [waivedNames_resolve, waivedNames_resolve]
    exact h.filter _
  perm_unwaived := by
    rw [unwaivedNames_resolve, unwaivedNames_resolve]
    exact h.filter _
  unused_eq := unused_resolve h

end WaiverOutcome

/-! ## Verdict and counts -/

section Congruence

variable {c c' : Classification} {o o' : Option WaiverOutcome}

theorem BucketCounts.size_eq_of_perm {α β : Type} {key : α → β} {xs ys : List α}
    (h : (xs.map key).Perm (ys.map key)) : size xs = size ys := by
  have hlength := h.length_eq
  rw [List.length_map, List.length_map] at hlength
  rw [size, size, hlength]

theorem isEmpty_eq_of_perm {α β : Type} {key : α → β} {xs ys : List α}
    (h : (xs.map key).Perm (ys.map key)) : xs.isEmpty = ys.isEmpty := by
  rw [← List.isEmpty_map (f := key), ← List.isEmpty_map (f := key), h.isEmpty_eq]

theorem Verdict.resolve_alike (h : c.Alike c') (ho : Option.Rel WaiverOutcome.Alike o o')
    (mode : WaiverMode) : resolve c o mode = resolve c' o' mode := by
  have hviolations := isEmpty_eq_of_perm h.perm_violations
  cases mode with
  | disabled => simp only [resolve, hviolations]
  | forcedPass => rfl
  | selective =>
      cases ho with
      | none => simp only [resolve, hviolations]
      | some ho =>
          simp only [resolve, isEmpty_eq_of_perm ho.perm_unwaived,
            isEmpty_eq_of_perm ho.perm_waived]

theorem BucketCounts.count_alike (h : c.Alike c') (ho : Option.Rel WaiverOutcome.Alike o o')
    (comments : Nat) : count c o comments = count c' o' comments := by
  have hsatisfied := size_eq_of_perm h.perm_satisfied
  have hviolations := size_eq_of_perm h.perm_violations
  have hextra := size_eq_of_perm h.perm_extra
  have houtcome : (o.elim 0 fun o => size o.waived) = (o'.elim 0 fun o => size o.waived) ∧
      (o.elim 0 fun o => size o.unwaived) = (o'.elim 0 fun o => size o.unwaived) ∧
      (o.elim 0 fun o => size o.unused) = (o'.elim 0 fun o => size o.unused) := by
    cases ho with
    | none => exact ⟨rfl, rfl, rfl⟩
    | some ho =>
        exact ⟨size_eq_of_perm ho.perm_waived, size_eq_of_perm ho.perm_unwaived,
          congrArg size ho.unused_eq⟩
  obtain ⟨hwaived, hunwaived, hunused⟩ := houtcome
  -- which of the two counts the violations fill is read off the classification
  cases h <;>
    simp only [Classification.violations] at hviolations <;>
    simp only [count, hsatisfied, hextra, hviolations, hwaived, hunwaived, hunused]

end Congruence

/-! ## Evaluations -/

namespace Evaluation

/-- The evaluations say the same of the check, and their buckets have the same names. -/
structure Alike (r r' : Evaluation) : Prop where
  type_eq : r.type = r'.type
  verdict_eq : r.verdict = r'.verdict
  counts_eq : r.counts = r'.counts
  buckets : r.classification.Alike r'.classification
  waivers : Option.Rel WaiverOutcome.Alike r.waivers r'.waivers
  /-- Where violations are missing patterns, they are told apart in the order of the patterns. -/
  names_eq : r.type.usesPatterns = true →
    r.waivers.map WaiverOutcome.waivedNames = r'.waivers.map WaiverOutcome.waivedNames ∧
      r.waivers.map WaiverOutcome.unwaivedNames = r'.waivers.map WaiverOutcome.unwaivedNames

variable {m : CheckModel} {ctx : CheckContext} {c c' : Classification}

theorem outcome?_alike (matcher : Matcher) (h : c.Alike c') :
    Option.Rel WaiverOutcome.Alike (outcome? m c matcher) (outcome? m c' matcher) := by
  cases hmode : m.waivers.mode <;> simp only [outcome?, hmode]
  · exact .none
  · exact .none
  · exact .some (WaiverOutcome.alike_resolve matcher m.waivers.named h.perm_violations)

theorem ofClassification_alike (h : c.Alike c')
    (hnames : m.type.usesPatterns = true →
      Finding.names c.violations = Finding.names c'.violations) :
    (ofClassification m ctx c).Alike (ofClassification m ctx c') where
  type_eq := rfl
  verdict_eq := Verdict.resolve_alike h (outcome?_alike ctx.matcher h) m.waivers.mode
  counts_eq := BucketCounts.count_alike h (outcome?_alike ctx.matcher h) (commentCount m.waivers)
  buckets := h
  waivers := outcome?_alike ctx.matcher h
  names_eq := by
    intro hpatterns
    have hnames := hnames hpatterns
    simp only [ofClassification, outcome?]
    cases m.waivers.mode with
    | disabled => exact ⟨rfl, rfl⟩
    | forcedPass => exact ⟨rfl, rfl⟩
    | selective =>
        simp only [Option.map_some, WaiverOutcome.waivedNames_resolve,
          WaiverOutcome.unwaivedNames_resolve, hnames, and_self]

end Evaluation

/-- **Names alone.**  Let evidence be exchanged for other evidence of the same shape that reports
the same names, in another order, more or less often and at other places, and let findings be judged
by their names.  Then both evaluations end with the same error, or they have the same type, verdict,
counts and unused waivers, and the same names in every bucket; where patterns are searched for, what
is found, missing, waived and left has its names in the same order. -/
theorem CheckModel.evaluate_alike {m : CheckModel} {e e' : Evidence} {ctx : CheckContext}
    (hscoping : ctx.scoping.ByName) (h : e.SameNames e') :
    (∃ err, m.evaluate e ctx = .error err ∧ m.evaluate e' ctx = .error err) ∨
      ∃ r r', m.evaluate e ctx = .ok r ∧ m.evaluate e' ctx = .ok r' ∧ r.Alike r' := by
  cases hvalid : m.validate with
  | error err =>
      simp only [evaluate, hvalid]
      exact .inl ⟨err, rfl, rfl⟩
  | ok warnings =>
      simp only [evaluate, hvalid]
      rcases Classification.classify_alike m.type m.requirements.patterns hscoping h with
        ⟨err, herr, herr'⟩ | ⟨c, c', hc, hc', halike, hnames⟩
      · rw [herr, herr']
        exact .inl ⟨err, rfl, rfl⟩
      · rw [hc, hc']
        exact .inr ⟨_, _, rfl, rfl, Evaluation.ofClassification_alike halike hnames⟩

/-- The second parser meets `NET_A` twice and the others the other way round. -/
theorem CheckModel.evaluate_alike_repeated :
    let m : CheckModel :=
      { requirements := { patterns := ["NET_B", "NET_A", "NET_C"] },
        waivers := .selective [⟨"NET_C", "known"⟩, ⟨"OLD", ""⟩] }
    let e : Evidence := .scoped
      [⟨"NET_X", none, none, ""⟩, ⟨"NET_A", some 1, none, "bad"⟩, ⟨"NET_Y", none, none, ""⟩]
    let e' : Evidence := .scoped
      [⟨"NET_Y", some 8, none, ""⟩, ⟨"NET_A", some 5, none, "ok"⟩, ⟨"NET_X", none, none, ""⟩,
       ⟨"NET_A", some 9, none, ""⟩]
    let ctx : CheckContext := { checkId := "C" }
    ∃ r r', m.evaluate e ctx = .ok r ∧ m.evaluate e' ctx = .ok r' ∧ r.Alike r' ∧
      r'.counts.unwaived = 1 := by
  intro m e e' ctx
  have hnames : e.SameNames e' := by
    refine .findings fun name => ?_
    simp only [Reported, List.mem_cons, List.not_mem_nil, or_false, exists_eq_or_imp,
      exists_eq_left]
    tauto
  have hscoping : ctx.scoping.ByName := trivial
  rcases evaluate_alike (m := m) hscoping hnames with ⟨err, herr, -⟩ | ⟨r, r', hr, hr', halike⟩
  · cases herr
  · refine ⟨r, r', hr, hr', halike, ?_⟩
    obtain rfl := Except.ok.inj hr'
    decide

end Signoff

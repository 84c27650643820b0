/-
# `Signoff.Proofs.Examinations` — two examinations of one result

A result is examined twice in its life.  The reader (`CheckResult.checked`) walks the groups, compares
the names of each with the names of its items in order, and stops at the first fault.  The structural
examination (`Conformance.structuralErrors`) looks at a JSON value, gathers the listed entries and the
entries that have items, and says everything that is wrong.

They look at different things: the reader asks for orders and severities that the other never sees,
and does not mind a name that is listed twice as long as it has two items.  On what the reader accepts
the second examination therefore has one thing left to find, which is repetition
(`CheckResult.examinations_agree`).  The reason is `CheckResult.Consistent.perm_backed`: labels are
distinct, so the items fall apart into the groups, and the entries of the items are the listed entries
in another order.
-/
import Signoff.Proofs.Structure

namespace Signoff

open Signoff.Json (Value)

namespace CheckResult

/-- What the reader asks for, without a walk. -/
theorem consistent_iff {r : CheckResult} :
    r.Consistent ↔
      (r.groups.map ResultGroup.label).Nodup ∧
      (∀ g ∈ r.groups, (r.detailsIn g.label).map DetailItem.name = g.items ∧
        ∀ d ∈ r.detailsIn g.label, d.severity = g.severity) ∧
      (∀ d ∈ r.details, ∃ g ∈ r.groups, g.label = d.group) ∧
      ((∃ g ∈ r.groups, g.severity = .error) ↔ r.status = .fail) := by
  constructor
  · intro h
    exact ⟨h.nodup_labels, fun g hg => ⟨h.names_eq g hg, h.severity_eq g hg⟩, h.exists_group,
      h.status_iff⟩
  · rintro ⟨hlabels, hgroups, howned, hstatus⟩
    exact ⟨hlabels, fun g hg => (hgroups g hg).1, fun g hg => (hgroups g hg).2, howned, hstatus⟩

theorem ofText?_pretty (r : CheckResult) :
    Value.ofText? r.toJson.pretty = some r.toJson.canonical :=
  Value.ofText?_pretty (Value.Plain.object r.plain_members) (by decide)

/-- **Two examinations.**  The reader accepts a result, and then as it stands, exactly if its labels
are distinct, every group lists the names of its items in order and has their severity, every item
has its group, and groups of errors go with a FAIL.  What it accepts has as many items for an entry
as the entry is listed times, and the structural examination of its JSON, alone or in a report, is
content exactly if no group lists a name twice. -/
theorem examinations_agree (status : Status) (waived : Bool) (groups : List ResultGroup)
    (details : List DetailItem) :
    let r : CheckResult := ⟨status, waived, groups, details⟩
    (∀ r', r.checked = .ok r' ↔
      r' = r ∧
        (groups.map ResultGroup.label).Nodup ∧
        (∀ g ∈ groups, (details.filter (·.group == g.label)).map DetailItem.name = g.items ∧
          ∀ d ∈ details.filter (·.group == g.label), d.severity = g.severity) ∧
        (∀ d ∈ details, ∃ g ∈ groups, g.label = d.group) ∧
        ((∃ g ∈ groups, g.severity = .error) ↔ status = .fail)) ∧
    (r.checked = .ok r →
      ((groups.flatMap fun g => g.items.map fun name => (g.label, name) :
          List (String × String)) : Multiset (String × String)) =
        (details.map fun d => (d.group, d.name) : List (String × String)) ∧
      (∃ v, Value.ofText? r.toJson.pretty = some v ∧
        (Conformance.structuralErrors v = [] ↔ ∀ g ∈ groups, g.items.Nodup)) ∧
      ∀ report : Report, report.result = r →
        ∃ v, Value.ofText? report.serialize = some v ∧
          (Conformance.structuralErrors v = [] ↔ ∀ g ∈ groups, g.items.Nodup)) := by
  intro r
  constructor
  · intro r'
    rw [checked_eq_ok_iff, consistent_iff, and_comm, eq_comm]
    rfl
  · intro haccepted
    have hr : r.Consistent := (checked_eq_ok_iff.mp haccepted).1
    refine ⟨Multiset.coe_eq_coe.mpr hr.perm_backed.symm, ?_, ?_⟩
    · exact ⟨_, r.ofText?_pretty, Conformance.structuralErrors_of_consistent r.heldBy_members hr⟩
    · intro report hreport
      have hresult : report.result.Consistent := hreport ▸ hr
      have hcontent := Report.structuralErrors_eq_nil_iff hresult
      rw [hreport] at hcontent
      exact ⟨_, report.ofText?_serialize, hcontent⟩

/-- A name that is listed twice, with two items, is accepted by the reader only. -/
theorem examinations_agree_repeated :
    let r : CheckResult :=
      { status := .fail
        waived := false
        groups := [⟨"ERROR01", .error, "Bad", ["a", "a"]⟩, ⟨"INFO01", .info, "Good", ["a"]⟩]
        details :=
          [⟨"a", .error, "ERROR01", "bad", none, none, none, ""⟩,
           ⟨"a", .info, "INFO01", "good", some 3, none, none, ""⟩,
           ⟨"a", .error, "ERROR01", "bad", none, none, none, ""⟩] }
    r.checked = .ok r ∧
      ∃ v, Value.ofText? r.toJson.pretty = some v ∧ Conformance.structuralErrors v ≠ [] := by
  intro r
  have haccepted : r.checked = .ok r := by decide
  obtain ⟨-, ⟨v, hv, hcontent⟩, -⟩ :=
    (examinations_agree r.status r.waived r.groups r.details).2 haccepted
  refine ⟨haccepted, v, hv, fun hnil => ?_⟩
  have htwice : ¬ ["a", "a"].Nodup := by decide
  exact htwice (hcontent.mp hnil ⟨"ERROR01", .error, "Bad", ["a", "a"]⟩ (.head _))

end CheckResult

end Signoff

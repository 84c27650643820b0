/-
# `Signoff.Proofs.Tallies` — every view counts the same items

The log is written from the groups of a report, the rpt view and the counts of the page from its
items, each of which says its own severity.  Nothing in the views compares the two.  That they agree
is due to the reader: the items fall apart into the groups by their labels and have the severity of
their group, so the items of a severity are those of the groups of that severity
(`CheckResult.Consistent.perm_severity`), wherever they stand in the list.

The views are texts, and a name may hold any text, so nothing can be counted by looking for words in
them.  What is counted are the parts they are put together from: the blocks of the log, the sections
of the rpt view (`Shown.rptSections`) and the lines of the page's head.
-/
import Signoff.Proofs.SavedReport

namespace Signoff

/-! ## The items of a severity -/

namespace CheckResult

variable {r : CheckResult}

/-- The names that the groups of the severity list, group by group. -/
def listed (r : CheckResult) (s : Severity) : List String :=
  (r.groups.filter (·.severity == s)).flatMap ResultGroup.items

def detailsOf (r : CheckResult) (s : Severity) : List DetailItem :=
  r.details.filter (·.severity == s)

theorem Consistent.perm_severity (h : r.Consistent) (s : Severity) :
    ((r.groups.filter (·.severity == s)).flatMap fun g => r.detailsIn g.label).Perm
      (r.detailsOf s) := by
  -- a group gives all its items to its severity and none to the others
  have hpart : ∀ g ∈ r.groups, (r.detailsIn g.label).filter (·.severity == s) =
      if g.severity == s then r.detailsIn g.label else [] := by
    intro g hg
    split
    · rename_i hs
      exact List.filter_eq_self.mpr fun d hd => by rw [h.severity_eq g hg d hd, hs]
    · rename_i hs
      refine List.filter_eq_nil_iff.mpr fun d hd => ?_
      rwa [h.severity_eq g hg d hd]
  have hgroups : ((r.groups.filter (·.severity == s)).flatMap fun g => r.detailsIn g.label) =
      r.groups.flatMap fun g => (r.detailsIn g.label).filter (·.severity == s) := by
    have hnone : ∀ g ∈ r.groups, (g.severity == s) = false →
        (r.detailsIn g.label).filter (·.severity == s) = [] := by
      intro g hg hs
      rw [hpart g hg, hs, if_neg Bool.false_ne_true]
    rw [← flatMap_filter_of_eq_nil hnone]
    refine List.flatMap_congr fun g hg => ?_
    obtain ⟨hg, hs⟩ := List.mem_filter.mp hg
    rw [hpart g hg, if_pos hs]
  rw [hgroups, ← List.filter_flatMap]
  exact h.perm_details.filter _

/-- The names of the items of a severity are the names that its groups list. -/
theorem Consistent.perm_listed (h : r.Consistent) (s : Severity) :
    ((r.detailsOf s).map DetailItem.name).Perm (r.listed s) := by
  have hnames : (r.groups.filter (·.severity == s)).flatMap
      (fun g => (r.detailsIn g.label).map DetailItem.name) = r.listed s :=
    List.flatMap_congr fun g hg => h.names_eq g (List.mem_of_mem_filter hg)
  have hperm := ((h.perm_severity s).map DetailItem.name).symm
  rwa [List.map_flatMap, hnames] at hperm

theorem Consistent.length_detailsOf (h : r.Consistent) (s : Severity) :
    (r.detailsOf s).length = (r.listed s).length := by
  rw [← (h.perm_listed s).length_eq, List.length_map]

end CheckResult

/-! ## The sections of the rpt view -/

namespace Shown

/-- A section of the rpt view. -/
structure RptSection where
  severity : Severity
  /-- The number of items that the heading announces. -/
  announced : Nat
  /-- The items with the numbers they are shown under. -/
  entries : List (ShownItem × Nat)

def RptSection.text (x : RptSection) : String :=
  x.severity.title ++ " Occurrence: " ++ Text.decimal x.announced ++ "\n" ++
    lines (fun e => rptItem x.severity e.1 e.2) x.entries

end Shown

/-! ## Views of a report -/

namespace Report

variable {r : Report}

end Report

/-! ## Two groups of errors with their items mixed, and a group of warnings without items -/

section Scattered

end Scattered

end Signoff

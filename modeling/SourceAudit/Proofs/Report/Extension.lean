import SourceAudit.Proofs.Report
import SourceAudit.Proofs.Text.Lowercase
import SourceAudit.Proofs.Text.Trim

/-!
# The extension that a report shows

A report shows the extension as it is written in the name of the file, in lower case; the profile is
chosen by what is left of it without the blanks around it (`normalizeExtension_extensionOf`). The two
choose the same profile where the extension has no such blanks. Where it has some the catalog does not
list it, and the report has findings under an extension that has no profile as soon as the profile of
the trimmed one detects anything (`report_extension_exact`).
-/

namespace SourceAudit

open Text (trim IsLowered)

/-- An extension has no capitals. -/
theorem isLowered_of_mem_extensionOf (fileName : LooseText) :
    ∀ c ∈ (extensionOf fileName).shown.toList, IsLowered c := by
  rw [extensionOf]
  split
  next =>
    refine LooseText.forall_mem_shown_mapParts (by decide +kernel) fun part _ c member => ?_
    rw [String.toList_ofList] at member
    exact Text.isLowered_of_mem_lower member
  next => exact nofun

/-- An extension has no dots. -/
theorem dot_notMem_extensionOf (fileName : LooseText) : '.' ∉ (extensionOf fileName).shown.toList := by
  rw [extensionOf]
  split
  next =>
    have other : ∀ c ∈ ((fileName.afterLast '.').lower).shown.toList, c ≠ '.' := by
      refine LooseText.forall_mem_shown_mapParts (by decide) fun part inside c member => ?_
      rintro rfl
      rw [String.toList_ofList] at member
      refine Text.dot_not_mem_lower (fun dot => ?_) member
      exact LooseText.mark_notMem_afterLast '.' fileName (inside '.' dot)
    exact fun dot => other '.' dot rfl
  next => exact List.not_mem_nil

/-- **The profile of a file is chosen by its extension without the blanks around it.** Lower casing the
extension once more changes nothing, and there are no dots to take off. -/
theorem normalizeExtension_extensionOf (fileName : LooseText) :
    normalizeExtension (extensionOf fileName).shown =
      String.ofList (trim (extensionOf fileName).shown.toList) := by
  have undotted : (trim (extensionOf fileName).shown.toList).dropWhile (· == '.') =
      trim (extensionOf fileName).shown.toList := by
    rw [List.dropWhile_eq_self_iff]
    intro nonempty dot
    refine dot_notMem_extensionOf fileName (Text.mem_of_mem_trim ?_)
    rw [← eq_of_beq dot]
    exact List.getElem_mem nonempty
  have lowered : ∀ c ∈ trim (extensionOf fileName).shown.toList, IsLowered c :=
    fun c member => isLowered_of_mem_extensionOf fileName c (Text.mem_of_mem_trim member)
  rw [normalizeExtension, undotted, Text.lower_eq_self lowered]

namespace Catalog

theorem mem_supportedExtensions_iff {extension : String} :
    extension ∈ supportedExtensions ↔ ∃ rules, (extension, rules) ∈ profiles := by
  rw [supportedExtensions, List.mem_mergeSort, List.mem_map]
  constructor
  · rintro ⟨⟨other, rules⟩, listed, rfl⟩
    exact ⟨rules, listed⟩
  · rintro ⟨rules, listed⟩
    exact ⟨_, listed, rfl⟩

/-- No extension of the catalog has blanks around it. -/
theorem trim_of_mem_profiles :
    ∀ entry ∈ profiles, String.ofList (trim entry.1.toList) = entry.1 := by
  decide +kernel

theorem trim_of_mem_supportedExtensions {extension : String}
    (supported : extension ∈ supportedExtensions) :
    String.ofList (trim extension.toList) = extension := by
  obtain ⟨rules, listed⟩ := mem_supportedExtensions_iff.mp supported
  exact trim_of_mem_profiles (extension, rules) listed

theorem mem_supportedExtensions_of_profileFor {extension : String}
    (present : profileFor extension ≠ []) : extension ∈ supportedExtensions := by
  rcases profileFor_cases extension with none | listed
  · exact (present none).elim
  · exact mem_supportedExtensions_iff.mpr ⟨profileFor extension, listed⟩

/-- No extension of the catalog shows a surrogate. -/
theorem replacement_notMem_supported {extension : String}
    (supported : extension ∈ supportedExtensions) : Text.replacement ∉ extension.toList := by
  have each : ∀ entry ∈ profiles, Text.replacement ∉ entry.1.toList := by decide +kernel
  obtain ⟨rules, listed⟩ := mem_supportedExtensions_iff.mp supported
  exact each (extension, rules) listed

/-- What the profile of an extension detects in a text. -/
def detected (extension : String) (text : List Char) : List Finding :=
  (profileFor extension).flatMap (·.findings text)

variable {extension trimmed : String} {text : List Char}

theorem mem_supportedExtensions_of_detected (present : detected extension text ≠ []) :
    extension ∈ supportedExtensions := by
  refine mem_supportedExtensions_of_profileFor fun none => present ?_
  rw [detected, none, List.flatMap_nil]

theorem mem_supportedExtensions_iff_trimmed
    (trims : String.ofList (trim extension.toList) = trimmed)
    (supported : trimmed ∈ supportedExtensions) :
    extension ∈ supportedExtensions ↔ trimmed = extension := by
  constructor
  · intro shown
    exact trims.symm.trans (trim_of_mem_supportedExtensions shown)
  · rintro rfl
    exact supported

/-- The profiles of an extension and of the same one without the blanks around it detect the same when
there are no such blanks, or when nothing is detected. -/
theorem detected_eq_iff (trims : String.ofList (trim extension.toList) = trimmed) :
    detected trimmed text = detected extension text ↔
      trimmed = extension ∨ detected trimmed text = [] := by
  by_cases same : trimmed = extension
  · rw [same]
    exact iff_of_true rfl (.inl rfl)
  · have none : detected extension text = [] := by
      by_contra present
      exact same (trims.symm.trans
        (trim_of_mem_supportedExtensions (mem_supportedExtensions_of_detected present)))
    rw [none]
    exact (or_iff_right same).symm

end Catalog

/-- **Which extension has chosen the profile of a report.** The findings of a report are what the
profile of its extension detects once the blanks around the extension are taken off. They are what the
profile of the extension as it is shown detects exactly when there are no such blanks, or nothing is
found at all. Where something is found, the extension holds no lone surrogate, the trimmed one has a
profile, and the one that is shown has a profile exactly when there are no such blanks. -/
theorem report_extension_exact (content : String) (fileName : LooseText) :
    let report : Report := Report.of content fileName none
    let trimmed := String.ofList (trim report.extension.shown.toList)
    report.findings = Catalog.detected trimmed content.toList ∧
      (report.findings = Catalog.detected report.extension.shown content.toList ↔
        trimmed = report.extension.shown ∨ report.findings = []) ∧
      (report.findings ≠ [] → report.extension.isUnicode = true ∧
        trimmed ∈ Catalog.supportedExtensions ∧
        (report.extension.shown ∈ Catalog.supportedExtensions ↔
          trimmed = report.extension.shown)) := by
  simp only [Report.extension_of, Report.findings_of, keepSelected_none]
  have found : scan content (extensionOf fileName).shown =
      Catalog.detected (String.ofList (trim (extensionOf fileName).shown.toList)) content.toList := by
    rw [scan, normalizeExtension_extensionOf, Catalog.detected]
  rw [found]
  refine ⟨rfl, Catalog.detected_eq_iff rfl, fun present => ?_⟩
  have supported := Catalog.mem_supportedExtensions_of_detected present
  refine ⟨?_, supported, Catalog.mem_supportedExtensions_iff_trimmed rfl supported⟩
  by_contra lone
  refine Catalog.replacement_notMem_supported supported ?_
  rw [String.toList_ofList]
  exact Text.mem_trim_of_solid
    (LooseText.replacement_mem_shown (Bool.eq_false_iff.mpr lone)) (by decide +kernel)

/-- A blank after the last dot: the report has a finding, under an extension without a profile. -/
theorem report_extension_unlisted_blank :
    let report := Report.of "eval(x)" "a. js" none
    report.extension = " js" ∧ report.findings ≠ [] ∧
      report.findings ≠ Catalog.detected report.extension.shown "eval(x)".toList ∧
      report.extension.shown ∉ Catalog.supportedExtensions := by
  intro report
  have shown : report.extension = " js" := by decide +kernel
  have padded : String.ofList (trim report.extension.shown.toList) ≠ report.extension.shown := by
    rw [shown]
    decide
  have present : report.findings ≠ [] := by decide +kernel
  obtain ⟨-, chosen, supported⟩ := report_extension_exact "eval(x)" "a. js"
  exact ⟨shown, present, fun same => (chosen.mp same).elim padded present,
    fun listed => padded ((supported present).2.2.mp listed)⟩

end SourceAudit

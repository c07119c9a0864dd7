import SourceAudit.FileTree.Basic
import Mathlib.Tactic.ByCases

/-!
# What file operations keep

File operations keep every directory where it is (`FileTree.Keeps`), so that a path that leads
somewhere still leads there afterwards (`FileTree.Keeps.locate`). Writing and moving a file are
described by what stands at the locations they touch.
-/

namespace SourceAudit.FileTree

variable {tree later last : FileTree} {location : Location} {entry : FileEntry}

theorem get?_root (tree : FileTree) : tree.get? [] = some .directory := rfl

theorem get?_remove_self (inside : location ≠ []) : (tree.remove location).get? location = none := by
  simp [get?, remove, inside, List.find?_filter]

theorem get?_remove_other {other : Location} (apart : other ≠ location) :
    (tree.remove location).get? other = tree.get? other := by
  by_cases root : other = []
  · rw [root, get?_root, get?_root]
  · have kept : (tree.remove location).entries.find? (·.1 = other) =
        tree.entries.find? (·.1 = other) := by
      rw [remove, List.find?_filter]
      congr 1
      funext candidate
      by_cases same : candidate.1 = other
      · simp [same, apart]
      · simp [same]
    rw [get?, get?, if_neg root, if_neg root, kept]

theorem get?_set_self (inside : location ≠ []) :
    (tree.set location entry).get? location = some entry := by
  simp [get?, set, inside]

theorem get?_set_other {other : Location} (apart : other ≠ location) :
    (tree.set location entry).get? other = tree.get? other := by
  have removed : (tree.remove location).get? other = tree.get? other := get?_remove_other apart
  rw [← removed]
  by_cases root : other = []
  · rw [root, get?_root, get?_root]
  · rw [get?, get?, if_neg root, if_neg root, set, List.find?_cons_of_neg]
    simpa using Ne.symm apart

/-- What a file operation keeps: directories, and the place that relative paths start from. So a way
that led somewhere before still leads there. -/
structure Keeps (tree later : FileTree) : Prop where
  start : later.workingDirectory = tree.workingDirectory
  directories : ∀ location, tree.get? location = some .directory →
    later.get? location = some .directory

/-- Putting something where no directory is keeps the directories. -/
theorem keeps_set (free : tree.get? location ≠ some .directory) :
    tree.Keeps (tree.set location entry) := by
  refine ⟨rfl, ?_⟩
  intro other directory
  rw [get?_set_other]
  · exact directory
  · intro same
    exact free (same ▸ directory)

/-- Taking away what is no directory keeps the directories. -/
theorem keeps_remove (free : tree.get? location ≠ some .directory) :
    tree.Keeps (tree.remove location) := by
  refine ⟨rfl, ?_⟩
  intro other directory
  rw [get?_remove_other]
  · exact directory
  · intro same
    exact free (same ▸ directory)

theorem Keeps.trans (first : tree.Keeps later) (second : later.Keeps last) : tree.Keeps last :=
  ⟨second.start.trans first.start,
    fun location directory => second.directories location (first.directories location directory)⟩

/-- Where one component leads from a directory, whatever else the tree holds. Only a name that is
too long leads nowhere. -/
def enter (location : Location) (name : String) : Except FileError Location :=
  if name = "." then .ok location
  else if name = ".." then .ok location.dropLast
  else if FilePath.maxNameBytes < FilePath.byteLength name then .error .nameTooLong
  else .ok (location ++ [name])

/-- Components lead somewhere if the first one does from a directory, and the others do from there. -/
theorem follow_cons_eq_ok_iff {start : Location} {name : String} {rest : List String} :
    tree.follow start (name :: rest) = .ok location ↔
      tree.get? start = some .directory ∧
        ∃ next, enter start name = .ok next ∧ tree.follow next rest = .ok location := by
  rw [FileTree.follow]
  unfold enter
  split
  next absent => simp [absent]
  next bytes present => simp [present]
  next directory =>
    rw [and_iff_right directory]
    split
    next => simp
    next =>
      split
      next => simp
      next =>
        split
        next => simp
        next => simp

/-- Components that lead somewhere still lead there. -/
theorem Keeps.follow (kept : tree.Keeps later) {start : Location} {components : List String}
    (leads : tree.follow start components = .ok location) :
    later.follow start components = .ok location := by
  induction components generalizing start with
  | nil => exact leads
  | cons name rest ih =>
      obtain ⟨directory, next, entered, leads⟩ := follow_cons_eq_ok_iff.mp leads
      exact follow_cons_eq_ok_iff.mpr ⟨kept.directories start directory, next, entered, ih leads⟩

theorem Keeps.locate (kept : tree.Keeps later) {path : FilePath}
    (leads : tree.locate path = .ok location) : later.locate path = .ok location := by
  unfold FileTree.locate at leads ⊢
  split at leads
  · cases leads
  next short =>
    rw [if_neg short, kept.start]
    exact kept.follow leads

/-- Where components lead, all but the last one lead to a directory, and the last one leads on from
there. -/
theorem exists_parent {start : Location} {components : List String} {name : String}
    (leads : tree.follow start (components ++ [name]) = .ok location) :
    ∃ parent, tree.follow start components = .ok parent ∧ tree.get? parent = some .directory ∧
      enter parent name = .ok location := by
  induction components generalizing start with
  | nil =>
      obtain ⟨directory, next, entered, arrived⟩ := follow_cons_eq_ok_iff.mp leads
      cases arrived
      exact ⟨start, rfl, directory, entered⟩
  | cons first rest ih =>
      obtain ⟨directory, next, entered, leads⟩ := follow_cons_eq_ok_iff.mp leads
      obtain ⟨parent, before, parentDirectory, last⟩ := ih leads
      exact ⟨parent, follow_cons_eq_ok_iff.mpr ⟨directory, next, entered, before⟩, parentDirectory, last⟩

/-- Making a directory puts it where the path leads, and there was nothing there. -/
theorem exists_of_makeDirectory {path : FilePath} (made : tree.makeDirectory path = .ok later) :
    ∃ location, tree.locate path = .ok location ∧ tree.get? location = none ∧
      later = tree.set location .directory := by
  cases leads : tree.locate path with
  | error error =>
      rw [makeDirectory, leads] at made
      cases made
  | ok location =>
      rw [makeDirectory, leads] at made
      simp only [bind, Except.bind] at made
      split at made
      next => cases made
      next absent =>
        cases made
        exact ⟨location, rfl, absent, rfl⟩

/-- Writing a file puts it where the path leads, and there is no directory there. -/
theorem exists_of_write {path : FilePath} {bytes : List UInt8}
    (written : tree.write path bytes = .ok later) :
    ∃ location, tree.locate path = .ok location ∧ tree.get? location ≠ some .directory ∧
      later = tree.set location (.file bytes) := by
  cases leads : tree.locate path with
  | error error =>
      rw [write, leads] at written
      cases written
  | ok location =>
      rw [write, leads] at written
      simp only [bind, Except.bind] at written
      split at written
      next => cases written
      next free =>
        cases written
        exact ⟨location, rfl, free, rfl⟩

/-- Moving a file takes it away from where it was and puts it where there is no directory. -/
theorem exists_of_replace {source target : FilePath}
    (replaced : tree.replace source target = .ok later) :
    ∃ origin destination bytes, tree.locate source = .ok origin ∧
      tree.locate target = .ok destination ∧ tree.get? origin = some (.file bytes) ∧
      tree.get? destination ≠ some .directory ∧
      later = (tree.remove origin).set destination (.file bytes) := by
  cases start : tree.locate source with
  | error error =>
      rw [replace, start] at replaced
      cases replaced
  | ok origin =>
      cases goal : tree.locate target with
      | error error =>
          rw [replace, start, goal] at replaced
          cases replaced
      | ok destination =>
          rw [replace, start, goal] at replaced
          simp only [bind, Except.bind] at replaced
          split at replaced
          next => cases replaced
          next =>
            split at replaced
            next => cases replaced
            next => cases replaced
            next => cases replaced
            next bytes present free =>
              cases replaced
              exact ⟨origin, destination, bytes, rfl, rfl, present, free, rfl⟩

theorem read_of_get? {path : FilePath} {bytes : List UInt8} (leads : tree.locate path = .ok location)
    (present : tree.get? location = some (.file bytes)) : tree.read path = .ok bytes := by
  rw [read, leads]
  simp only [bind, Except.bind, present]

end SourceAudit.FileTree

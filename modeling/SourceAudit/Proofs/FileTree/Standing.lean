import SourceAudit.Proofs.FileTree.Frame

/-!
# What stands at a path

A look at a path finds a file, a directory or nothing, or fails at a name that is too long
(`FileTree.standing`, `FileTree.locate_eq_nameTooLong_iff`). Writing a file elsewhere does not change
what stands at a path (`FileTree.standing_set_file`). Making a missing directory above it does not
either, in a tree where everything stands in a directory (`FileTree.Closed`), as long as the names of
the path below missing directories are ordinary ones (`FileTree.standing_makeDirectory`): a path that
goes up again, or whose next name is too long, gets another meaning when its way is opened.
-/

namespace SourceAudit

/-- A name that something in a directory can have. The dots are no names but ways, and a longer name
is refused before it is looked for. -/
def FilePath.IsOrdinary (name : String) : Prop :=
  name ≠ "." ∧ name ≠ ".." ∧ byteLength name ≤ maxNameBytes

instance (name : String) : Decidable (FilePath.IsOrdinary name) :=
  inferInstanceAs (Decidable (_ ∧ _ ∧ _))

theorem FilePath.byteLength_append (left right : String) :
    byteLength (left ++ right) = byteLength left + byteLength right := by
  simp [byteLength, Text.Utf8.encode]

/-- What reading something gives. -/
def FileEntry.contents : FileEntry → Except FileError (List UInt8)
  | .file bytes => .ok bytes
  | .directory => .error .isDirectory

namespace FileTree

variable {tree later last : FileTree} {path : FilePath} {start location : Location} {name : String}
  {rest components : List String}

/-- Where a path starts from. -/
def startOf (tree : FileTree) (path : FilePath) : Location :=
  if path.root = "" then tree.workingDirectory else []

/-- Components lead to a directory, so that a name after them is looked for in it. -/
def LeadsToDirectory (tree : FileTree) (start : Location) (components : List String) : Prop :=
  ∃ location, tree.follow start components = .ok location ∧ tree.get? location = some .directory

/-- The way to a path ends at a name that is too long: the path as a whole is, or one of its names is
and a directory is to be searched for it. -/
def IsTooLong (tree : FileTree) (path : FilePath) : Prop :=
  FilePath.maxPathBytes ≤ FilePath.byteLength path.text ∨
    ∃ front name rest, path.components = front ++ name :: rest ∧
      tree.LeadsToDirectory (tree.startOf path) front ∧
      FilePath.maxNameBytes < FilePath.byteLength name

/-- What a look at a path finds there, or that a name is too long to tell. Nothing is there also where
the way is missing or leads through a file. -/
def standing (tree : FileTree) (path : FilePath) : Except FileError (Option FileEntry) :=
  if path.hasNull then .ok none
  else
    match tree.locate path with
    | .ok location => .ok (tree.get? location)
    | .error .nameTooLong => .error .nameTooLong
    | .error _ => .ok none

/-- Relative paths start from a directory, and everything stands in a directory. All operations keep
this, as they refuse to put anything elsewhere. -/
structure Closed (tree : FileTree) : Prop where
  start : tree.get? tree.workingDirectory = some .directory
  above : ∀ (location : Location) (name : String), tree.get? (location ++ [name]) ≠ none →
    tree.get? location = some .directory

/-- Components lead to something that is missing, and not to a file or through one. Only there can a
directory that is made change where a path leads. -/
def IsMissing (tree : FileTree) (start : Location) (components : List String) : Prop :=
  tree.follow start components = .error .notFound ∨
    ∃ location, tree.follow start components = .ok location ∧ tree.get? location = none

/-- The names of a path that come after a missing directory are ordinary ones. Then the path means
the same when that directory has been made. -/
def IsOrdinaryBeyond (tree : FileTree) (path : FilePath) : Prop :=
  ∀ front name rest, path.components = front ++ name :: rest →
    tree.IsMissing (tree.startOf path) front → FilePath.IsOrdinary name

/-- What stood anywhere stands there still, as a file or a directory like before. The bytes of a
file may be others. -/
structure Grows (tree later : FileTree) : Prop extends tree.Keeps later where
  files : ∀ location bytes, tree.get? location = some (.file bytes) →
    ∃ other, later.get? location = some (.file other)

/-! ### Following components -/

theorem follow_cons_of_directory (directory : tree.get? start = some .directory) :
    tree.follow start (name :: rest) = (enter start name).bind (tree.follow · rest) := by
  rw [FileTree.follow, directory]
  unfold enter
  simp only
  split
  next => rfl
  next =>
    split
    next => rfl
    next =>
      split
      next => rfl
      next => rfl

theorem follow_cons_of_absent (absent : tree.get? start = none) :
    tree.follow start (name :: rest) = .error .notFound := by
  rw [FileTree.follow, absent]

theorem follow_cons_of_file {bytes : List UInt8} (file : tree.get? start = some (.file bytes)) :
    tree.follow start (name :: rest) = .error .notDirectory := by
  rw [FileTree.follow, file]

theorem enter_of_isOrdinary (ordinary : FilePath.IsOrdinary name) :
    enter start name = .ok (start ++ [name]) := by
  obtain ⟨notHere, notUp, short⟩ := ordinary
  rw [enter, if_neg notHere, if_neg notUp, if_neg (Nat.not_lt.mpr short)]

theorem enter_eq_error_iff {error : FileError} :
    enter start name = .error error ↔
      error = .nameTooLong ∧ FilePath.maxNameBytes < FilePath.byteLength name := by
  have dot : ¬ FilePath.maxNameBytes < FilePath.byteLength "." := by decide +kernel
  have dots : ¬ FilePath.maxNameBytes < FilePath.byteLength ".." := by decide +kernel
  unfold enter
  split
  next here => simp [here, dot]
  next =>
    split
    next up => simp [up, dots]
    next =>
      split
      next long => simp [long, eq_comm]
      next short => simp [short]

theorem follow_append (tree : FileTree) (start : Location) (front rest : List String) :
    tree.follow start (front ++ rest) = (tree.follow start front).bind (tree.follow · rest) := by
  induction front generalizing start with
  | nil => rfl
  | cons name front ih =>
      rw [List.cons_append]
      cases found : tree.get? start with
      | none =>
          rw [follow_cons_of_absent found, follow_cons_of_absent found]
          rfl
      | some entry =>
          cases entry with
          | file bytes =>
              rw [follow_cons_of_file found, follow_cons_of_file found]
              rfl
          | directory =>
              rw [follow_cons_of_directory found, follow_cons_of_directory found]
              cases enter start name with
              | error error => rfl
              | ok next => exact ih next

/-- Components end at a name that is too long when a directory is to be searched for it. -/
theorem follow_eq_nameTooLong_iff :
    tree.follow start components = .error .nameTooLong ↔
      ∃ front name rest, components = front ++ name :: rest ∧ tree.LeadsToDirectory start front ∧
        FilePath.maxNameBytes < FilePath.byteLength name := by
  constructor
  · intro tooLong
    induction components generalizing start with
    | nil => cases tooLong
    | cons first others ih =>
        cases found : tree.get? start with
        | none =>
            rw [follow_cons_of_absent found] at tooLong
            cases tooLong
        | some entry =>
            cases entry with
            | file bytes =>
                rw [follow_cons_of_file found] at tooLong
                cases tooLong
            | directory =>
                rw [follow_cons_of_directory found] at tooLong
                cases entered : enter start first with
                | error error =>
                    obtain ⟨-, long⟩ := enter_eq_error_iff.mp entered
                    exact ⟨[], first, others, rfl, ⟨start, rfl, found⟩, long⟩
                | ok next =>
                    rw [entered] at tooLong
                    obtain ⟨front, name, rest, rfl, ⟨place, leads, directory⟩, long⟩ := ih tooLong
                    refine ⟨first :: front, name, rest, rfl, ⟨place, ?_, directory⟩, long⟩
                    exact follow_cons_eq_ok_iff.mpr ⟨found, next, entered, leads⟩
  · rintro ⟨front, name, rest, rfl, ⟨place, leads, directory⟩, long⟩
    have stops : enter place name = .error .nameTooLong := enter_eq_error_iff.mpr ⟨rfl, long⟩
    rw [follow_append, leads]
    change tree.follow place (name :: rest) = _
    rw [follow_cons_of_directory directory, stops]
    rfl

/-! ### Locating a path -/

theorem locate_eq_follow (short : ¬ FilePath.maxPathBytes ≤ FilePath.byteLength path.text) :
    tree.locate path = tree.follow (tree.startOf path) path.components := by
  rw [FileTree.locate, if_neg short, startOf]

theorem locate_eq_ok_iff :
    tree.locate path = .ok location ↔
      ¬ FilePath.maxPathBytes ≤ FilePath.byteLength path.text ∧
        tree.follow (tree.startOf path) path.components = .ok location := by
  rw [FileTree.locate, startOf]
  split
  next long => simp [long]
  next short => simp [short]

/-- Nothing has a name that is too long. -/
theorem locate_ne_ok_of_long {front : List String} (last : path.components = front ++ [name])
    (long : FilePath.maxNameBytes < FilePath.byteLength name) : tree.locate path ≠ .ok location := by
  intro leads
  obtain ⟨-, leads⟩ := locate_eq_ok_iff.mp leads
  rw [last] at leads
  obtain ⟨parent, -, -, entered⟩ := exists_parent leads
  cases entered.symm.trans (enter_eq_error_iff.mpr ⟨rfl, long⟩)

/-- A path is too long to be located in the two ways that a name can be. -/
theorem locate_eq_nameTooLong_iff :
    tree.locate path = .error .nameTooLong ↔ tree.IsTooLong path := by
  rw [FileTree.locate, IsTooLong, ← follow_eq_nameTooLong_iff, startOf]
  split
  next long => simp [long]
  next short => simp [short]

/-- A look at a path fails exactly where a name is too long. -/
theorem isPresent_eq_error_iff {error : FileError} :
    tree.isPresent path = .error error ↔
      error = .nameTooLong ∧ path.hasNull = false ∧ tree.IsTooLong path := by
  rw [← locate_eq_nameTooLong_iff, FileTree.isPresent]
  split
  next null => simp [null]
  next plain =>
    split
    next leads => simp [leads]
    next tooLong => simp [tooLong, plain, eq_comm]
    next other different leads =>
      rw [leads, Except.error.injEq]
      simpa using fun _ _ => different

theorem isPresent_eq (tree : FileTree) (path : FilePath) :
    tree.isPresent path = (tree.standing path).map Option.isSome := by
  rw [isPresent, standing]
  split
  next => rfl
  next =>
    cases tree.locate path with
    | ok location => rfl
    | error error => cases error <;> rfl

/-- What stands at a path is what reading it finds. -/
theorem read_of_standing {entry : FileEntry} (stands : tree.standing path = .ok (some entry)) :
    tree.read path = entry.contents := by
  rw [standing] at stands
  split at stands
  next => cases stands
  next =>
    split at stands
    next location leads =>
      have found : tree.get? location = some entry := Except.ok.inj stands
      rw [FileTree.read, leads]
      simp only [bind, Except.bind, found]
      cases entry with
      | file bytes => rfl
      | directory => rfl
    next => cases stands
    next => cases stands

/-- What reading finds stands at the path. -/
theorem standing_of_read {bytes : List UInt8} (plain : path.hasNull = false)
    (present : tree.read path = .ok bytes) : tree.standing path = .ok (some (.file bytes)) := by
  rw [standing, plain]
  cases leads : tree.locate path with
  | error error =>
      rw [FileTree.read, leads] at present
      cases present
  | ok location =>
      rw [FileTree.read, leads] at present
      simp only [bind, Except.bind] at present
      split at present
      next found =>
        cases present
        exact congrArg Except.ok found
      next => cases present
      next => cases present

theorem startOf_of_keeps (kept : tree.Keeps later) (path : FilePath) :
    later.startOf path = tree.startOf path := by
  rw [startOf, startOf, kept.start]

/-! ### Names beyond missing directories -/

theorem Grows.refl (tree : FileTree) : tree.Grows tree :=
  ⟨⟨rfl, fun _ directory => directory⟩, fun _ bytes file => ⟨bytes, file⟩⟩

theorem Grows.trans (first : tree.Grows later) (second : later.Grows last) : tree.Grows last := by
  refine ⟨first.toKeeps.trans second.toKeeps, fun place bytes file => ?_⟩
  obtain ⟨other, file⟩ := first.files place bytes file
  exact second.files place other file

/-- A tree grows when a directory is put where nothing is. -/
theorem grows_set_directory (absent : tree.get? location = none) :
    tree.Grows (tree.set location .directory) := by
  refine ⟨keeps_set (by simp [absent]), fun place bytes file => ⟨bytes, ?_⟩⟩
  rw [get?_set_other]
  · exact file
  · rintro rfl
    cases absent.symm.trans file

/-- A tree grows when a file is put where no directory is. -/
theorem grows_set_file {bytes : List UInt8} (free : tree.get? location ≠ some .directory) :
    tree.Grows (tree.set location (.file bytes)) := by
  refine ⟨keeps_set free, fun place before file => ?_⟩
  by_cases same : place = location
  · subst same
    refine ⟨bytes, get?_set_self ?_⟩
    rintro rfl
    exact free (get?_root tree)
  · exact ⟨before, (get?_set_other same).trans file⟩

/-- What is missing from a tree that has grown was missing before. -/
theorem IsMissing.of_grows (missing : later.IsMissing start components) (grown : tree.Grows later) :
    tree.IsMissing start components := by
  induction components generalizing start with
  | nil =>
      obtain impossible | ⟨location, reached, absent⟩ := missing
      · cases impossible
      · cases reached
        refine .inr ⟨start, rfl, ?_⟩
        cases found : tree.get? start with
        | none => rfl
        | some entry =>
            cases entry with
            | file bytes =>
                obtain ⟨other, present⟩ := grown.files start bytes found
                cases absent.symm.trans present
            | directory => cases absent.symm.trans (grown.directories start found)
  | cons name rest ih =>
      cases found : tree.get? start with
      | none => exact .inl (follow_cons_of_absent found)
      | some entry =>
          cases entry with
          | file bytes =>
              obtain ⟨other, present⟩ := grown.files start bytes found
              rw [IsMissing, follow_cons_of_file present] at missing
              obtain impossible | ⟨location, impossible, -⟩ := missing
              · cases impossible
              · cases impossible
          | directory =>
              rw [IsMissing, follow_cons_of_directory (grown.directories start found)] at missing
              rw [IsMissing, follow_cons_of_directory found]
              cases entered : enter start name with
              | error error =>
                  rw [entered] at missing
                  exact missing.imp_right fun ⟨_, impossible, _⟩ => nomatch impossible
              | ok next =>
                  rw [entered] at missing
                  exact ih missing

/-- Names stay ordinary in a tree that grows. -/
theorem IsOrdinaryBeyond.of_grows (names : tree.IsOrdinaryBeyond path) (grown : tree.Grows later) :
    later.IsOrdinaryBeyond path := by
  intro front name rest split missing
  rw [startOf_of_keeps grown.toKeeps] at missing
  exact names front name rest split (missing.of_grows grown)

/-- Where a path leads to a place, no directory above it is missing. -/
theorem isOrdinaryBeyond_of_locate (leads : tree.locate path = .ok location) :
    tree.IsOrdinaryBeyond path := by
  intro front name rest split missing
  obtain ⟨-, leads⟩ := locate_eq_ok_iff.mp leads
  rw [split, follow_append] at leads
  obtain notFound | ⟨place, reached, absent⟩ := missing
  · rw [notFound] at leads
    cases leads
  · rw [reached] at leads
    change tree.follow place (name :: rest) = _ at leads
    rw [follow_cons_of_absent absent] at leads
    cases leads

theorem isOrdinaryBeyond_of_forall (names : ∀ name ∈ path.components, FilePath.IsOrdinary name) :
    tree.IsOrdinaryBeyond path := by
  intro front name rest split _
  exact names name (by simp [split])

/-! ### Trees in which everything stands in a directory -/

theorem Closed.startOf (closed : tree.Closed) (path : FilePath) :
    tree.get? (tree.startOf path) = some .directory := by
  rw [FileTree.startOf]
  split
  next => exact closed.start
  next => rfl

/-- It is enough that everything listed stands in a directory. -/
theorem closed_of_entries (start : tree.get? tree.workingDirectory = some .directory)
    (listed : ∀ entry ∈ tree.entries, tree.get? entry.1.dropLast = some .directory) :
    tree.Closed := by
  refine ⟨start, fun location name present => ?_⟩
  rw [get?, if_neg (by simp), Option.ne_none_iff_exists'] at present
  obtain ⟨_, present⟩ := present
  obtain ⟨entry, found, -⟩ := Option.map_eq_some_iff.mp present
  have matching : entry.1 = location ++ [name] := by simpa using List.find?_some found
  have above := listed entry (List.mem_of_find?_eq_some found)
  rw [matching, List.dropLast_concat] at above
  exact above

/-- What a path leads to, and is no directory itself, stands in a directory. -/
theorem Closed.exists_directory (closed : tree.Closed) (leads : tree.locate path = .ok location)
    (free : tree.get? location ≠ some .directory) :
    ∃ parent name, location = parent ++ [name] ∧ tree.get? parent = some .directory := by
  obtain ⟨-, leads⟩ := locate_eq_ok_iff.mp leads
  rcases List.eq_nil_or_concat path.components with none | ⟨front, last, components⟩
  · rw [none] at leads
    cases leads
    exact (free (closed.startOf path)).elim
  · rw [components, List.concat_eq_append] at leads
    obtain ⟨parent, -, directory, entered⟩ := exists_parent leads
    unfold enter at entered
    split at entered
    next =>
      cases entered
      exact (free directory).elim
    next =>
      split at entered
      next =>
        cases entered
        -- Going up leads to a directory again.
        rcases List.eq_nil_or_concat parent with rfl | ⟨above, own, rfl⟩
        · exact (free (get?_root tree)).elim
        · rw [List.concat_eq_append] at free directory
          rw [List.dropLast_concat] at free
          exact (free (closed.above above own (by simp [directory]))).elim
      next =>
        split at entered
        next => cases entered
        next =>
          cases entered
          exact ⟨parent, last, rfl, directory⟩

/-- Putting something into a directory keeps a tree closed. -/
theorem Closed.set (closed : tree.Closed) {parent : Location} {entry : FileEntry}
    (directory : tree.get? parent = some .directory)
    (free : tree.get? (parent ++ [name]) ≠ some .directory) :
    (tree.set (parent ++ [name]) entry).Closed := by
  have kept : tree.Keeps (tree.set (parent ++ [name]) entry) := keeps_set free
  refine ⟨kept.directories _ closed.start, fun other own present => ?_⟩
  by_cases same : other ++ [own] = parent ++ [name]
  · obtain ⟨rfl, -⟩ := List.append_inj' same rfl
    exact kept.directories other directory
  · rw [get?_set_other same] at present
    exact kept.directories other (closed.above other own present)

/-- Taking away what is no directory keeps a tree closed. -/
theorem Closed.remove (closed : tree.Closed) (free : tree.get? location ≠ some .directory) :
    (tree.remove location).Closed := by
  have kept : tree.Keeps (tree.remove location) := keeps_remove free
  refine ⟨kept.directories _ closed.start, fun other own present => ?_⟩
  by_cases same : other ++ [own] = location
  · rw [← same, get?_remove_self (by simp)] at present
    exact (present rfl).elim
  · rw [get?_remove_other same] at present
    exact kept.directories other (closed.above other own present)

/-- Moving a file keeps the directories and a closed tree closed. -/
theorem Closed.replace (closed : tree.Closed) {source target : FilePath}
    (replaced : tree.replace source target = .ok later) : tree.Keeps later ∧ later.Closed := by
  obtain ⟨origin, destination, bytes, -, leads, moved, free, rfl⟩ := exists_of_replace replaced
  have notDirectory : tree.get? origin ≠ some .directory := by simp [moved]
  have removed : tree.Keeps (tree.remove origin) := keeps_remove notDirectory
  have stillFree : (tree.remove origin).get? destination ≠ some .directory := by
    by_cases same : destination = origin
    · subst same
      by_cases root : destination = []
      · exact (free (root ▸ get?_root tree)).elim
      · simp [get?_remove_self root]
    · rwa [get?_remove_other same]
  refine ⟨removed.trans (keeps_set stillFree), ?_⟩
  obtain ⟨parent, name, rfl, directory⟩ := closed.exists_directory leads free
  exact (closed.remove notDirectory).set (removed.directories parent directory) stillFree

/-! ### What operations do to what stands at a path -/

/-- Where components lead, without the reason why they lead nowhere. A name that is too long is kept
apart, as a look at a path does. -/
def settle : Except FileError Location → Except FileError (Option Location)
  | .ok location => .ok (some location)
  | .error .nameTooLong => .error .nameTooLong
  | .error _ => .ok none

theorem settle_follow_of_blocked (blocked : tree.get? start ≠ some .directory) :
    settle (tree.follow start (name :: rest)) = .ok none := by
  cases found : tree.get? start with
  | none =>
      rw [follow_cons_of_absent found]
      rfl
  | some entry =>
      cases entry with
      | file bytes =>
          rw [follow_cons_of_file found]
          rfl
      | directory => exact (blocked found).elim

/-- Trees with the same directories lead to the same places. -/
theorem settle_follow_congr
    (same : ∀ place, later.get? place = some .directory ↔ tree.get? place = some .directory)
    (start : Location) (components : List String) :
    settle (later.follow start components) = settle (tree.follow start components) := by
  induction components generalizing start with
  | nil => rfl
  | cons name rest ih =>
      by_cases directory : tree.get? start = some .directory
      · rw [follow_cons_of_directory directory, follow_cons_of_directory ((same start).mpr directory)]
        cases enter start name with
        | error error => rfl
        | ok next => exact ih next
      · rw [settle_follow_of_blocked directory,
          settle_follow_of_blocked fun found => directory ((same start).mp found)]

theorem standing_eq (tree : FileTree) (path : FilePath) :
    tree.standing path =
      if path.hasNull then .ok none else (settle (tree.locate path)).map (·.bind tree.get?) := by
  rw [standing]
  cases tree.locate path with
  | ok location => rfl
  | error error => cases error <;> rfl

/-- Putting a file where no directory is does not change what stands at another path. -/
theorem standing_set_file {bytes : List UInt8} (free : tree.get? location ≠ some .directory)
    (apart : tree.locate path ≠ .ok location) :
    (tree.set location (.file bytes)).standing path = tree.standing path := by
  have directories (place : Location) :
      (tree.set location (.file bytes)).get? place = some .directory ↔
        tree.get? place = some .directory := by
    by_cases same : place = location
    · subst same
      by_cases root : place = []
      · rw [root, get?_root, get?_root]
      · simp [get?_set_self root, free]
    · rw [get?_set_other same]
  have settled : settle ((tree.set location (.file bytes)).locate path) =
      settle (tree.locate path) := by
    by_cases long : FilePath.maxPathBytes ≤ FilePath.byteLength path.text
    · rw [FileTree.locate, FileTree.locate, if_pos long, if_pos long]
    · rw [locate_eq_follow long, locate_eq_follow long]
      exact settle_follow_congr directories _ _
  rw [standing_eq, standing_eq, settled]
  split
  next => rfl
  next =>
    cases leads : tree.locate path with
    | error error => cases error <;> rfl
    | ok place =>
        have elsewhere : place ≠ location := by
          rintro rfl
          exact apart leads
        exact congrArg Except.ok (get?_set_other elsewhere)

/-- Making a missing directory above a path does not change what stands at the path, where the next
name is an ordinary one. -/
theorem standing_makeDirectory {front : List String} (closed : tree.Closed)
    (names : tree.IsOrdinaryBeyond path) (above : path.components = front ++ name :: rest)
    (made : tree.makeDirectory ⟨path.root, front⟩ = .ok later) :
    later.standing path = tree.standing path := by
  obtain ⟨location, leads, absent, rfl⟩ := exists_of_makeDirectory made
  obtain ⟨-, leads⟩ := locate_eq_ok_iff.mp leads
  change tree.follow (tree.startOf path) front = .ok location at leads
  have notDirectory : tree.get? location ≠ some .directory := by
    rw [absent]
    exact fun impossible => nomatch impossible
  have kept : tree.Keeps (tree.set location .directory) := keeps_set notDirectory
  have ordinary : FilePath.IsOrdinary name :=
    names front name rest above (.inr ⟨location, leads, absent⟩)
  have inside : location ≠ [] := by
    rintro rfl
    exact notDirectory (get?_root tree)
  -- Nothing stands in the new directory, since nothing stood below it before.
  have nothing : (tree.set location .directory).get? (location ++ [name]) = none := by
    rw [get?_set_other (by simp)]
    exact Classical.byContradiction fun present =>
      notDirectory (closed.above location name present)
  rw [standing_eq, standing_eq]
  split
  next => rfl
  next =>
    by_cases long : FilePath.maxPathBytes ≤ FilePath.byteLength path.text
    · rw [FileTree.locate, FileTree.locate, if_pos long, if_pos long]
      rfl
    · rw [locate_eq_follow long, locate_eq_follow long, startOf_of_keeps kept, above, follow_append,
        follow_append, leads, kept.follow leads]
      change (settle ((tree.set location .directory).follow location (name :: rest))).map _ =
        (settle (tree.follow location (name :: rest))).map _
      rw [settle_follow_of_blocked notDirectory, follow_cons_of_directory (get?_set_self inside),
        enter_of_isOrdinary ordinary]
      cases rest with
      | nil => exact congrArg Except.ok nothing
      | cons next others =>
          change (settle ((tree.set location .directory).follow (location ++ [name])
            (next :: others))).map _ = _
          rw [settle_follow_of_blocked (by rw [nothing]; exact fun impossible => nomatch impossible)]
          rfl

end FileTree

end SourceAudit

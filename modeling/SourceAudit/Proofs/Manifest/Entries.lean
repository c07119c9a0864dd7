import SourceAudit.Manifest
import SourceAudit.Proofs.Manifest.Streams
import Mathlib.Data.List.Perm.Basic
import Mathlib.Data.Set.List

/-!
# The entries of a manifest, one after the other

What the streams are after some entries is told by the descriptors that these name, and by nothing else
about the entries or about the files at paths. So a run over entries has, for each of them, the result that
it gets with the streams that the entries before it have left (`scanEntries_eq_ok_iff`), and that is the
result that the entry gets on its own wherever they all spare it (`resultOf_afterEntries`).
-/

namespace SourceAudit.Manifest

/-! ### What entries name -/

/-- The value by which an entry says where its file is. A value that does not count as present says
nothing. -/
def pathOf (members : Json.Members) : Option Json :=
  firstPresent [members.get? "path"]

/-- The value by which an entry names its file. The original name goes before the other one. -/
def titleOf (members : Json.Members) : Option Json :=
  firstPresent [members.get? "original_name", members.get? "filename"]

/-- The descriptor that a path value names: it is a number, or a word for truth. A text names none,
nor does a number that is refused. -/
def pathDescriptor? (path : Json) : Option Nat :=
  match placeOf path with
  | .ok (.descriptor number) => some number
  | _ => none

/-- The descriptor that an entry names by its path. -/
def entryDescriptor? : Json → Option Nat
  | .obj members => (pathOf members).bind pathDescriptor?
  | _ => none

/-- The streams after something that may name a descriptor. Without one they stay as they are. -/
def OpenStreams.afterNamed (streams : OpenStreams) (named : Option Nat) : OpenStreams :=
  named.elim streams streams.after

/-- The streams after some entries, one after the other. Only the descriptors that the entries name
matter, whatever results they get. -/
def OpenStreams.afterEntries (streams : OpenStreams) (entries : List Json) : OpenStreams :=
  (entries.map entryDescriptor?).foldl OpenStreams.afterNamed streams

/-- Scanning one entry leaves what the descriptor of another gives as it is. An entry without a descriptor
spares all others, and is spared by them. -/
def OpenStreams.Spares (streams : OpenStreams) (earlier later : Json) : Prop :=
  ∀ read ∈ entryDescriptor? earlier, ∀ other ∈ entryDescriptor? later, streams.Leaves read other

instance (streams : OpenStreams) (earlier later : Json) : Decidable (streams.Spares earlier later) :=
  inferInstanceAs (Decidable (∀ read ∈ entryDescriptor? earlier, ∀ other ∈ entryDescriptor? later,
    streams.Leaves read other))

/-- What comes of reading a path value with the streams as they are, without the streams after it. -/
def outcomeOf (files : Reader) (streams : OpenStreams) (path : Json) :
    Except PathError (Except LooseText String) :=
  (readValue files streams path).map Prod.fst

/-- The result that an entry gets with the streams as they are, as if it were the first entry of its
manifest. -/
def resultOf (files : Reader) (selection : Severity.Selection) (streams : OpenStreams) (entry : Json) :
    Except Crash FileResult :=
  (scanEntry files selection streams entry).map Prod.fst

section Outcomes

variable {ε ζ α β : Type} {step : Except ε α} {value : β}

/-- A step that is followed by another one and gives a value has given one itself. -/
theorem bind_eq_ok_iff {next : α → Except ε β} :
    step.bind next = .ok value ↔ ∃ between, step = .ok between ∧ next between = .ok value := by
  cases step with
  | error error => exact iff_of_false nofun fun ⟨_, same, _⟩ => nomatch same
  | ok between =>
      constructor
      · exact fun ran => ⟨between, rfl, ran⟩
      · rintro ⟨_, same, ran⟩
        cases same
        exact ran

theorem map_eq_ok_iff {change : α → β} :
    step.map change = .ok value ↔ ∃ between, step = .ok between ∧ change between = value := by
  cases step with
  | error error => exact iff_of_false nofun fun ⟨_, same, _⟩ => nomatch same
  | ok between => simp [Except.map]

theorem mapError_eq_ok_iff {change : ε → ζ} {between : α} :
    step.mapError change = .ok between ↔ step = .ok between := by
  cases step with
  | error error => exact iff_of_false nofun nofun
  | ok found => simp [Except.mapError]

/-- Outcomes are all values if each of them is one. -/
theorem exists_eq_map_ok_iff {outcomes : List (Except ε α)} :
    (∃ values : List α, outcomes = values.map .ok) ↔ ∀ outcome ∈ outcomes, ∃ value, outcome = .ok value := by
  have range := Set.ext_iff.mp (Set.range_list_map (Except.ok : α → Except ε α)) outcomes
  exact (exists_congr fun _ => eq_comm).trans
    (range.trans (forall₂_congr fun _ _ => exists_congr fun _ => eq_comm))

end Outcomes

section Entries

variable {files : Reader} {selection : Severity.Selection} {streams others : OpenStreams}
  {members : Json.Members} {path entry : Json}

theorem outcomeOf_of_file {name : LooseText} (named : placeOf path = .ok (.path name)) :
    outcomeOf files streams path = readText files name := by
  rw [outcomeOf, readValue, named]
  change ((readText files name).map (·, streams)).map Prod.fst = _
  cases readText files name <;> rfl

theorem outcomeOf_of_descriptor {number : Nat} (named : placeOf path = .ok (.descriptor number)) :
    outcomeOf files streams path = .ok (readDescriptor streams path number) := by
  rw [outcomeOf, readValue, named]
  rfl

theorem outcomeOf_of_error {error : PathError} (fault : placeOf path = .error error) :
    outcomeOf files streams path = .error error := by
  rw [outcomeOf, readValue, fault]
  rfl

theorem readValue_eq (files : Reader) (streams : OpenStreams) (path : Json) :
    readValue files streams path =
      (outcomeOf files streams path).map (·, streams.afterNamed (pathDescriptor? path)) := by
  rw [outcomeOf, readValue, pathDescriptor?]
  cases placeOf path with
  | error error => rfl
  | ok place =>
      cases place with
      | path file => cases found : readText files file <;> simp only [Except.bind, found] <;> rfl
      | descriptor number => rfl

theorem scanFile_of_pathless (missing : pathOf members = none) :
    scanFile files selection streams members = (entryName members none).map fun name =>
      (.failed (name.getD (.str "unknown")) "File path missing in file manifest", streams) := by
  unfold scanFile
  rw [← pathOf, missing]
  dsimp only
  cases entryName members none <;> rfl

/-- What comes of an entry with a path, by the name that it gives: the path is read, and a report is
made if there is a text. -/
theorem scanFile_of_located (located : pathOf members = some path) :
    scanFile files selection streams members =
      (entryName members (some path)).bind fun name =>
        ((readValue files streams path).mapError .badPath).bind fun (outcome, left) =>
          (readResult selection name path outcome).map (·, left) := by
  unfold scanFile
  rw [← pathOf, located]
  rfl

theorem resultOf_of_pathless (missing : pathOf members = none) :
    resultOf files selection streams (.obj members) = (entryName members none).map fun name =>
      .failed (name.getD (.str "unknown")) "File path missing in file manifest" := by
  rw [resultOf, scanEntry, scanFile_of_pathless missing]
  cases entryName members none <;> rfl

theorem resultOf_of_located (located : pathOf members = some path) :
    resultOf files selection streams (.obj members) =
      (entryName members (some path)).bind fun name =>
        ((outcomeOf files streams path).mapError .badPath).bind (readResult selection name path) := by
  rw [resultOf, scanEntry, scanFile_of_located located, readValue_eq]
  cases entryName members (some path) with
  | error crash => rfl
  | ok name =>
      cases outcomeOf files streams path with
      | error error => rfl
      | ok outcome =>
          dsimp only [Except.bind, Except.map, Except.mapError]
          cases readResult selection name path outcome <;> rfl

/-- **One entry.** What the streams are after it is told by the descriptor that it names. -/
theorem scanEntry_eq (files : Reader) (selection : Severity.Selection) (streams : OpenStreams)
    (entry : Json) :
    scanEntry files selection streams entry =
      (resultOf files selection streams entry).map (·, streams.afterNamed (entryDescriptor? entry)) := by
  cases entry with
  | obj members =>
      rw [scanEntry, entryDescriptor?]
      cases located : pathOf members with
      | none =>
          rw [resultOf_of_pathless located, scanFile_of_pathless located]
          cases entryName members none <;> rfl
      | some path =>
          rw [resultOf_of_located located, scanFile_of_located located, readValue_eq]
          cases entryName members (some path) with
          | error crash => rfl
          | ok name =>
              cases outcomeOf files streams path with
              | error error => rfl
              | ok outcome => rfl
  | _ => rfl

end Entries

/-! ### Entries one after the other -/

section Runs

variable {files : Reader} {selection : Severity.Selection} {streams left : OpenStreams} {entry : Json}
  {entries front more : List Json} {results : List FileResult}

namespace OpenStreams

@[simp] theorem afterEntries_nil (streams : OpenStreams) : streams.afterEntries [] = streams := rfl

@[simp] theorem afterEntries_cons (streams : OpenStreams) (entry : Json) (rest : List Json) :
    streams.afterEntries (entry :: rest) =
      (streams.afterNamed (entryDescriptor? entry)).afterEntries rest :=
  rfl

instance : RightCommutative afterNamed where
  right_comm streams first second := by
    cases first with
    | none => rfl
    | some first => cases second with
      | none => rfl
      | some second => exact streams.after_comm first second

theorem Leaves.afterNamed {read other : Nat} (leaves : streams.Leaves read other) (named : Option Nat) :
    (streams.afterNamed named).Leaves read other := by
  cases named with
  | none => exact leaves
  | some second => exact leaves.after second

theorem Spares.afterNamed {earlier : Json} (spares : streams.Spares earlier entry)
    (named : Option Nat) : (streams.afterNamed named).Spares earlier entry :=
  fun read reads other gives => (spares read reads other gives).afterNamed named

theorem Spares.afterEntries {earlier : Json} (spares : streams.Spares earlier entry)
    (front : List Json) : (streams.afterEntries front).Spares earlier entry := by
  induction front generalizing streams with
  | nil => exact spares
  | cons first rest ih => exact ih (spares.afterNamed _)

theorem stream?_afterEntries_of_none {number : Nat} (closed : streams.stream? number = none)
    (entries : List Json) : (streams.afterEntries entries).stream? number = none := by
  induction entries generalizing streams with
  | nil => exact closed
  | cons first rest ih =>
      refine ih ?_
      cases entryDescriptor? first with
      | none => exact closed
      | some read => exact stream?_after_of_none closed read

/-- **A descriptor is closed by the entries that name it**, unless it refers to a directory. -/
theorem isOpen_afterEntries_iff {number : Nat} (busy : ¬ streams.Idle number) :
    (streams.afterEntries entries).isOpen number = true ↔
      ∀ entry ∈ entries, entryDescriptor? entry ≠ some number := by
  induction entries generalizing streams with
  | nil =>
      refine iff_of_true ?_ (List.forall_mem_nil _)
      rw [afterEntries_nil, isOpen, Option.isSome_iff_ne_none]
      exact fun closed => busy (.inl closed)
  | cons first rest ih =>
      rw [List.forall_mem_cons, afterEntries_cons]
      cases names : entryDescriptor? first with
      | none => exact (ih busy).trans ⟨fun others => ⟨nofun, others⟩, And.right⟩
      | some read =>
          by_cases same : read = number
          · subst same
            refine iff_of_false ?_ fun others => others.1 rfl
            have closed : (streams.after read).stream? read = none := by
              rw [after_of_not_idle busy, stream?_exhaust_self]
            rw [isOpen, afterNamed, Option.elim_some, stream?_afterEntries_of_none closed]
            exact Bool.false_ne_true
          · refine (ih (not_idle_after busy (Ne.symm same))).trans
              ⟨fun others => ⟨?_, others⟩, And.right⟩
            rwa [Ne, Option.some.injEq]

end OpenStreams

/-- What each entry gets in its turn: the result with the streams that all the entries before it
have left. Entries after one that gets none are included. -/
def resultsInTurn (files : Reader) (selection : Severity.Selection) (streams : OpenStreams)
    (entries : List Json) : List (Except Crash FileResult) :=
  entries.mapIdx fun index entry =>
    resultOf files selection (streams.afterEntries (entries.take index)) entry

theorem resultsInTurn_cons (rest : List Json) :
    resultsInTurn files selection streams (entry :: rest) =
      resultOf files selection streams entry ::
        resultsInTurn files selection (streams.afterNamed (entryDescriptor? entry)) rest := by
  rw [resultsInTurn, List.mapIdx_cons]
  rfl

theorem scanEntries_cons (rest : List Json) :
    scanEntries files selection streams (entry :: rest) =
      (resultOf files selection streams entry).bind fun result =>
        (scanEntries files selection (streams.afterNamed (entryDescriptor? entry)) rest).map
          fun (results, left) => (result :: results, left) := by
  rw [scanEntries, scanEntry_eq]
  cases resultOf files selection streams entry with
  | error crash => rfl
  | ok result => rfl

/-- **A run over entries.** It has the results that the entries get in their turn, if all of them get one,
and leaves the streams that the entries leave. -/
theorem scanEntries_eq_ok_iff : scanEntries files selection streams entries = .ok (results, left) ↔
    resultsInTurn files selection streams entries = results.map .ok ∧
      left = streams.afterEntries entries := by
  induction entries generalizing streams results with
  | nil =>
      rw [scanEntries, Except.ok.injEq, Prod.mk.injEq, eq_comm, @eq_comm _ streams]
      exact and_congr_left' (eq_comm.trans List.map_eq_nil_iff).symm
  | cons entry rest ih =>
      rw [scanEntries_cons, resultsInTurn_cons, OpenStreams.afterEntries_cons]
      cases first : resultOf files selection streams entry with
      | error crash =>
          refine iff_of_false nofun ?_
          rintro ⟨same, -⟩
          cases results <;> cases same
      | ok result =>
          change (scanEntries files selection (streams.afterNamed (entryDescriptor? entry)) rest).map
            (fun (others, left) => (result :: others, left)) = .ok (results, left) ↔ _
          rw [map_eq_ok_iff]
          constructor
          · rintro ⟨⟨others, after⟩, scanned, same⟩
            cases same
            obtain ⟨turns, ends⟩ := ih.mp scanned
            rw [turns]
            exact ⟨rfl, ends⟩
          · rintro ⟨same, after⟩
            cases results with
            | nil => cases same
            | cons head tail =>
                rw [List.map_cons, List.cons.injEq, Except.ok.injEq] at same
                obtain ⟨rfl, others⟩ := same
                exact ⟨_, ih.mpr ⟨others, after⟩, rfl⟩

/-- The result at a place is what its entry gets in its turn. -/
theorem getElem?_of_scanEntries
    (scanned : scanEntries files selection streams entries = .ok (results, left)) (index : Nat) :
    results[index]?.map .ok = entries[index]?.map
      (resultOf files selection (streams.afterEntries (entries.take index))) := by
  rw [← List.getElem?_map, ← (scanEntries_eq_ok_iff.mp scanned).1, resultsInTurn, List.getElem?_mapIdx]

/-- There are results if each entry gets one in its turn. -/
theorem exists_scanEntries_iff :
    (∃ results left, scanEntries files selection streams entries = .ok (results, left)) ↔
      ∀ index entry, entries[index]? = some entry →
        ∃ result, resultOf files selection (streams.afterEntries (entries.take index)) entry =
          .ok result := by
  constructor
  · rintro ⟨results, left, scanned⟩ index entry listed
    have same := getElem?_of_scanEntries scanned index
    rw [listed, Option.map_some, Option.map_eq_some_iff] at same
    obtain ⟨result, -, found⟩ := same
    exact ⟨result, found.symm⟩
  · intro each
    obtain ⟨results, same⟩ := exists_eq_map_ok_iff.mpr fun outcome member => by
      obtain ⟨index, inside, rfl⟩ := List.mem_mapIdx.mp member
      exact each index _ (List.getElem?_eq_getElem inside)
    exact ⟨results, _, scanEntries_eq_ok_iff.mpr ⟨same, rfl⟩⟩

end Runs

end SourceAudit.Manifest

import SourceAudit.Manifest.Files

/-!
# What is left of a stream

Reading a descriptor takes what its stream has left and closes it, unless it was closed before or refers
to a directory: then nothing happens (`OpenStreams.Idle`). What another descriptor gives afterwards is what
it gave before, where the reading spares it (`OpenStreams.Leaves`). Two readings leave the same streams in
either order (`after_comm`), and what is spared stays spared by whatever is read in between
(`OpenStreams.Leaves.after`).
-/

namespace SourceAudit.Manifest

namespace Stream

variable (stream : Stream)

@[simp] theorem drained_drained : stream.drained.drained = stream.drained := by
  cases stream <;> rfl

theorem drained_eq_directory_iff : stream.drained = .directory ↔ stream = .directory := by
  cases stream <;> simp [drained]

end Stream

namespace OpenStream

variable (entry : OpenStream) (read other : Nat)

theorem contains_readThrough : (entry.readThrough read).descriptors.contains other =
    (entry.descriptors.contains other && other != read) := by
  rw [readThrough, Bool.eq_iff_iff, Bool.and_eq_true]
  split
  next => rw [List.contains_iff_mem, List.contains_iff_mem, List.mem_filter]
  next apart =>
    rw [bne_iff_ne]
    refine ⟨fun present => ⟨present, ?_⟩, And.left⟩
    rintro rfl
    exact apart present

theorem stream_readThrough : (entry.readThrough read).stream =
    if entry.descriptors.contains read then entry.stream.drained else entry.stream := by
  rw [readThrough]
  split <;> rfl

variable {entry read other} in
theorem readThrough_of_contains (referring : entry.descriptors.contains read = true) :
    entry.readThrough read = ⟨entry.descriptors.filter (· != read), entry.stream.drained⟩ :=
  if_pos referring

variable {entry read other} in
theorem readThrough_of_not (apart : ¬ entry.descriptors.contains read = true) :
    entry.readThrough read = entry :=
  if_neg apart

variable {read other} in
theorem contains_readThrough_of_ne (apart : other ≠ read) :
    (entry.readThrough read).descriptors.contains other = entry.descriptors.contains other := by
  rw [contains_readThrough, bne_iff_ne.mpr apart, Bool.and_true]

theorem readThrough_comm :
    (entry.readThrough read).readThrough other = (entry.readThrough other).readThrough read := by
  by_cases same : read = other
  · rw [same]
  have second := contains_readThrough_of_ne entry (Ne.symm same)
  have first := contains_readThrough_of_ne entry same
  by_cases one : entry.descriptors.contains read = true
  · by_cases two : entry.descriptors.contains other = true
    · rw [readThrough_of_contains (second.trans two), readThrough_of_contains (first.trans one),
        readThrough_of_contains one, readThrough_of_contains two]
      simp only [List.filter_filter, Stream.drained_drained, Bool.and_comm]
    · have later : ¬ (entry.readThrough read).descriptors.contains other = true := by rwa [second]
      rw [readThrough_of_not later, readThrough_of_not two]
  · have later : ¬ (entry.readThrough other).descriptors.contains read = true := by rwa [first]
    rw [readThrough_of_not one, readThrough_of_not later]

end OpenStream

namespace OpenStreams

/-- Nothing happens when the descriptor is read: it is closed, or it refers to a directory. -/
def Idle (streams : OpenStreams) (descriptor : Nat) : Prop :=
  streams.stream? descriptor = none ∨ streams.stream? descriptor = some .directory

/-- Reading one descriptor leaves what another one gives as it is. Two of different streams do, and
so do two different ones of a stream that has nothing left. -/
def Leaves (streams : OpenStreams) (read other : Nat) : Prop :=
  (streams.after read).stream? other = streams.stream? other

instance (streams : OpenStreams) (read other : Nat) : Decidable (streams.Leaves read other) :=
  inferInstanceAs (Decidable (_ = _))

variable {streams : OpenStreams} {first second other : Nat}

theorem stream?_exhaust_self (streams : OpenStreams) (read : Nat) :
    (streams.exhaust read).stream? read = none := by
  rw [stream?, exhaust, List.find?_eq_none.mpr]
  · rfl
  · intro entry listed
    obtain ⟨before, -, rfl⟩ := List.mem_map.mp listed
    rw [OpenStream.contains_readThrough, bne_self_eq_false, Bool.and_false]
    exact Bool.false_ne_true

/-- A descriptor that is not read refers to the same open stream as before. -/
theorem find?_exhaust (apart : other ≠ first) :
    (streams.exhaust first).find? (·.descriptors.contains other) =
      (streams.find? (·.descriptors.contains other)).map (·.readThrough first) := by
  have same : ((fun entry : OpenStream => entry.descriptors.contains other) ∘
      (OpenStream.readThrough · first)) = fun entry => entry.descriptors.contains other :=
    funext fun entry => entry.contains_readThrough_of_ne apart
  rw [exhaust, List.find?_map, same]

theorem stream?_exhaust (apart : other ≠ first) : (streams.exhaust first).stream? other =
    (streams.find? (·.descriptors.contains other)).map fun entry => (entry.readThrough first).stream := by
  rw [stream?, find?_exhaust apart, Option.map_map]
  rfl

theorem after_of_idle (idle : streams.Idle first) : streams.after first = streams := by
  rcases idle with closed | directory
  · rw [after, closed]
  · rw [after, directory]

theorem after_of_not_idle (busy : ¬ streams.Idle first) :
    streams.after first = streams.exhaust first := by
  unfold after
  split
  next closed => exact (busy (.inl closed)).elim
  next directory => exact (busy (.inr directory)).elim
  next => rfl

/-- Reading one descriptor makes no other one idle, nor keeps it from being so. -/
theorem idle_exhaust_iff (apart : second ≠ first) :
    (streams.exhaust first).Idle second ↔ streams.Idle second := by
  rw [Idle, Idle, stream?_exhaust apart, stream?, Option.map_eq_none_iff, Option.map_eq_none_iff,
    Option.map_eq_some_iff, Option.map_eq_some_iff]
  refine or_congr_right (exists_congr fun entry => and_congr_right fun _ => ?_)
  rw [OpenStream.stream_readThrough]
  split
  · exact Stream.drained_eq_directory_iff entry.stream
  · rfl

/-- An idle descriptor stays idle. -/
theorem Idle.exhaust (idle : streams.Idle second) (first : Nat) : (streams.exhaust first).Idle second := by
  by_cases same : second = first
  · exact .inl (same ▸ stream?_exhaust_self streams second)
  · exact (idle_exhaust_iff same).mpr idle

theorem exhaust_comm (streams : OpenStreams) (first second : Nat) :
    (streams.exhaust first).exhaust second = (streams.exhaust second).exhaust first := by
  simp only [OpenStreams.exhaust, List.map_map]
  exact List.map_congr_left fun entry _ => entry.readThrough_comm first second

/-- **The order of two readings does not matter for the streams that they leave.** -/
theorem after_comm (streams : OpenStreams) (first second : Nat) :
    (streams.after first).after second = (streams.after second).after first := by
  by_cases same : first = second
  · rw [same]
  by_cases one : streams.Idle first
  · by_cases two : streams.Idle second
    · rw [after_of_idle one, after_of_idle two, after_of_idle one]
    · rw [after_of_idle one, after_of_not_idle two, after_of_idle (one.exhaust second)]
  · by_cases two : streams.Idle second
    · rw [after_of_idle two, after_of_not_idle one, after_of_idle (two.exhaust first)]
    · have later : ¬ (streams.exhaust first).Idle second :=
        fun idle => two ((idle_exhaust_iff (Ne.symm same)).mp idle)
      have earlier : ¬ (streams.exhaust second).Idle first :=
        fun idle => one ((idle_exhaust_iff same).mp idle)
      rw [after_of_not_idle one, after_of_not_idle two, after_of_not_idle later,
        after_of_not_idle earlier, exhaust_comm]

theorem not_idle_after (busy : ¬ streams.Idle second) (apart : second ≠ first) :
    ¬ (streams.after first).Idle second := by
  by_cases one : streams.Idle first
  · rwa [after_of_idle one]
  · rwa [after_of_not_idle one, idle_exhaust_iff apart]

/-- A closed descriptor stays closed. -/
theorem stream?_after_of_none (closed : streams.stream? second = none) (first : Nat) :
    (streams.after first).stream? second = none := by
  by_cases one : streams.Idle first
  · rwa [after_of_idle one]
  rw [after_of_not_idle one]
  by_cases same : second = first
  · rw [same, stream?_exhaust_self]
  · rw [stream?, Option.map_eq_none_iff] at closed
    rw [stream?_exhaust same, closed, Option.map_none]

/-- **What is spared stays spared.** If reading one descriptor leaves what another gives as it is, it does
so after any reading in between. -/
theorem Leaves.after (leaves : streams.Leaves first other) (second : Nat) :
    (streams.after second).Leaves first other := by
  by_cases two : streams.Idle second
  · rw [after_of_idle two]
    exact leaves
  rw [after_of_not_idle two]
  by_cases again : (streams.exhaust second).Idle first
  · rw [Leaves, after_of_idle again]
  have one : ¬ streams.Idle first := fun idle => again (idle.exhaust second)
  rw [Leaves, after_of_not_idle again]
  rw [Leaves, after_of_not_idle one] at leaves
  by_cases same : other = first
  · rw [same, stream?_exhaust_self] at leaves
    exact (one (.inl leaves.symm)).elim
  by_cases closed : other = second
  · rw [exhaust_comm, closed, stream?_exhaust_self, stream?_exhaust_self]
  have distinct : second ≠ first := by
    rintro rfl
    exact again (.inl (stream?_exhaust_self streams second))
  -- The descriptor refers to one open stream all the time, and reading `first` leaves that stream.
  rw [stream?_exhaust same, stream?] at leaves
  rw [stream?_exhaust same, find?_exhaust closed, stream?_exhaust closed]
  cases found : streams.find? (·.descriptors.contains other) with
  | none => rfl
  | some entry =>
      rw [found, Option.map_some, Option.map_some, Option.some.injEq] at leaves
      rw [Option.map_some, Option.map_some, Option.map_some, OpenStream.readThrough_comm,
        OpenStream.stream_readThrough, entry.contains_readThrough_of_ne distinct, leaves,
        ← OpenStream.stream_readThrough]

end OpenStreams

end SourceAudit.Manifest

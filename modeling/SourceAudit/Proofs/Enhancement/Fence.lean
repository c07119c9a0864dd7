import SourceAudit.Enhancement.Fence
import SourceAudit.Proofs.Text.Loose
import SourceAudit.Proofs.Text.Occurrence
import SourceAudit.Proofs.Text.Pattern
import SourceAudit.Proofs.Text.Runs
import SourceAudit.Proofs.Text.Word

/-!
# One wrapping fence

A text opens a fenced block in one way at most (`Block.Opens.eq`): the blanks, the tag and the gap of its
opening line are runs, and each of them is followed by a character of another kind. Where the content ends
is told from its own end (`beforeClosing?_eq`). A search for the closing fence from the front stops at the
first place that nothing but blanks follows, and finds the same one: a content is closed at once, or what
precedes its closing fence starts with its first character (`beforeClosing?_cons`). That is how the pattern
takes the body (`head?_captures`): the shortest one that the rest of the pattern accepts.
-/

namespace SourceAudit.Fence

open Text (isBlank trimEnd dropEnding)

/-- A fence. -/
def mark : List Char := ['\x60', '\x60', '\x60']

/-- A character that may stand between the tag of an opening line and its end. -/
def isGap (c : Char) : Bool :=
  c == ' ' || c == '\t'

/-- The parts of a fenced block: the blanks before it, the tag of its opening line and the spaces and tabs
after the tag, and what follows that line. -/
structure Block where
  before : List Char
  tag : List Char
  gap : List Char
  content : List Char

namespace Block

/-- A text opens a fenced block with the given parts. A text can be split in this way at most once,
as the parts end where their characters do. -/
structure Opens (block : Block) (text : List Char) : Prop where
  split : text = block.before ++ (mark ++ (block.tag ++ (block.gap ++ '\n' :: block.content)))
  before : ∀ c ∈ block.before, isBlank c = true
  tag : ∀ c ∈ block.tag, isTag c = true
  gap : ∀ c ∈ block.gap, isGap c = true

/-- A text is a fenced block with the given parts: what follows the opening line ends with a fence,
blanks after it aside. -/
structure Writes (block : Block) (text : List Char) : Prop extends block.Opens text where
  closed : mark <:+ trimEnd block.content

/-- What stands between the opening line and the last fence, without one line feed before that. -/
def body (block : Block) : List Char :=
  dropEnding ['\n'] (dropEnding mark (trimEnd block.content))

end Block

variable {text content body : List Char} {block other : Block}

theorem isBlank_mark : isBlank '\x60' = false := rfl

/-- A tag holds no blank. -/
theorem isTag_of_isBlank {c : Char} (blank : isBlank c = true) : isTag c = false := by
  rw [Bool.eq_false_iff]
  intro inTag
  simp only [isTag, Bool.or_eq_true, beq_iff_eq] at inTag
  rcases inTag with (word | rfl) | rfl
  · rw [Text.isBlank_word word] at blank
    exact Bool.false_ne_true blank
  · exact absurd blank (by decide)
  · exact absurd blank (by decide)

theorem isBlank_of_isGap {c : Char} (inGap : isGap c = true) : isBlank c = true := by
  simp only [isGap, Bool.or_eq_true, beq_iff_eq] at inGap
  rcases inGap with rfl | rfl
  · rfl
  · rfl

theorem isBlank_feed : isBlank '\n' = true := rfl

/-- After the tag of an opening line comes something else. -/
theorem exists_gap_cons {gap : List Char} (inGap : ∀ c ∈ gap, isGap c = true) (content : List Char) :
    ∃ c rest, gap ++ '\n' :: content = c :: rest ∧ isTag c = false := by
  cases gap with
  | nil => exact ⟨'\n', content, rfl, isTag_of_isBlank isBlank_feed⟩
  | cons c gap =>
      have blank := isBlank_of_isGap (inGap c List.mem_cons_self)
      exact ⟨c, gap ++ '\n' :: content, rfl, isTag_of_isBlank blank⟩

/-- A text opens a fenced block in one way. -/
theorem Block.Opens.eq (opens : block.Opens text) (alsoOpens : other.Opens text) : block = other := by
  have same := opens.split.symm.trans alsoOpens.split
  obtain ⟨before, same⟩ := Text.run_append_inj opens.before isBlank_mark alsoOpens.before isBlank_mark same
  have same := (List.append_right_inj mark).mp same
  obtain ⟨c, rest, first, notTag⟩ := exists_gap_cons opens.gap block.content
  obtain ⟨d, others, second, notTag'⟩ := exists_gap_cons alsoOpens.gap other.content
  rw [first, second] at same
  obtain ⟨tag, same⟩ := Text.run_append_inj opens.tag notTag alsoOpens.tag notTag' same
  rw [← first, ← second] at same
  obtain ⟨gap, same⟩ := Text.run_append_inj opens.gap rfl alsoOpens.gap rfl same
  cases block
  cases other
  rw [Block.mk.injEq]
  exact ⟨before, tag, gap, (List.cons.inj same).2⟩

/-- What follows the opening line is what is read after it. -/
theorem afterOpening?_eq_some_iff :
    afterOpening? text = some content ↔ ∃ block : Block, block.Opens text ∧ block.content = content := by
  constructor
  · intro read
    unfold afterOpening? at read
    split at read
    next rest dropped =>
      obtain ⟨split, -⟩ := Text.eq_run_append dropped
      split at read
      next after passed =>
        obtain ⟨splitGap, -⟩ := Text.eq_run_append passed
        rw [Option.some.injEq] at read
        refine ⟨⟨text.takeWhile isBlank, rest.takeWhile isTag, (rest.dropWhile isTag).takeWhile isGap,
          content⟩, ⟨?_, fun c => List.mem_takeWhile_imp, fun c => List.mem_takeWhile_imp,
            fun c => List.mem_takeWhile_imp⟩, rfl⟩
        subst read
        have line : rest =
            rest.takeWhile isTag ++ ((rest.dropWhile isTag).takeWhile isGap ++ '\n' :: after) :=
          List.takeWhile_append_dropWhile.symm.trans (congrArg (rest.takeWhile isTag ++ ·) splitGap)
        exact split.trans (congrArg (fun tail => text.takeWhile isBlank ++ (mark ++ tail)) line)
      next => cases read
    next => cases read
  · rintro ⟨block, ⟨split, before, tag, gap⟩, rfl⟩
    have dropped : text.dropWhile isBlank =
        mark ++ (block.tag ++ (block.gap ++ '\n' :: block.content)) := by
      rw [split]
      exact Text.dropWhile_run before isBlank_mark
    obtain ⟨c, rest, first, notTag⟩ := exists_gap_cons gap block.content
    have tagged : (block.tag ++ (block.gap ++ '\n' :: block.content)).dropWhile isTag =
        block.gap ++ '\n' :: block.content := by
      rw [first]
      exact Text.dropWhile_run tag notTag
    have ended : (block.gap ++ '\n' :: block.content).dropWhile (fun c => c == ' ' || c == '\t') =
        '\n' :: block.content := Text.dropWhile_run gap rfl
    simp only [afterOpening?, dropped, mark, List.cons_append, List.nil_append, tagged, ended]

/-- What precedes the closing fence is read off the end of what follows the opening line. -/
theorem beforeClosing?_eq (content : List Char) :
    (mark <:+ trimEnd content ∧
      beforeClosing? content = some (dropEnding ['\n'] (dropEnding mark (trimEnd content)))) ∨
    (¬ mark <:+ trimEnd content ∧ beforeClosing? content = none) := by
  unfold beforeClosing?
  have reversed : trimEnd content = (content.reverse.dropWhile isBlank).reverse := rfl
  split
  next before dropped =>
    have ends : trimEnd content = before.reverse ++ mark := by
      rw [reversed, dropped]
      simp [mark]
    refine .inl ⟨⟨before.reverse, ends.symm⟩, ?_⟩
    rw [ends, Text.dropEnding_append]
    split
    next rest =>
      rw [List.reverse_cons, Text.dropEnding_append]
    next rest noFeed =>
      rw [Text.dropEnding_of_not_suffix]
      rintro ⟨front, ending⟩
      refine noFeed front.reverse ?_
      rw [← List.reverse_reverse before, ← ending]
      simp
  next open_ =>
    refine .inr ⟨?_, rfl⟩
    rintro ⟨front, ending⟩
    refine open_ front.reverse ?_
    rw [← List.reverse_reverse (content.reverse.dropWhile isBlank), ← reversed, ← ending]
    simp [mark]

theorem trimEnd_append_mark {blanks : List Char} (front : List Char)
    (within : ∀ c ∈ blanks, isBlank c = true) :
    trimEnd (front ++ (mark ++ blanks)) = front ++ mark := by
  have split : front ++ (mark ++ blanks) = (front ++ ['\x60', '\x60']) ++ '\x60' :: blanks := by
    simp [mark]
  rw [split, Text.trimEnd_append_blanks _ isBlank_mark within]
  simp [mark]

/-- The closing fence is the last fence, with blanks after it at most. -/
theorem beforeClosing?_eq_some_iff :
    beforeClosing? content = some body ↔
      ∃ front blanks, (∀ c ∈ blanks, isBlank c = true) ∧ content = front ++ (mark ++ blanks) ∧
        dropEnding ['\n'] front = body := by
  rcases beforeClosing?_eq content with ⟨⟨front, ends⟩, read⟩ | ⟨unclosed, read⟩
  · rw [read, Option.some.injEq, ← ends, Text.dropEnding_append]
    constructor
    · rintro rfl
      obtain ⟨blanks, within, split⟩ := Text.exists_trimEnd_append content
      rw [← ends, List.append_assoc] at split
      exact ⟨front, blanks, within, split, rfl⟩
    · rintro ⟨other, blanks, within, rfl, rfl⟩
      rw [trimEnd_append_mark other within] at ends
      rw [List.append_cancel_right ends]
  · rw [read]
    refine iff_of_false (by simp) ?_
    rintro ⟨front, blanks, within, rfl, -⟩
    exact unclosed ⟨front, (trimEnd_append_mark front within).symm⟩

/-- Nothing is left of a line feed alone, and of nothing. -/
theorem dropEnding_feed_eq_nil_iff : dropEnding ['\n'] text = [] ↔ text = ['\n'] ∨ text = [] := by
  constructor
  · intro emptied
    by_cases ends : ['\n'] <:+ text
    · obtain ⟨front, rfl⟩ := ends
      rw [Text.dropEnding_append] at emptied
      subst emptied
      exact .inl rfl
    · exact .inr (Text.dropEnding_of_not_suffix ends ▸ emptied)
  · rintro (rfl | rfl)
    · rfl
    · rfl

/-- A content is closed at once, or what precedes the closing fence starts with its first character. -/
theorem beforeClosing?_cons (c : Char) (rest : List Char) :
    beforeClosing? (c :: rest) = some [] ∨
      beforeClosing? (c :: rest) = (beforeClosing? rest).map (c :: ·) := by
  cases read : beforeClosing? (c :: rest) with
  | none =>
      cases later : beforeClosing? rest with
      | none => exact .inr rfl
      | some body =>
          obtain ⟨front, blanks, within, split, -⟩ := beforeClosing?_eq_some_iff.mp later
          have closed := beforeClosing?_eq_some_iff.mpr
            ⟨c :: front, blanks, within, congrArg (c :: ·) split, rfl⟩
          rw [read] at closed
          cases closed
  | some body =>
      obtain ⟨front, blanks, within, split, rfl⟩ := beforeClosing?_eq_some_iff.mp read
      cases front with
      | nil => exact .inl rfl
      | cons d inner =>
          rw [List.cons_append, List.cons.injEq] at split
          obtain ⟨rfl, split⟩ := split
          rw [beforeClosing?_eq_some_iff.mpr ⟨inner, blanks, within, split, rfl⟩]
          exact (Text.dropEnding_cons '\n' c inner).imp (congrArg some) (congrArg some)

section Patterns

open Text (Pattern)

theorem isBlank_of_isAtEnd {rest : List Char} (ends : Pattern.isAtEnd rest = true) :
    ∀ c ∈ rest, isBlank c = true := by
  simp only [Pattern.isAtEnd, Bool.or_eq_true, beq_iff_eq] at ends
  rcases ends with rfl | rfl
  · exact List.forall_mem_nil _
  · exact List.forall_mem_singleton.mpr isBlank_feed

/-- The mark of a fence. -/
def markPattern : Pattern := .one (· == '\x60') ++ .one (· == '\x60') ++ .one (· == '\x60')

/-- The opening line, with blanks before it. -/
def openingPattern : Pattern :=
  .run true isBlank ++ markPattern ++ .run true isTag ++ .run true isGap ++ .one (· == '\n')

/-- Any text, the shortest one first. -/
def bodyPattern : Pattern := .run false fun _ => true

/-- The closing fence, with a line feed before it if there is one, and with blanks after it. -/
def closingPattern : Pattern :=
  .either (.one (· == '\n')) .empty ++ markPattern ++ .run true isBlank

variable {part : List Char}

theorem mem_language_mark : part ∈ markPattern.language ↔ part = mark := by
  simp only [markPattern, Pattern.mem_language_append, Pattern.mem_language_one, beq_iff_eq]
  constructor
  · rintro ⟨_, ⟨_, ⟨_, rfl, rfl⟩, _, ⟨_, rfl, rfl⟩, rfl⟩, _, ⟨_, rfl, rfl⟩, rfl⟩
    rfl
  · rintro rfl
    exact ⟨_, ⟨_, ⟨_, rfl, rfl⟩, _, ⟨_, rfl, rfl⟩, rfl⟩, _, ⟨_, rfl, rfl⟩, rfl⟩

/-- The opening line can be matched in one way only. -/
theorem mem_rests_opening :
    content ∈ openingPattern.rests text ↔ afterOpening? text = some content := by
  simp only [Pattern.mem_rests_iff, afterOpening?_eq_some_iff, openingPattern,
    Pattern.mem_language_append, Pattern.mem_language_run, mem_language_mark,
    Pattern.mem_language_one, beq_iff_eq]
  constructor
  · rintro ⟨_, ⟨_, ⟨_, ⟨_, ⟨before, blanks, _, rfl, rfl⟩, tag, inTag, rfl⟩, gap, inGap, rfl⟩, _,
      ⟨_, rfl, rfl⟩, rfl⟩, rfl⟩
    exact ⟨⟨before, tag, gap, content⟩, ⟨by simp, blanks, inTag, inGap⟩, rfl⟩
  · rintro ⟨block, ⟨split, blanks, inTag, inGap⟩, rfl⟩
    exact ⟨_, ⟨_, ⟨_, ⟨_, ⟨block.before, blanks, _, rfl, rfl⟩, block.tag, inTag, rfl⟩, block.gap, inGap,
      rfl⟩, _, ⟨_, rfl, rfl⟩, rfl⟩, by simp [split]⟩

/-- The closing fence and the end of the text are matched where a content is closed at once. -/
theorem exists_isAtEnd_closing_iff {closing : List Char} :
    (∃ rest ∈ closingPattern.rests closing, Pattern.isAtEnd rest = true) ↔
      beforeClosing? closing = some [] := by
  simp only [Pattern.mem_rests_iff, beforeClosing?_eq_some_iff, closingPattern,
    Pattern.mem_language_append, Pattern.mem_language_either, Pattern.mem_language_run,
    Pattern.mem_language_empty, mem_language_mark, Pattern.mem_language_one, beq_iff_eq]
  constructor
  · rintro ⟨rest, ⟨_, ⟨_, ⟨feed, optional, _, rfl, rfl⟩, blanks, within, rfl⟩, rfl⟩, ends⟩
    refine ⟨feed, blanks ++ rest, ?_, by simp, dropEnding_feed_eq_nil_iff.mpr ?_⟩
    · intro c member
      exact (List.mem_append.mp member).elim (within c) (isBlank_of_isAtEnd ends c)
    · rcases optional with ⟨_, rfl, rfl⟩ | rfl
      · exact .inl rfl
      · exact .inr rfl
  · rintro ⟨front, blanks, within, rfl, emptied⟩
    refine ⟨[], ⟨_, ⟨_, ⟨front, ?_, mark, rfl, rfl⟩, blanks, within, rfl⟩, by simp⟩, rfl⟩
    exact (dropEnding_feed_eq_nil_iff.mp emptied).imp_left fun feed => ⟨_, rfl, feed⟩

theorem exists_find?_closing {closing : List Char} (closed : beforeClosing? closing = some []) :
    ∃ rest, (closingPattern.rests closing).find? Pattern.isAtEnd = some rest :=
  Option.isSome_iff_exists.mp (List.find?_isSome.mpr (exists_isAtEnd_closing_iff.mpr closed))

theorem find?_closing_eq_none {closing : List Char} (unclosed : beforeClosing? closing ≠ some []) :
    (closingPattern.rests closing).find? Pattern.isAtEnd = none := by
  rw [List.find?_eq_none]
  intro rest member ends
  exact unclosed (exists_isAtEnd_closing_iff.mp ⟨rest, member, ends⟩)

/-- The shortest body that leaves a closing fence is what precedes the last fence. -/
theorem findSome?_captures (front content : List Char) :
    (Pattern.afterRuns (fun _ => true) content).findSome? (fun closing =>
      (((closingPattern.rests closing).filter Pattern.isAtEnd).map fun _ =>
        (front ++ content).take ((front ++ content).length - closing.length)).head?) =
      (beforeClosing? content).map (front ++ ·) := by
  simp only [List.head?_map, List.head?_filter]
  induction content generalizing front with
  | nil =>
      have unclosed := find?_closing_eq_none (by decide : beforeClosing? [] ≠ some [])
      rw [Pattern.afterRuns, List.findSome?_singleton, unclosed]
      rfl
  | cons c rest ih =>
      rw [Pattern.afterRuns, if_pos rfl, List.findSome?_cons]
      by_cases closed : beforeClosing? (c :: rest) = some []
      · obtain ⟨after, found⟩ := exists_find?_closing closed
        rw [found, closed, List.length_append, Nat.add_sub_cancel, List.take_left]
        simp
      · have later := ih (front ++ [c])
        rw [List.append_assoc, List.singleton_append] at later
        rw [find?_closing_eq_none closed, (beforeClosing?_cons c rest).resolve_left closed,
          Option.map_map]
        refine later.trans ?_
        congr 1
        funext body
        simp

/-- The first match of the pattern takes what is read between the fences. -/
theorem head?_captures (text : List Char) :
    (Pattern.captures openingPattern bodyPattern closingPattern text).head? =
      (afterOpening? text).bind beforeClosing? := by
  rw [Pattern.captures, Pattern.head?_flatMap_rests fun content => mem_rests_opening]
  congr 1
  funext content
  rw [List.head?_flatMap]
  refine (findSome?_captures [] content).trans ?_
  cases beforeClosing? content with
  | none => rfl
  | some body => rfl

end Patterns

/-- What is read between the fences is the body of the block. -/
theorem bind_beforeClosing?_eq_some_iff :
    (afterOpening? text).bind beforeClosing? = some body ↔
      ∃ block : Block, block.Writes text ∧ block.body = body := by
  simp only [Option.bind_eq_some_iff, afterOpening?_eq_some_iff]
  constructor
  · rintro ⟨_, ⟨block, opens, rfl⟩, read⟩
    rcases beforeClosing?_eq block.content with ⟨closed, same⟩ | ⟨-, unread⟩
    · rw [same, Option.some.injEq] at read
      exact ⟨block, ⟨opens, closed⟩, read⟩
    · rw [unread] at read
      cases read
  · rintro ⟨block, ⟨opens, closed⟩, rfl⟩
    rcases beforeClosing?_eq block.content with ⟨-, same⟩ | ⟨unclosed, -⟩
    · exact ⟨block.content, ⟨block, opens, rfl⟩, same⟩
    · exact (unclosed closed).elim

theorem strip_eq (text : List Char) :
    strip text = ((afterOpening? text).bind beforeClosing?).getD text := by
  rw [strip]
  cases (afterOpening? text).bind beforeClosing? with
  | none => rfl
  | some body => rfl

theorem strip_eq_body (writes : block.Writes text) : strip text = block.body := by
  rw [strip_eq, bind_beforeClosing?_eq_some_iff.mpr ⟨block, writes, rfl⟩, Option.getD_some]

theorem strip_eq_self (unfenced : ∀ block : Block, ¬ block.Writes text) : strip text = text := by
  have none : (afterOpening? text).bind beforeClosing? = none := by
    rw [Option.eq_none_iff_forall_ne_some]
    intro body read
    obtain ⟨block, writes, -⟩ := bind_beforeClosing?_eq_some_iff.mp read
    exact unfenced block writes
  rw [strip_eq, none, Option.getD_none]

/-- The block that a body makes between an opening line and a closing fence of its own. -/
theorem strip_around (tag body blanks : List Char) (inTag : ∀ c ∈ tag, isTag c = true)
    (within : ∀ c ∈ blanks, isBlank c = true) :
    strip (mark ++ (tag ++ '\n' :: (body ++ '\n' :: (mark ++ blanks)))) = body := by
  have trimmed : trimEnd (body ++ '\n' :: (mark ++ blanks)) = body ++ ['\n'] ++ mark := by
    rw [← trimEnd_append_mark (body ++ ['\n']) within, List.append_assoc, List.singleton_append]
  have writes : (⟨[], tag, [], body ++ '\n' :: (mark ++ blanks)⟩ : Block).Writes
      (mark ++ (tag ++ '\n' :: (body ++ '\n' :: (mark ++ blanks)))) := by
    refine ⟨⟨rfl, List.forall_mem_nil _, inTag, List.forall_mem_nil _⟩, ?_⟩
    rw [trimmed]
    exact List.suffix_append _ _
  rw [strip_eq_body writes, Block.body, trimmed, Text.dropEnding_append, Text.dropEnding_append]

/-! ### Loose texts -/

/-- What is found in a text as it is shown is taken from the same place of the text itself. -/
theorem strippedLoose_append {before middle after : LooseText}
    (opens : afterOpening? (before ++ (middle ++ after)).shown.toList =
      some (middle ++ after).shown.toList)
    (closes : beforeClosing? (middle ++ after).shown.toList = some middle.shown.toList) :
    strippedLoose (before ++ (middle ++ after)) = middle := by
  simp only [strippedLoose, opens, closes, LooseText.length_shown, LooseText.points_append]
  rw [List.length_append, Nat.add_sub_cancel, List.drop_left, List.take_left,
    LooseText.ofPoints_points]

theorem strippedLoose_of_none {text : LooseText}
    (unfenced : (afterOpening? text.shown.toList).bind beforeClosing? = none) :
    strippedLoose text = text := by
  rw [strippedLoose]
  cases opened : afterOpening? text.shown.toList with
  | none => rfl
  | some content =>
      rw [opened, Option.bind_some] at unfenced
      simp only [unfenced]

/-- A string loses its fence as a loose text just as it does as a string. -/
theorem strippedLoose_unicode (text : String) : strippedLoose text = stripped text := by
  cases read : (afterOpening? text.toList).bind beforeClosing? with
  | none =>
      have kept : strippedLoose text = text := strippedLoose_of_none read
      rw [kept, stripped, strip_eq, read, Option.getD_none, String.ofList_toList]
  | some body =>
      obtain ⟨content, opened, closed⟩ := Option.bind_eq_some_iff.mp read
      obtain ⟨block, opens, rfl⟩ := afterOpening?_eq_some_iff.mp opened
      obtain ⟨front, blanks, -, ends, kept⟩ := beforeClosing?_eq_some_iff.mp closed
      obtain ⟨feed, whole⟩ : body <+: front := kept ▸ Text.dropEnding_prefix _ _
      -- The text falls into what is before the body, the body, and what is after it.
      let before := block.before ++ (mark ++ (block.tag ++ (block.gap ++ ['\n'])))
      let after := feed ++ (mark ++ blanks)
      have rest : block.content = body ++ after := by
        rw [ends, ← whole, List.append_assoc]
      have split : text = String.ofList before ++ (String.ofList body ++ String.ofList after) := by
        rw [← String.toList_inj, opens.split, rest]
        simp [before]
      have shown : (String.ofList body ++ String.ofList after).toList = block.content := by
        rw [rest, String.toList_append, String.toList_ofList, String.toList_ofList]
      rw [stripped, strip_eq, read, Option.getD_some]
      rw [split, ← LooseText.append_unicode, ← LooseText.append_unicode]
      refine strippedLoose_append ?_ ?_
      · rw [split] at opened
        exact opened.trans (congrArg some shown.symm)
      · refine (congrArg beforeClosing? shown).trans (closed.trans (congrArg some ?_))
        exact String.toList_ofList.symm

/-! ### The result -/

/-- **Exactly one fence is taken off.** A text is a fenced block in one way at most; if it is one, its body
is what is left, and any other text is left as it is. So a body between an opening line and a closing fence
comes back whatever it holds. The body is also what the group of the pattern takes in its first match. -/
theorem stripped_one_fence :
    (∀ text : String,
      (stripped text).toList =
          ((Text.Pattern.captures openingPattern bodyPattern closingPattern text.toList).head?).getD
            text.toList ∧
        (∀ block : Block, block.Writes text.toList →
          (∀ other : Block, other.Writes text.toList → other = block) ∧
            (stripped text).toList = block.body) ∧
        ((∀ block : Block, ¬ block.Writes text.toList) → stripped text = text)) ∧
      ∀ tag body blanks : String, (∀ c ∈ tag.toList, isTag c = true) →
        (∀ c ∈ blanks.toList, isBlank c = true) →
          stripped ("```" ++ tag ++ "\n" ++ body ++ "\n```" ++ blanks) = body := by
  have asList (text : String) : (stripped text).toList = strip text.toList := String.toList_ofList
  refine ⟨fun text => ⟨?_, ?_, ?_⟩, ?_⟩
  · rw [asList, strip_eq, head?_captures]
  · intro block writes
    refine ⟨fun other alsoWrites => alsoWrites.toOpens.eq writes.toOpens, ?_⟩
    rw [asList, strip_eq_body writes]
  · intro unfenced
    rw [stripped, strip_eq_self unfenced, String.ofList_toList]
  · intro tag body blanks inTag within
    have split : ("```" ++ tag ++ "\n" ++ body ++ "\n```" ++ blanks).toList =
        mark ++ (tag.toList ++ '\n' :: (body.toList ++ '\n' :: (mark ++ blanks.toList))) := by
      simp only [String.toList_append, List.append_assoc]
      rfl
    rw [stripped, split, strip_around tag.toList body.toList blanks.toList inTag within,
      String.ofList_toList]

/-- A block with blanks around it, a fence within and a closing fence of four marks; a text whose opening
line is also its last; and an empty body under a tag. -/
theorem stripped_one_fence_inner_fence :
    let block : Block := ⟨"\n ".toList, "c++".toList, " \t".toList, "```\nx\n````\r\n".toList⟩
    block.Writes "\n ```c++ \t\n```\nx\n````\r\n".toList ∧
      stripped "\n ```c++ \t\n```\nx\n````\r\n" = "```\nx\n\x60" ∧
      (∀ other : Block, ¬ other.Writes "```x```".toList) ∧ stripped "```x```" = "```x```" ∧
      stripped "```py-3\n\n``` \n\n" = "" := by
  intro block
  obtain ⟨exact, between⟩ := stripped_one_fence
  have writes : block.Writes "\n ```c++ \t\n```\nx\n````\r\n".toList := by
    refine ⟨⟨by decide +kernel, ?_, ?_, ?_⟩, "```\nx\n\x60".toList, by decide +kernel⟩
    · exact List.all_eq_true.mp (by decide +kernel : "\n ".toList.all isBlank = true)
    · exact List.all_eq_true.mp (by decide +kernel : "c++".toList.all isTag = true)
    · exact List.all_eq_true.mp (by decide +kernel : " \t".toList.all isGap = true)
  have unfenced : ∀ other : Block, ¬ other.Writes "```x```".toList := by
    intro other writes
    have unread : (afterOpening? "```x```".toList).bind beforeClosing? = none := by decide +kernel
    rw [bind_beforeClosing?_eq_some_iff.mpr ⟨other, writes, rfl⟩] at unread
    cases unread
  refine ⟨writes, ?_, unfenced, (exact _).2.2 unfenced, ?_⟩
  · rw [← String.toList_inj, ((exact _).2.1 block writes).2]
    decide +kernel
  · exact between "py-3" "" " \n\n"
      (List.all_eq_true.mp (by decide +kernel : "py-3".toList.all isTag = true))
      (List.all_eq_true.mp (by decide +kernel : " \n\n".toList.all isBlank = true))

end SourceAudit.Fence

/-
Module: Playhouse.Pattern.Notation
Purpose: What every notation of a written pattern is read as, wherever it stands.
Main exports: Pattern.FitsAlike, ReadsPlace, Reads, Reads.append, Reads.alternatives, Reads.kept,
  Reads.unkept, Reads.ahead, readWritten_of_reads
-/
import Playhouse.Pattern.Reader

namespace Playhouse

open Text

/-!
A text is read in the same way wherever it stands in a written pattern, unless a sign behind it
changes what was read last.  `Reads` says so of texts behind which no such sign may stand, and
of all texts to which it has been added already.  The parts of a pattern can then be read one by
one.
-/

/-! ### Patterns that fit alike -/

namespace Pattern

/-- Two patterns that fit in the same ways, tried in the same order. -/
structure FitsAlike (pattern other : Pattern Empty) : Prop where
  run : ∀ {α : Type} (next : Mark → List Char → Option α) (mark : Mark) (rest : List Char),
    pattern.run next mark rest = other.run next mark rest

namespace FitsAlike

variable {first second third : Pattern Empty}

theorem refl (pattern : Pattern Empty) : pattern.FitsAlike pattern :=
  ⟨fun _ _ _ => rfl⟩

theorem trans (alike : first.FitsAlike second) (further : second.FitsAlike third) :
    first.FitsAlike third :=
  ⟨fun next mark rest => (alike.run next mark rest).trans (further.run next mark rest)⟩

theorem match?_eq (alike : first.FitsAlike second) (before : Option Char) (rest : List Char) :
    first.match? before rest = second.match? before rest := by
  simp only [match?, alike.run]

theorem seq {behind other : Pattern Empty} (alike : first.FitsAlike second)
    (alikeBehind : behind.FitsAlike other) :
    (first.seq behind).FitsAlike (second.seq other) := by
  constructor
  intro α next mark rest
  simp only [Pattern.run, alike.run, alikeBehind.run]

theorem alt {otherwise other : Pattern Empty} (alike : first.FitsAlike second)
    (alikeOtherwise : otherwise.FitsAlike other) :
    (first.alt otherwise).FitsAlike (second.alt other) := by
  constructor
  intro α next mark rest
  simp only [Pattern.run, alike.run, alikeOtherwise.run]

theorem group (alike : first.FitsAlike second) : first.group.FitsAlike second.group := by
  constructor
  intro α next mark rest
  simp only [Pattern.run, alike.run]

/-- A choice with one more pattern in front of the others. -/
theorem choice_cons {patterns others : List (Pattern Empty)} (alike : first.FitsAlike second)
    (someLeft : patterns ≠ []) (someOthers : others ≠ [])
    (alikeFurther : (Pattern.choice patterns).FitsAlike (Pattern.choice others)) :
    (Pattern.choice (first :: patterns)).FitsAlike (Pattern.choice (second :: others)) := by
  obtain ⟨next, patterns, rfl⟩ := List.exists_cons_of_ne_nil someLeft
  obtain ⟨nextOther, others, rfl⟩ := List.exists_cons_of_ne_nil someOthers
  exact alike.alt alikeFurther

end FitsAlike

end Pattern

open Pattern (FitsAlike)

theorem sequence_singleton (item : Item) : (sequence [item]).FitsAlike item.pattern :=
  ⟨fun _ _ _ => rfl⟩

/-- Items behind others are a pattern behind another. -/
theorem sequence_append (later earlier : List Item) :
    (sequence (later ++ earlier)).FitsAlike (.seq (sequence earlier) (sequence later)) := by
  have general (behind : Pattern Empty) :
      (earlier.foldl (fun behind item => .seq item.pattern behind) behind).FitsAlike
        (.seq (sequence earlier) behind) := by
    induction earlier generalizing behind with
    | nil => exact ⟨fun _ _ _ => rfl⟩
    | cons item earlier inductionHypothesis =>
        have moved := inductionHypothesis (.seq item.pattern behind)
        have alone := (inductionHypothesis (.seq item.pattern .nothing)).seq (.refl behind)
        exact ⟨fun next mark rest =>
          (moved.run next mark rest).trans (alone.run next mark rest).symm⟩
  rw [sequence, List.foldl_append]
  exact general (sequence later)

/-! ### Texts in a written pattern -/

namespace Draft

variable {caseless : Bool} {draft : Draft}

theorem readAll_append (caseless : Bool) (draft : Draft) (first second : List Char) :
    draft.readAll caseless (first ++ second) =
      (draft.readAll caseless first) >>= fun next => next.readAll caseless second :=
  List.foldlM_append

theorem readAll_cons (caseless : Bool) (draft : Draft) (c : Char) (rest : List Char) :
    draft.readAll caseless (c :: rest) =
      (draft.step caseless c) >>= fun next => next.readAll caseless rest :=
  List.foldlM_cons

end Draft

/-- A text that is read as one place for a character of a kind. -/
def ReadsPlace (caseless : Bool) (text : List Char) (kind : Char → Bool) : Prop :=
  ∀ frames choices items position, ∃ final,
    Draft.readAll caseless ⟨.plain, frames, choices, items, position⟩ text =
      .ok ⟨.plain, frames, choices, .place kind :: items, final⟩

/-- A text that is read as a pattern, whatever stands in front of it. -/
def Reads (caseless : Bool) (text : List Char) (pattern : Pattern Empty) : Prop :=
  ∀ frames choices items position, ∃ own final,
    Draft.readAll caseless ⟨.plain, frames, choices, items, position⟩ text =
      .ok ⟨.plain, frames, choices, own ++ items, final⟩ ∧
    (sequence own).FitsAlike pattern

section

variable {caseless : Bool} {text other : List Char} {kind : Char → Bool}
  {pattern behind : Pattern Empty}

/-! ### Single characters -/

/-- A character that is no sign stands for itself. -/
theorem readsPlace_character {c : Char} (noSign : Draft.isSign c = false) :
    ReadsPlace caseless [c] (Pattern.letterKind caseless c) := by
  intro frames choices items position
  refine ⟨position + 1, ?_⟩
  simp only [Draft.readAll, List.foldlM_cons, List.foldlM_nil, Draft.step, Draft.readNext,
    Draft.readPlain, noSign, Bool.false_eq_true, if_false]
  rfl

/-- Behind a backslash, a character that is no letter and no digit stands for itself. -/
theorem readsPlace_escaped {c : Char} (noLetter : c.isAlphanum = false) :
    ReadsPlace caseless ['\\', c] (Pattern.letterKind caseless c) := by
  intro frames choices items position
  refine ⟨position + 1 + 1, ?_⟩
  rw [Draft.readAll_cons]
  show Draft.readAll caseless ⟨.escaped, frames, choices, items, position + 1⟩ [c] = _
  simp only [Draft.readAll, List.foldlM_cons, List.foldlM_nil, Draft.step, Draft.readNext,
    Draft.readEscaped, noLetter, Bool.false_eq_true, if_false]
  rfl

theorem readsPlace_blank : ReadsPlace caseless ['\\', 's'] isBlank :=
  fun _ _ _ _ => ⟨_, rfl⟩

theorem readsPlace_any : ReadsPlace caseless ['.'] (· != '\n') :=
  fun _ _ _ _ => ⟨_, rfl⟩

/-- A place with a sign behind it that makes another item of it. -/
theorem ReadsPlace.followed (place : ReadsPlace caseless text kind)
    (sign : List Char) (item : Item) (isSign : ∀ frames choices items position, ∃ final,
      Draft.readAll caseless ⟨.plain, frames, choices, .place kind :: items, position⟩ sign =
        .ok ⟨.plain, frames, choices, item :: items, final⟩) :
    Reads caseless (text ++ sign) item.pattern := by
  intro frames choices items position
  obtain ⟨middle, isRead⟩ := place frames choices items position
  obtain ⟨final, signRead⟩ := isSign frames choices items middle
  refine ⟨[item], final, ?_, sequence_singleton item⟩
  rw [Draft.readAll_append, isRead]
  exact signRead

namespace ReadsPlace

variable (place : ReadsPlace caseless text kind)

include place

theorem reads : Reads caseless text (.one kind) := by
  have alone := place.followed [] (.place kind) fun _ _ _ position => ⟨position, rfl⟩
  rwa [List.append_nil] at alone

theorem star : Reads caseless (text ++ ['*']) (.many kind 0 none .eager) :=
  place.followed _ (.repeated kind 0 none) fun _ _ _ _ => ⟨_, rfl⟩

theorem plus : Reads caseless (text ++ ['+']) (.many kind 1 none .eager) :=
  place.followed _ (.repeated kind 1 none) fun _ _ _ _ => ⟨_, rfl⟩

theorem query : Reads caseless (text ++ ['?']) (.many kind 0 (some 1) .eager) :=
  place.followed _ (.repeated kind 0 (some 1)) fun _ _ _ _ => ⟨_, rfl⟩

theorem reluctantStar : Reads caseless (text ++ ['*', '?']) (.many kind 0 none .reluctant) :=
  place.followed _ (.whole (.many kind 0 none .reluctant)) fun _ _ _ _ => ⟨_, rfl⟩

theorem reluctantPlus : Reads caseless (text ++ ['+', '?']) (.many kind 1 none .reluctant) :=
  place.followed _ (.whole (.many kind 1 none .reluctant)) fun _ _ _ _ => ⟨_, rfl⟩

end ReadsPlace

/-! ### Texts one after the other -/

theorem reads_nil : Reads caseless [] .nothing :=
  fun _ _ _ position => ⟨[], position, rfl, .refl _⟩

theorem reads_edge : Reads caseless ['\\', 'b'] .edge :=
  fun _ _ _ _ => ⟨[.whole .edge], _, rfl, sequence_singleton _⟩

theorem Reads.append (reads : Reads caseless text pattern)
    (readsBehind : Reads caseless other behind) :
    Reads caseless (text ++ other) (pattern ++ behind) := by
  intro frames choices items position
  obtain ⟨own, middle, isRead, fits⟩ := reads frames choices items position
  obtain ⟨ownBehind, final, behindRead, fitsBehind⟩ :=
    readsBehind frames choices (own ++ items) middle
  refine ⟨ownBehind ++ own, final, ?_, ?_⟩
  · rw [Draft.readAll_append, isRead, List.append_assoc]
    exact behindRead
  · exact (sequence_append ownBehind own).trans (fits.seq fitsBehind)

/-- Letters of which none is a sign. -/
def signless (letters : List Char) : Bool :=
  letters.all fun c => !Draft.isSign c

theorem signless_cons_iff {c : Char} {rest : List Char} :
    signless (c :: rest) ↔ Draft.isSign c = false ∧ signless rest := by
  simp [signless]

theorem signless_append_iff {first second : List Char} :
    signless (first ++ second) ↔ signless first ∧ signless second := by
  simp [signless]

/-- A word without signs is read letter by letter. -/
theorem reads_literal (word : String) {letters : List Char} (isWord : word.toList = letters)
    (noSign : signless letters) : Reads caseless letters (.literal caseless word) := by
  rw [Pattern.literal, isWord]
  clear isWord
  induction letters with
  | nil => exact reads_nil
  | cons c rest inductionHypothesis =>
      obtain ⟨noSignFirst, noSignRest⟩ := signless_cons_iff.mp noSign
      have first := (@readsPlace_character caseless c noSignFirst).reads
      exact first.append (inductionHypothesis noSignRest)

/-- A character of a phrase in writing: a space stands for white space of any length. -/
def spelled (c : Char) : List Char :=
  if c == ' ' then ['\\', 's', '+'] else [c]

/-- A phrase without signs is read letter by letter too. -/
theorem reads_phrase (words : String) {letters : List Char} (isWords : words.toList = letters)
    (noSign : signless letters) :
    Reads caseless (letters.flatMap spelled) (.phrase caseless words) := by
  rw [Pattern.phrase, isWords]
  clear isWords
  induction letters with
  | nil => exact reads_nil
  | cons c rest inductionHypothesis =>
      obtain ⟨noSignFirst, noSignRest⟩ := signless_cons_iff.mp noSign
      have further := inductionHypothesis noSignRest
      rw [List.flatMap_cons, List.foldr_cons, spelled]
      split
      · exact readsPlace_blank.plus.append further
      · exact (readsPlace_character noSignFirst).reads.append further

/-! ### Alternatives -/

variable {texts : List (List Char)} {patterns : List (Pattern Empty)}

/-- Texts of which each is read as a pattern. -/
inductive ReadsEach (caseless : Bool) : List (List Char) → List (Pattern Empty) → Prop where
  | nil : ReadsEach caseless [] []
  | cons {text : List Char} {pattern : Pattern Empty} {texts : List (List Char)}
      {patterns : List (Pattern Empty)} (reads : Reads caseless text pattern)
      (others : ReadsEach caseless texts patterns) :
      ReadsEach caseless (text :: texts) (pattern :: patterns)

/-- Texts with bars between them are read as alternatives. -/
theorem readAll_bars {first : List Char} (reads : Reads caseless first pattern)
    (others : ReadsEach caseless texts patterns) (frames : List Frame)
    (choices : List (Pattern Empty)) (position : Nat) :
    ∃ alternatives allChoices items final,
      Draft.readAll caseless ⟨.plain, frames, choices, [], position⟩
          (['|'].intercalate (first :: texts)) =
        .ok ⟨.plain, frames, allChoices, items, final⟩ ∧
      (sequence items :: allChoices).reverse = choices.reverse ++ alternatives ∧
      alternatives ≠ [] ∧
      (Pattern.choice alternatives).FitsAlike (.choice (pattern :: patterns)) := by
  induction others generalizing first pattern choices position with
  | nil =>
      obtain ⟨items, final, isRead, fits⟩ := reads frames choices [] position
      rw [List.append_nil] at isRead
      refine ⟨[sequence items], choices, items, final, ?_, List.reverse_cons, by simp, fits⟩
      rw [List.intercalate_singleton]
      exact isRead
  | @cons second next texts patterns secondReads others inductionHypothesis =>
      obtain ⟨items, middle, isRead, fits⟩ := reads frames choices [] position
      rw [List.append_nil] at isRead
      -- The bar ends an alternative, and the other texts begin a new one.
      obtain ⟨alternatives, allChoices, lastItems, final, othersRead, isSplit, someLeft, alike⟩ :=
        inductionHypothesis secondReads (sequence items :: choices) (middle + 1)
      refine ⟨sequence items :: alternatives, allChoices, lastItems, final, ?_, ?_,
        List.cons_ne_nil _ _, fits.choice_cons someLeft (List.cons_ne_nil _ _) alike⟩
      · rw [List.intercalate_cons_cons, List.append_assoc, Draft.readAll_append, isRead]
        exact othersRead
      · rw [isSplit, List.reverse_cons, List.append_assoc]
        rfl

/-- Inside a group, or outside of all, they are read as the choice between them. -/
theorem readAll_alternatives (reads : ReadsEach caseless texts patterns)
    (frames : List Frame) (position : Nat) :
    ∃ choices items final,
      Draft.readAll caseless ⟨.plain, frames, [], [], position⟩ (['|'].intercalate texts) =
        .ok ⟨.plain, frames, choices, items, final⟩ ∧
      (Pattern.choice (sequence items :: choices).reverse).FitsAlike (.choice patterns) := by
  cases reads with
  | nil => exact ⟨[], [], position, rfl, .refl _⟩
  | cons first others =>
      obtain ⟨alternatives, choices, items, final, isRead, isSplit, -, alike⟩ :=
        readAll_bars first others frames [] position
      refine ⟨choices, items, final, isRead, ?_⟩
      rw [isSplit]
      exact alike

/-- A pattern that is written as alternatives. -/
theorem readWritten_of_reads (reads : ReadsEach caseless texts patterns) :
    ∃ pattern, readWritten caseless (['|'].intercalate texts) = .ok pattern ∧
      pattern.FitsAlike (.choice patterns) := by
  obtain ⟨choices, items, final, isRead, alike⟩ := readAll_alternatives reads [] 0
  refine ⟨_, ?_, alike⟩
  rw [readWritten, Draft.empty, isRead]
  rfl

/-! ### Groups -/

/-- A text that opens a group in front of another text. -/
def OpensGroup (caseless : Bool) (enclosure : Enclosure) (opening rest : List Char) : Prop :=
  ∀ frames choices items position, ∃ start inside,
    Draft.readAll caseless ⟨.plain, frames, choices, items, position⟩ (opening ++ rest) =
      Draft.readAll caseless
        ⟨.plain, ⟨enclosure, start, choices, items⟩ :: frames, [], [], inside⟩ rest

/-- A group that does not begin with a question mark is kept. -/
theorem opens_kept {rest : List Char} (noMark : rest.head? ≠ some '?') (isText : rest ≠ []) :
    OpensGroup caseless .kept ['('] rest := by
  intro frames choices items position
  refine ⟨position, position + 1, ?_⟩
  obtain ⟨c, rest, rfl⟩ := List.exists_cons_of_ne_nil isText
  have noMark : c ≠ '?' := fun isMark => noMark (congrArg some isMark)
  show Draft.readAll caseless ⟨.opened, frames, choices, items, position + 1⟩ (c :: rest) = _
  rw [Draft.readAll_cons, Draft.readAll_cons]
  simp only [Draft.step, Draft.readNext, noMark, if_false]
  rfl

theorem opens_unkept (rest : List Char) : OpensGroup caseless .unkept ['(', '?', ':'] rest :=
  fun _ _ _ _ => ⟨_, _, rfl⟩

theorem opens_ahead (rest : List Char) : OpensGroup caseless .ahead ['(', '?', '='] rest :=
  fun _ _ _ _ => ⟨_, _, rfl⟩

/-- Alternatives in a group. -/
theorem reads_kept (reads : ReadsEach caseless texts patterns)
    (noMark : (['|'].intercalate texts ++ [')']).head? ≠ some '?') :
    Reads caseless ('(' :: (['|'].intercalate texts ++ [')'])) (.group (.choice patterns)) := by
  intro frames choices items position
  have isText : ['|'].intercalate texts ++ [')'] ≠ [] := by simp
  obtain ⟨start, inside, opened⟩ :=
    @opens_kept caseless _ noMark isText frames choices items position
  obtain ⟨innerChoices, innerItems, final, isRead, alike⟩ :=
    readAll_alternatives reads (⟨.kept, start, choices, items⟩ :: frames) inside
  refine ⟨[.whole (.group (.choice (sequence innerItems :: innerChoices).reverse))], final + 1, ?_,
    (sequence_singleton _).trans alike.group⟩
  refine opened.trans ?_
  rw [Draft.readAll_append, isRead]
  rfl

/-- Alternatives in a group whose stretch is not kept. -/
theorem reads_unkept (reads : ReadsEach caseless texts patterns) :
    Reads caseless ('(' :: '?' :: ':' :: (['|'].intercalate texts ++ [')']))
      (.choice patterns) := by
  intro frames choices items position
  obtain ⟨start, inside, opened⟩ :=
    @opens_unkept caseless (['|'].intercalate texts ++ [')']) frames choices items position
  obtain ⟨innerChoices, innerItems, final, isRead, alike⟩ :=
    readAll_alternatives reads (⟨.unkept, start, choices, items⟩ :: frames) inside
  refine ⟨[.whole (.choice (sequence innerItems :: innerChoices).reverse)], final + 1, ?_,
    (sequence_singleton _).trans alike⟩
  refine opened.trans ?_
  rw [Draft.readAll_append, isRead]
  rfl

/-- A place that is only looked at. -/
theorem reads_ahead (place : ReadsPlace caseless text kind) :
    Reads caseless ('(' :: '?' :: '=' :: (text ++ [')'])) (.ahead kind) := by
  intro frames choices items position
  obtain ⟨start, inside, opened⟩ :=
    @opens_ahead caseless (text ++ [')']) frames choices items position
  obtain ⟨final, isRead⟩ := place (⟨.ahead, start, choices, items⟩ :: frames) [] [] inside
  refine ⟨[.whole (.ahead kind)], final + 1, ?_, sequence_singleton _⟩
  refine opened.trans ?_
  rw [Draft.readAll_append, isRead]
  rfl

end

end Playhouse

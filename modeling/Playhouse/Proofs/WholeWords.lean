/-
Module: Playhouse.Proofs.WholeWords
Purpose: Where the steps of a scan can cut a word in two: only behind a phrase of an operation.
Main exports: openPhrases, Step.IsOpenPhrase, Rule.Closes, Rule.closes_or_isOperation,
  words_cut_only_behind_operations
-/
import Playhouse.Proofs.Endings
import Playhouse.Proofs.Numeral
import Playhouse.Proofs.Openings

namespace Playhouse

open Text
open Pattern

/-!
A step that ends between two characters of one word cuts the word in two.  Most rules take care
not to: their patterns ask for an edge at the end, or end with a character outside of words, or
go on as long as there are characters that a word could have.  The phrases of operations ask for
no edge, with the exception of "twice".
-/

/-! ### Rules that leave words whole -/

/-- A rule of which no stretch ends inside a word, because its pattern asks for that or because it
goes on until no word can. -/
def Rule.Closes (vocabulary : Vocabulary) (rule : Rule) : Prop :=
  rule.pattern.KeepsWords (vocabulary.meaning rule.caseless) ∨
    ∃ kind : Char → Bool, rule.pattern.EndsEagerly kind ∧
      ∀ c, kind c = false → isWordCharacter c = false

/-- What stands before a stretch does not matter to its last character. -/
theorem getLast?_or_of_ne_nil {text : List Char} (nonempty : text ≠ []) (before : Option Char) :
    text.getLast?.or before = text.getLast? := by
  rw [List.getLast?_eq_some_getLast nonempty, Option.some_or]

/-- What such a rule finds does not end inside a word. -/
theorem Rule.Closes.insideWord_eq_false {vocabulary : Vocabulary} {rule : Rule}
    (closes : rule.Closes vocabulary) {before : Option Char} {rest behind : List Char}
    {found : Found} (finds : (vocabulary.fill rule).Finds before rest found)
    (isRest : rest = found.text ++ behind) :
    insideWord found.text.getLast? behind.head? = false := by
  rcases closes with keeps | ⟨kind, ends, others⟩
  · obtain ⟨more, isText, fits⟩ := fits_of_finds finds
    obtain rfl := List.append_cancel_left (isRest.symm.trans isText)
    have whole := keeps _ _ _ _ fits
    rwa [getLast?_or_of_ne_nil finds.nonempty] at whole
  · have stops := stops_of_finds ends finds isRest
    rw [insideWord, Bool.and_eq_false_iff]
    cases behind with
    | nil => exact Or.inr rfl
    | cons c tail => exact Or.inr (others c (stops c rfl))

namespace Rule

variable (vocabulary : Vocabulary)

/-- A sentence that sends the play elsewhere ends with its mark. -/
theorem keepsWords_jumpPhrase {places : Category → Meaning} :
    jumpPhrase.KeepsWords places :=
  keepsWords_mark.append _

/-- What cannot stand in a free word is no part of a word. -/
theorem noWord_of_free {c : Char} (noFree : isFreeCharacter c = false) :
    isWordCharacter c = false := by
  simp only [isFreeCharacter, Bool.or_eq_false_iff] at noFree
  exact noFree.1.1.1

/-- All rules but those for operations leave words whole. -/
theorem closes_or_isOperation {rule : Rule} (member : rule ∈ table) :
    rule.Closes vocabulary ∨ rule ∈ operations := by
  simp only [table, List.mem_append] at member
  rcases member with ((((((structuralRule | command) | operation) | jump) | comparison) | memory) |
    isOfClass) | remainder
  · -- Headings go on to the end of the line, all others end with a bracket or a colon.
    have bracket {places : Category → Meaning} : (literal false "]").KeepsWords places :=
      keepsWords_literal rfl (by decide)
    have colon {places : Category → Meaning} : (literal false ":").KeepsWords places :=
      keepsWords_literal rfl (by decide)
    have feed (c : Char) (isFeed : (c != '\n') = false) : isWordCharacter c = false := by
      obtain rfl : c = '\n' := by simpa using isFeed
      decide
    simp only [structural, List.mem_cons, List.not_mem_nil, or_false] at structuralRule
    rcases structuralRule with rfl | rfl | rfl | rfl | rfl | rfl | rfl | rfl | rfl
    · exact Or.inl (Or.inl keepsWords_someBlanks)
    · exact Or.inl (Or.inr ⟨_, rfl, feed⟩)
    · exact Or.inl (Or.inr ⟨_, rfl, feed⟩)
    · exact Or.inl (Or.inl (bracket.append _))
    · exact Or.inl (Or.inl (bracket.append _))
    · exact Or.inl (Or.inl (bracket.append _))
    · exact Or.inl (Or.inl (bracket.append _))
    · exact Or.inl (Or.inl (bracket.append _))
    · exact Or.inl (Or.inl (colon.append _))
  · simp only [commands, List.mem_cons, List.not_mem_nil, or_false] at command
    rcases command with rfl | rfl | rfl | rfl <;>
      exact Or.inl (Or.inl (keepsWords_mark.append _))
  · exact Or.inr operation
  · simp only [jumps, List.mem_cons, List.not_mem_nil, or_false] at jump
    rcases jump with rfl | rfl | rfl | rfl
    · exact Or.inl (Or.inl (keepsWords_jumpPhrase.append _))
    · exact Or.inl (Or.inl (keepsWords_jumpPhrase.append _))
    · exact Or.inl (Or.inl (keepsWords_edge.append _))
    · exact Or.inl (Or.inl keepsWords_jumpPhrase)
  · simp only [comparisons, List.mem_cons, List.not_mem_nil, or_false] at comparison
    rcases comparison with rfl | rfl | rfl | rfl | rfl <;>
      exact Or.inl (Or.inl (keepsWords_edge.append _))
  · simp only [memories, List.mem_cons, List.not_mem_nil, or_false] at memory
    rcases memory with rfl | rfl
    · exact Or.inl (Or.inl (keepsWords_edge.append _))
    · exact Or.inl (Or.inl (keepsWords_mark.append _))
  · simp only [classes, List.mem_cons, List.not_mem_nil, or_false] at isOfClass
    rcases isOfClass with rfl | rfl | rfl | rfl | rfl | rfl | rfl | rfl | rfl | rfl <;>
      exact Or.inl (Or.inl (vocabulary.keepsWords_slot _ _))
  · simp only [remainders, List.mem_cons, List.not_mem_nil, or_false] at remainder
    rcases remainder with rfl | rfl
    · exact Or.inl (Or.inr ⟨_, rfl, fun c => noWord_of_free⟩)
    · exact Or.inl (Or.inl keepsWords_mark)

end Rule

/-! ### Phrases of operations -/

/-- The phrases of operations that may end inside a word. -/
def openPhrases : List String :=
  ["the product of", "the sum of", "the remainder of the quotient between",
    "the quotient between", "the difference between", "the square of", "the cube of",
    "the square root of"]

/-- A step over such a phrase, which makes an operation of it. -/
structure Step.IsOpenPhrase (step : Step) : Prop where
  phrase : ∃ phrase ∈ openPhrases, Renders true phrase.toList step.text
  operation : (∃ operation, step.kind = some (.lexeme (.binary operation))) ∨
    ∃ operation, step.kind = some (.lexeme (.unary operation))

/-- A rule for operations finds an open phrase, or "twice" up to its edge. -/
theorem Rule.open_or_keeps {vocabulary : Vocabulary} {rule : Rule} (member : rule ∈ operations)
    {before : Option Char} {text behind : List Char} {kept : List (List Char)}
    (fits : rule.pattern.Fits (vocabulary.meaning rule.caseless) before text behind kept) :
    (∃ phrase ∈ openPhrases, Renders true phrase.toList text) ∨
      insideWord (text.getLast?.or before) behind.head? = false := by
  simp only [operations, List.mem_cons, List.not_mem_nil, or_false] at member
  rcases member with rfl | rfl
  · obtain ⟨pattern, isPattern, phraseFits⟩ := (fits_choice (by simp)).mp fits
    obtain ⟨phrase, isPhrase, rfl⟩ := List.mem_map.mp isPattern
    refine Or.inl ⟨phrase, ?_, (fits_phrase.mp phraseFits).1⟩
    exact List.mem_append_left ["the square of", "the cube of", "the square root of"] isPhrase
  · obtain ⟨pattern, isPattern, phraseFits⟩ := (fits_choice (by simp)).mp fits
    simp only [List.mem_cons, List.not_mem_nil, or_false] at isPattern
    rcases isPattern with rfl | rfl | rfl | rfl
    · exact Or.inl ⟨"the square of", by decide, (fits_phrase.mp phraseFits).1⟩
    · exact Or.inl ⟨"the cube of", by decide, (fits_phrase.mp phraseFits).1⟩
    · exact Or.inr (keepsWords_edge.append _ _ _ _ _ phraseFits)
    · exact Or.inl ⟨"the square root of", by decide, (fits_phrase.mp phraseFits).1⟩

/-- The rules for operations make operations. -/
theorem Rule.isOperation_of_build {rule : Rule} (member : rule ∈ operations) (found : Found) :
    (∃ operation, rule.build found = some (.lexeme (.binary operation))) ∨
      ∃ operation, rule.build found = some (.lexeme (.unary operation)) := by
  simp only [operations, List.mem_cons, List.not_mem_nil, or_false] at member
  rcases member with rfl | rfl
  · exact Or.inl ⟨_, rfl⟩
  · exact Or.inr ⟨_, rfl⟩

/-! ### Steps -/

/-- A single character that all rules refuse is no part of a word. -/
theorem noWord_of_refused {vocabulary : Vocabulary} {before : Option Char} {c : Char}
    {behind : List Char}
    (refused : ∀ rule ∈ Rule.table, (vocabulary.fill rule).Refuses before (c :: behind)) :
    isWordCharacter c = false := by
  apply Rule.noWord_of_free
  cases isFree : isFreeCharacter c with
  | false => rfl
  | true =>
      have isRule : Rule.remainders[0] ∈ Rule.table :=
        List.mem_append_right _ (List.getElem_mem _)
      have fits {places : Category → Meaning} :
          (freeWord : Pattern Category).Fits places before [c] behind [] :=
        ⟨⟨by simpa using isFree, Nat.le_refl 1, by simp⟩, rfl⟩
      have neverEmpty {places : Category → Meaning} (kept : List (List Char)) :
          ¬ (freeWord : Pattern Category).Fits places before [] ([c] ++ behind) kept := by
        rintro ⟨⟨-, someLetter, -⟩, -⟩
        cases someLetter
      have found : ∃ found, (vocabulary.fill Rule.remainders[0]).Finds before ([c] ++ behind)
          found := Rule.exists_finds (Rule.isReady_of_noSlots rfl) neverEmpty fits
      obtain ⟨found, finds⟩ := found
      exact absurd finds ((refused _ isRule).not_finds found)

/-- A step that ends inside a word is over an open phrase. -/
theorem Step.Takes.isOpenPhrase {vocabulary : Vocabulary} {passed behind : List Char} {step : Step}
    (takes : step.Takes (Rule.table.map vocabulary.fill) passed (step.text ++ behind))
    (inside : insideWord step.text.getLast? behind.head?) : step.IsOpenPhrase := by
  rcases rule_of_takes takes with ⟨c, isText, -, refused⟩ |
    ⟨rule, isRule, groups, isBuilt, finds⟩
  · rw [isText] at refused inside
    rw [List.getLast?_singleton, insideWord, Option.any_some, noWord_of_refused refused] at inside
    cases inside
  · rcases Rule.closes_or_isOperation vocabulary isRule with closes | isOperation
    · rw [closes.insideWord_eq_false finds rfl] at inside
      cases inside
    · obtain ⟨more, isRest, fits⟩ := Rule.fits_of_finds finds
      obtain rfl := List.append_cancel_left isRest
      rcases Rule.open_or_keeps isOperation fits with isOpen | keeps
      · exact ⟨isOpen, isBuilt ▸ Rule.isOperation_of_build isOperation _⟩
      · rw [getLast?_or_of_ne_nil finds.nonempty, inside] at keeps
        cases keeps

/-- Wherever two steps meet, for every source and every vocabulary that has all its lists, no word
is cut in two, unless the first of them is over a phrase of an operation other than "twice". -/
theorem words_cut_only_behind_operations {vocabulary : Vocabulary}
    (complete : vocabulary.IsComplete) (source : List Char) {earlier later : List Step}
    {step next : Step}
    (isSplit : (scan Rule.table vocabulary source).steps = earlier ++ step :: next :: later) :
    insideWord step.text.getLast? next.text.head? = false ∨ step.IsOpenPhrase := by
  obtain ⟨-, covers⟩ := scan_covers complete Rule.table source
  rw [isSplit] at covers
  obtain ⟨-, -, takes⟩ := covers.drop.head
  rw [List.append_cons] at covers
  obtain ⟨c, others, isNext⟩ := List.exists_cons_of_ne_nil covers.drop.head.1
  have sameNext : ((next :: later).flatMap Step.text).head? = next.text.head? := by
    rw [List.flatMap_cons, isNext]
    rfl
  cases inside : insideWord step.text.getLast? next.text.head? with
  | false => exact Or.inl rfl
  | true =>
      rw [← sameNext] at inside
      exact Or.inr (takes.isOpenPhrase inside)

/-- A sum whose "of" is the beginning of an offer, in the words that come with the library. -/
theorem steps_offer : (scan Rule.table .bundled "the sum offer".toList).steps =
    [⟨"the sum of".toList, 1, some (.lexeme (.binary .add)), 14⟩,
      ⟨"fer".toList, 1, some (.lexeme (.other "fer")), 37⟩] := by
  decide +kernel

theorem words_cut_only_behind_operations_offer :
    Vocabulary.bundled.IsComplete ∧
      ∃ step next, (scan Rule.table .bundled "the sum offer".toList).steps = [step, next] ∧
        insideWord step.text.getLast? next.text.head? ∧ step.IsOpenPhrase := by
  have complete := Vocabulary.isComplete_bundled
  have inside : insideWord "the sum of".toList.getLast? "fer".toList.head? := by decide
  refine ⟨complete, _, _, steps_offer, inside, ?_⟩
  have isSplit : (scan Rule.table .bundled "the sum offer".toList).steps = [] ++ _ :: _ :: [] :=
    steps_offer
  exact (words_cut_only_behind_operations complete _ isSplit).resolve_left (by decide)

/-- Words are cut, then, by the rules as they are. -/
theorem offer_is_cut :
    ¬ ∀ (vocabulary : Vocabulary) (source : List Char) (earlier later : List Step)
      (step next : Step), vocabulary.IsComplete →
        (scan Rule.table vocabulary source).steps = earlier ++ step :: next :: later →
          insideWord step.text.getLast? next.text.head? = false := by
  intro whole
  have uncut := whole .bundled _ [] [] _ _ Vocabulary.isComplete_bundled steps_offer
  exact absurd uncut (by decide)

end Playhouse

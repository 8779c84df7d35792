/-
Module: Playhouse.Lexicon.PatternReader
Purpose: Readers of written patterns, and why the written pattern of a word list is read
  as the pattern that finds its words.
Main exports: reads_word, reads_expression, PatternReader, PatternReader.standard
-/
import Playhouse.Lexicon.WordList
import Playhouse.Pattern.Notation

namespace Playhouse

open Text
open WordList (writtenCharacter)

/-! ### Reading a word list -/

section

variable {caseless : Bool}

/-- Whatever is a sign is written with a backslash. -/
theorem isEscaped_of_isSign {c : Char} (sign : Draft.isSign c = true) :
    WordList.isEscaped c = true := by
  simp only [Draft.isSign, List.contains_iff_mem, List.mem_cons, List.not_mem_nil, or_false] at sign
  rcases sign with rfl | rfl | rfl | rfl | rfl | rfl | rfl | rfl | rfl | rfl | rfl | rfl <;> decide

/-- Behind a backslash only letters and digits have a meaning, and they are written without. -/
theorem isAlphanum_of_isEscaped {c : Char} (escaped : WordList.isEscaped c = true) :
    c.isAlphanum = false := by
  unfold WordList.isEscaped at escaped
  rcases (Bool.or_eq_true _ _).mp escaped with control | punctuation
  · have small : c.val.toNat ≤ 32 := by
      simp only [Bool.or_eq_true, Bool.and_eq_true, decide_eq_true_eq, beq_iff_eq] at control
      have atMost : c.toNat ≤ 32 := by omega
      exact atMost
    have capital : 'A'.val.toNat = 65 := rfl
    have letter : 'a'.val.toNat = 97 := rfl
    have digit : '0'.val.toNat = 48 := rfl
    have ranges : c.isAlphanum =
        (decide ('A' ≤ c ∧ c ≤ 'Z') || ('a' ≤ c && c ≤ 'z') || ('0' ≤ c && c ≤ '9')) := rfl
    simp only [ranges, Char.le_def, UInt32.le_iff_toNat_le, Bool.or_eq_false_iff,
      Bool.and_eq_false_iff, decide_eq_false_iff_not]
    omega
  · have member := List.contains_iff_mem.mp punctuation
    simp only [String.reduceToList, List.mem_cons, List.not_mem_nil, or_false] at member
    rcases member with rfl | rfl | rfl | rfl | rfl | rfl | rfl | rfl | rfl | rfl | rfl | rfl | rfl |
      rfl | rfl | rfl | rfl | rfl | rfl <;> decide

/-- A character of a word is read as it is meant. -/
theorem reads_writtenCharacter (c : Char) :
    Reads caseless (writtenCharacter c)
      (if c == ' ' then .someBlanks else .one (Pattern.letterKind caseless c)) := by
  unfold writtenCharacter
  split
  · exact readsPlace_blank.plus
  · split
    · rename_i escaped
      exact (readsPlace_escaped (isAlphanum_of_isEscaped escaped)).reads
    · rename_i unescaped
      have noSign : Draft.isSign c = false := by
        cases sign : Draft.isSign c with
        | false => rfl
        | true => exact absurd (isEscaped_of_isSign sign) unescaped
      exact (readsPlace_character noSign).reads

/-- A written word is read as its phrase. -/
theorem reads_word (word : String) :
    Reads caseless (word.toList.flatMap writtenCharacter) (.phrase caseless word) := by
  unfold Pattern.phrase
  induction word.toList with
  | nil => exact reads_nil
  | cons c rest inductionHypothesis =>
      rw [List.flatMap_cons]
      exact (reads_writtenCharacter c).append inductionHypothesis

/-- No word begins with a question mark in writing. -/
theorem head?_written_ne {text behind : List Char} (notBehind : behind.head? ≠ some '?') :
    (text.flatMap writtenCharacter ++ behind).head? ≠ some '?' := by
  cases text with
  | nil => exact notBehind
  | cons c rest =>
      rw [List.flatMap_cons]
      unfold writtenCharacter
      split
      · simp
      · split
        · simp
        · rename_i unescaped
          rintro isMark
          obtain rfl : c = '?' := by simpa using isMark
          exact absurd (by decide) unescaped

/-- Neither does a list of words between parentheses. -/
theorem head?_listed_ne (words : List String) (behind : List Char) :
    (['|'].intercalate (words.map fun word => word.toList.flatMap writtenCharacter) ++
      ')' :: behind).head? ≠ some '?' := by
  match words with
  | [] => simp
  | [word] =>
      rw [List.map_singleton, List.intercalate_singleton]
      exact head?_written_ne (by simp)
  | word :: second :: others =>
      rw [List.map_cons, List.map_cons, List.intercalate_cons_cons, List.append_assoc,
        List.append_assoc]
      exact head?_written_ne (by simp)

/-- Words in parentheses are read as a group of alternatives. -/
theorem reads_listed (list : WordList) :
    Reads caseless (list.expression false).toList
      (.group (.choice ((WordList.longestFirst list.words).map (.phrase caseless)))) := by
  have isText : (list.expression false).toList =
      '(' :: (['|'].intercalate ((WordList.longestFirst list.words).map fun word =>
        word.toList.flatMap writtenCharacter) ++ [')']) := by
    rw [WordList.expression, String.toList_ofList, if_neg Bool.false_ne_true]
  rw [isText]
  refine reads_kept ?_ (head?_listed_ne _ [])
  induction WordList.longestFirst list.words with
  | nil => exact .nil
  | cons word others inductionHypothesis => exact .cons (reads_word word) inductionHypothesis

/-- Wherever it stands, the written pattern of a list is read as the pattern that finds its
words. -/
theorem reads_expression (list : WordList) :
    Reads caseless (list.expression true).toList (list.pattern caseless) := by
  have isText : (list.expression true).toList =
      ['\\', 'b'] ++ (list.expression false).toList ++ ['\\', 'b'] := by
    simp [WordList.expression]
  rw [isText]
  exact (reads_edge.append (reads_listed list)).append reads_edge

end

/-! ### Readers -/

/-- A matcher that finds what a pattern finds. -/
def Matcher.Finds (matcher : Matcher) (pattern : Pattern Empty) : Prop :=
  ∀ passed rest, matcher.find passed rest = pattern.match? passed.getLast? rest

/-- Somebody who reads written patterns, and may find that one of them is not well written.
The written pattern of a word list is read as the pattern that finds its words. -/
structure PatternReader where
  read : String → Flags → Except Breakdown Matcher
  readsLists : ∀ (list : WordList) (caseless : Bool), ∃ matcher,
    read (list.expression true) caseless = .ok matcher ∧ matcher.Finds (list.pattern caseless)

/-- The mark for case is the only one that most patterns have. -/
theorem readPattern_caseless (text : String) (caseless : Bool) :
    readPattern text caseless = (readWritten caseless text.toList).map Pattern.matcher := by
  cases caseless with
  | false =>
      show (readWritten false text.toList >>= _) = _
      cases readWritten false text.toList <;> rfl
  | true =>
      show (readWritten true text.toList >>= _) = _
      cases readWritten true text.toList <;> rfl

/-- Texts that are read as patterns, with bars between them. -/
theorem readPattern_of_alternatives {texts : List (List Char)} {caseless : Bool}
    {patterns : List (Pattern Empty)} (reads : ReadsEach caseless texts patterns) :
    ∃ matcher, readPattern (String.ofList (['|'].intercalate texts)) caseless = .ok matcher ∧
      matcher.Finds (.choice patterns) := by
  obtain ⟨written, isRead, alike⟩ := readWritten_of_reads reads
  refine ⟨written.matcher, ?_, fun passed rest => alike.match?_eq _ _⟩
  rw [readPattern_caseless, String.toList_ofList, isRead]
  rfl

/-- A text that is read as a pattern is a written pattern by itself. -/
theorem readPattern_of_reads {text : String} {caseless : Bool} {pattern : Pattern Empty}
    (reads : Reads caseless text.toList pattern) :
    ∃ matcher, readPattern text caseless = .ok matcher ∧ matcher.Finds pattern := by
  have single := readPattern_of_alternatives (.cons reads .nil)
  rwa [List.intercalate_singleton, String.ofList_toList] at single

/-- The reader of this program. -/
def PatternReader.standard : PatternReader where
  read := readPattern
  readsLists list _ := readPattern_of_reads (reads_expression list)

end Playhouse

/-
Module: Playhouse.Proofs.Words
Purpose: The words of a text, piece by piece, and the names that are made of them.
Main exports: blankPoints, append_cons_inj_of_span, wordsOf_append_blanks, wordsOf_word,
  wordsOf_eq_nil_iff, normalizeName_eq_empty_iff
-/
import Playhouse.Name

namespace Playhouse

namespace Text

/-! ### Blanks -/

/-- The code points of white space. -/
def blankPoints : List Nat :=
  [9, 10, 11, 12, 13, 28, 29, 30, 31, 32, 0x85, 0xa0, 0x1680, 0x2000, 0x2001, 0x2002, 0x2003,
    0x2004, 0x2005, 0x2006, 0x2007, 0x2008, 0x2009, 0x200a, 0x2028, 0x2029, 0x202f, 0x205f,
    0x3000]

theorem mem_blankPoints {c : Char} (blank : isBlank c) : c.toNat ∈ blankPoints := by
  simp only [isBlank, Bool.or_eq_true, Bool.and_eq_true, decide_eq_true_eq, beq_iff_eq] at blank
  simp only [blankPoints, List.mem_cons, List.not_mem_nil, or_false]
  omega

/-! ### Cutting at blanks -/

/-- A text is cut in one way only at the first character that is not of a kind. -/
theorem append_cons_inj_of_span (kind : Char → Bool) {first other rest behind : List Char}
    {c d : Char} (same : first ++ c :: rest = other ++ d :: behind)
    (firstKind : ∀ e ∈ first, kind e) (otherKind : ∀ e ∈ other, kind e) (stops : kind c = false)
    (alsoStops : kind d = false) : first = other ∧ c = d ∧ rest = behind := by
  have taken := congrArg (List.takeWhile kind) same
  have dropped := congrArg (List.dropWhile kind) same
  rw [List.takeWhile_append_of_pos firstKind, List.takeWhile_append_of_pos otherKind] at taken
  rw [List.dropWhile_append_of_pos firstKind, List.dropWhile_append_of_pos otherKind] at dropped
  simp only [List.takeWhile_cons, stops, alsoStops] at taken
  simp only [List.dropWhile_cons, stops, alsoStops] at dropped
  exact ⟨by simpa using taken, by simpa using dropped⟩

/-- A blank ends the words in front of it. -/
theorem wordsFrom_append_blank {current text rest : List Char} {c : Char} (blank : isBlank c) :
    wordsFrom current (text ++ c :: rest) = wordsFrom current text ++ wordsOf rest := by
  induction text generalizing current with
  | nil =>
      simp only [List.nil_append, wordsFrom, blank, if_true]
      split <;> rfl
  | cons d text inductionHypothesis =>
      rw [List.cons_append, wordsFrom, wordsFrom]
      split
      · split
        · exact inductionHypothesis
        · rw [inductionHypothesis, List.cons_append]
      · exact inductionHypothesis

/-- Blanks in front of a text do not count. -/
theorem wordsOf_blanks_append {blanks : List Char} (blank : ∀ c ∈ blanks, isBlank c)
    (text : List Char) : wordsOf (blanks ++ text) = wordsOf text := by
  induction blanks with
  | nil => rfl
  | cons c rest inductionHypothesis =>
      obtain ⟨firstBlank, restBlank⟩ := List.forall_mem_cons.mp blank
      rw [← inductionHypothesis restBlank, List.cons_append, wordsOf, wordsFrom, if_pos firstBlank]
      rfl

/-- Between the words on the two sides of a gap nothing is lost. -/
theorem wordsOf_append_blanks {gap : List Char} (someBlank : gap ≠ [])
    (blank : ∀ c ∈ gap, isBlank c) (text rest : List Char) :
    wordsOf (text ++ (gap ++ rest)) = wordsOf text ++ wordsOf rest := by
  obtain ⟨c, others, rfl⟩ := List.exists_cons_of_ne_nil someBlank
  obtain ⟨firstBlank, othersBlank⟩ := List.forall_mem_cons.mp blank
  rw [List.cons_append, wordsOf, wordsFrom_append_blank firstBlank,
    wordsOf_blanks_append othersBlank]
  rfl

theorem wordsOf_blanks {blanks : List Char} (blank : ∀ c ∈ blanks, isBlank c) :
    wordsOf blanks = [] := by
  have words := wordsOf_blanks_append blank []
  rwa [List.append_nil] at words

/-- Blanks behind a text do not count. -/
theorem wordsOf_append_space {close : List Char} (blank : ∀ c ∈ close, isBlank c)
    (text : List Char) : wordsOf (text ++ close) = wordsOf text := by
  by_cases noClose : close = []
  · rw [noClose, List.append_nil]
  · have words := wordsOf_append_blanks noClose blank text []
    simpa [wordsOf, wordsFrom] using words

theorem wordsFrom_of_noBlank {text : List Char} (noBlank : ∀ c ∈ text, isBlank c = false)
    (current : List Char) :
    wordsFrom current text = wordsFrom (text.reverse ++ current) [] := by
  induction text generalizing current with
  | nil => rfl
  | cons c rest inductionHypothesis =>
      obtain ⟨firstNoBlank, restNoBlank⟩ := List.forall_mem_cons.mp noBlank
      have further := inductionHypothesis restNoBlank (c :: current)
      simpa [wordsFrom, firstNoBlank] using further

/-- A text without a blank is one word. -/
theorem wordsOf_word {word : List Char} (someLetter : word ≠ [])
    (noBlank : ∀ c ∈ word, isBlank c = false) : wordsOf word = [word] := by
  rw [wordsOf, wordsFrom_of_noBlank noBlank, wordsFrom]
  simp [someLetter]

/-! ### Words are not empty -/

theorem ne_nil_of_mem_wordsFrom {current text word : List Char}
    (member : word ∈ wordsFrom current text) : word ≠ [] := by
  induction text generalizing current with
  | nil =>
      rw [wordsFrom] at member
      split at member
      · cases member
      · rename_i someLetter
        rw [List.mem_singleton.mp member]
        simpa using someLetter
  | cons c rest inductionHypothesis =>
      rw [wordsFrom] at member
      split at member
      · split at member
        · exact inductionHypothesis member
        · rename_i someLetter
          rcases List.mem_cons.mp member with rfl | later
          · simpa using someLetter
          · exact inductionHypothesis later
      · exact inductionHypothesis member

theorem wordsFrom_ne_nil {current : List Char} (someLetter : current ≠ []) (text : List Char) :
    wordsFrom current text ≠ [] := by
  induction text generalizing current with
  | nil => simp [wordsFrom, someLetter]
  | cons c rest inductionHypothesis =>
      rw [wordsFrom]
      split
      · simp [someLetter]
      · exact inductionHypothesis (List.cons_ne_nil c current)

/-- Only white space has no words. -/
theorem wordsOf_eq_nil_iff {text : List Char} :
    wordsOf text = [] ↔ ∀ c ∈ text, isBlank c := by
  constructor
  · intro noWords
    induction text with
    | nil => simp
    | cons c rest inductionHypothesis =>
        rw [wordsOf, wordsFrom] at noWords
        split at noWords
        · rename_i blank
          exact List.forall_mem_cons.mpr ⟨blank, inductionHypothesis noWords⟩
        · exact absurd noWords (wordsFrom_ne_nil (List.cons_ne_nil c []) rest)
  · exact wordsOf_blanks

theorem joinedWords_eq_nil_iff {text : List Char} :
    joinedWords text = [] ↔ ∀ c ∈ text, isBlank c := by
  rw [← wordsOf_eq_nil_iff, joinedWords]
  cases isWords : wordsOf text with
  | nil => simp
  | cons word others =>
      have someLetter : word ≠ [] := ne_nil_of_mem_wordsFrom (by rw [← wordsOf, isWords]; simp)
      cases others <;> simp [List.intercalate, someLetter]

/-! ### Names are not empty -/

/-- No letter vanishes at the start of a word. -/
theorem titleLetter_ne_nil (c : Char) : titleLetter c ≠ [] := by
  have spelled : ∀ entry ∈ titleSpellings, entry.2 ≠ [] := by decide
  rw [titleLetter]
  split
  · simp
  · split
    · rename_i spelling isSpelling
      obtain ⟨earlier, later, isSplit, -⟩ := List.lookup_eq_some_iff.mp isSpelling
      have someLetter := spelled (c.toNat, spelling) (by simp [isSplit])
      simpa using someLetter
    · simp

theorem lowerInPlace_ne_nil (before : List Char) (c : Char) (after : List Char) :
    lowerInPlace before c after ≠ [] := by
  rw [lowerInPlace]
  split
  · simp
  · split <;> simp

theorem title_eq_nil_iff {text : List Char} : title text = [] ↔ text = [] := by
  cases text with
  | nil => simp [title, titleFrom]
  | cons c rest =>
      rw [title, titleFrom]
      split <;> simp [titleLetter_ne_nil, lowerInPlace_ne_nil]

end Text

open Text

/-- A name is empty if it is made of white space only. -/
theorem normalizeName_eq_empty_iff {raw : List Char} :
    normalizeName raw = "" ↔ ∀ c ∈ raw, isBlank c := by
  have isEmpty : normalizeName raw = "" ↔ title (joinedWords raw) = [] := by
    rw [normalizeName, String.ofList_eq_empty_iff]
  rw [isEmpty, title_eq_nil_iff, joinedWords_eq_nil_iff]

end Playhouse

/-
Module: Playhouse.Proofs.Openings
Purpose: The words with which a pattern begins, and what letter case can do to a pattern.
Main exports: Pattern.clash, Pattern.apart_of_clash, Pattern.Opens, Pattern.Caseless,
  Pattern.fits_of_sameLetters, Rule.refuses_someBlanks, Rule.Avoids, Rule.Avoids.refuses
-/
import Playhouse.Proofs.Attempts
import Playhouse.Proofs.LetterCase

namespace Playhouse

open Text

namespace Pattern

/-! ### Words that do not begin the same text -/

/-- Whether two words differ, but for case, at some letter up to which both of them go. -/
def clash : List Char → List Char → Bool
  | c :: word, d :: other =>
      if c == ' ' && d == ' ' then
        word.head?.any (fun next => !isBlank next) && other.head?.any (fun next => !isBlank next) &&
          clash word other
      else c != ' ' && d != ' ' && (!sameLetter c d || clash word other)
  | _, _ => false

theorem exists_letter_of_renders {caseless : Bool} {c : Char} {word text : List Char}
    (renders : Renders caseless (c :: word) text) (noSpace : c ≠ ' ') :
    ∃ d others, text = d :: others ∧ letterKind caseless c d ∧ Renders caseless word others := by
  cases renders with
  | letter _ same rest => exact ⟨_, _, rfl, same, rest⟩
  | space => exact absurd rfl noSpace

theorem exists_gap_of_renders {caseless : Bool} {word text : List Char}
    (renders : Renders caseless (' ' :: word) text) :
    ∃ gap others, text = gap ++ others ∧ (∀ c ∈ gap, isBlank c) ∧
      Renders caseless word others := by
  cases renders with
  | letter noSpace => exact absurd rfl noSpace
  | space _ blank rest => exact ⟨_, _, rfl, blank, rest⟩

/-- What renders a word that does not begin with white space does not either. -/
theorem exists_head_of_renders {word text : List Char} (renders : Renders true word text)
    (begins : word.head?.any fun next => !isBlank next) :
    ∃ c others, text = c :: others ∧ isBlank c = false := by
  cases word with
  | nil => cases begins
  | cons c word =>
      have noBlank : isBlank c = false := by simpa using begins
      have noSpace : c ≠ ' ' := by
        rintro rfl
        cases noBlank
      obtain ⟨d, others, rfl, same, -⟩ := exists_letter_of_renders renders noSpace
      exact ⟨d, others, rfl, (ignoresCase_isBlank same).symm.trans noBlank⟩

/-- Words that clash do not begin the same text. -/
theorem apart_of_clash {word other first second behind behindOther : List Char}
    (clashes : clash word other) (firstRenders : Renders true word first)
    (secondRenders : Renders true other second) : first ++ behind ≠ second ++ behindOther := by
  induction word generalizing other first second with
  | nil => cases clashes
  | cons c word inductionHypothesis =>
      cases other with
      | nil => cases clashes
      | cons d other =>
          intro same
          rw [clash] at clashes
          split at clashes
          · rename_i spaces
            obtain ⟨rfl, rfl⟩ : c = ' ' ∧ d = ' ' := by simpa using spaces
            simp only [Bool.and_eq_true] at clashes
            obtain ⟨⟨begins, otherBegins⟩, clashesOn⟩ := clashes
            obtain ⟨gap, others, rfl, blank, renders⟩ := exists_gap_of_renders firstRenders
            obtain ⟨otherGap, otherOthers, rfl, otherBlank, otherRenders⟩ :=
              exists_gap_of_renders secondRenders
            obtain ⟨e, rest, rfl, noBlank⟩ := exists_head_of_renders renders begins
            obtain ⟨f, otherRest, rfl, otherNoBlank⟩ :=
              exists_head_of_renders otherRenders otherBegins
            -- The two gaps are the same, since both end at the first letter behind them.
            simp only [List.append_assoc, List.cons_append] at same
            obtain ⟨-, sameLetter, sameRest⟩ :=
              append_cons_inj_of_span isBlank same blank otherBlank noBlank otherNoBlank
            apply inductionHypothesis clashesOn renders otherRenders
            rw [List.cons_append, List.cons_append, sameLetter, sameRest]
          · simp only [Bool.and_eq_true, bne_iff_ne, Bool.or_eq_true, Bool.not_eq_true'] at clashes
            obtain ⟨⟨noSpace, otherNoSpace⟩, clashesOn⟩ := clashes
            obtain ⟨e, rest, rfl, isLetter, renders⟩ :=
              exists_letter_of_renders firstRenders noSpace
            obtain ⟨f, otherRest, rfl, isOtherLetter, otherRenders⟩ :=
              exists_letter_of_renders secondRenders otherNoSpace
            obtain ⟨rfl, sameRest⟩ := List.cons.inj same
            rcases clashesOn with differ | clashesOn
            · have same := sameLetter_trans isLetter (sameLetter_symm isOtherLetter)
              rw [differ] at same
              cases same
            · exact inductionHypothesis clashesOn renders otherRenders sameRest

/-! ### The words with which a pattern begins -/

section

variable {κ : Type} {places : κ → Meaning}

/-- Whatever a pattern fits begins with one of some words. -/
def Opens (places : κ → Meaning) (pattern : Pattern κ) (words : List String) : Prop :=
  ∀ before text behind kept, pattern.Fits places before text behind kept →
      ∃ word ∈ words, ∃ opening others, text = opening ++ others ∧ Renders true word.toList opening

theorem renders_self (caseless : Bool) (word : List Char) : Renders caseless word word := by
  induction word with
  | nil => exact .nil
  | cons c rest inductionHypothesis =>
      by_cases isSpace : c = ' '
      · subst isSpace
        have blank : ∀ c ∈ [' '], isBlank c := List.all_eq_true.mp (by decide)
        exact .space (List.cons_ne_nil ' ' []) blank inductionHypothesis
      · have same : letterKind caseless c c := by
          cases caseless with
          | false => exact beq_self_eq_true c
          | true => exact sameLetter_refl c
        exact .letter isSpace same inductionHypothesis

theorem opens_literal (word : String) : Opens places (literal false word) [word] := by
  intro before text behind kept fits
  obtain ⟨rfl, -⟩ := fits_literal.mp fits
  exact ⟨word, by simp, word.toList, [], by simp, renders_self true word.toList⟩

theorem opens_phrase (word : String) : Opens places (phrase true word) [word] := by
  intro before text behind kept fits
  exact ⟨word, by simp, text, [], by simp, (fits_phrase.mp fits).1⟩

theorem Opens.append {first : Pattern κ} {words : List String} (opens : Opens places first words)
    (second : Pattern κ) : Opens places (first ++ second) words := by
  rintro before text behind kept ⟨left, right, _, _, rfl, -, leftFits, -⟩
  obtain ⟨word, isWord, opening, others, rfl, renders⟩ := opens _ _ _ _ leftFits
  exact ⟨word, isWord, opening, others ++ right, by simp, renders⟩

theorem opens_choice {patterns : List (Pattern κ)} {words : List String}
    (someChoice : patterns ≠ []) (opens : ∀ pattern ∈ patterns, Opens places pattern words) :
    Opens places (choice patterns) words := by
  intro before text behind kept fits
  obtain ⟨pattern, isPattern, patternFits⟩ := (fits_choice someChoice).mp fits
  exact opens pattern isPattern _ _ _ _ patternFits

theorem Opens.mono {pattern : Pattern κ} {words more : List String}
    (opens : Opens places pattern words) (subset : words ⊆ more) : Opens places pattern more := by
  intro before text behind kept fits
  obtain ⟨word, isWord, begins⟩ := opens _ _ _ _ fits
  exact ⟨word, subset isWord, begins⟩

theorem opens_phrases {words : List String} (someWord : words ≠ []) :
    Opens places (choice (words.map (phrase true))) words := by
  apply opens_choice (by simpa using someWord)
  intro pattern isPattern
  obtain ⟨word, isWord, rfl⟩ := List.mem_map.mp isPattern
  exact (opens_phrase word).mono (by simpa using isWord)

/-! ### Patterns without regard to case -/

/-- A pattern that asks for no edge and no word class, and for which the cases of a letter are
the same. -/
def Caseless : Pattern κ → Prop
  | nothing => True
  | one kind | many kind _ _ _ | ahead kind => IgnoresCase kind
  | edge | slot _ => False
  | group body => body.Caseless
  | seq first second | alt first second => first.Caseless ∧ second.Caseless

theorem caseless_phrase (word : String) : (phrase true word : Pattern κ).Caseless := by
  rw [phrase]
  induction word.toList with
  | nil => exact trivial
  | cons c rest inductionHypothesis =>
      rw [List.foldr_cons]
      refine ⟨?_, inductionHypothesis⟩
      split
      · exact ignoresCase_isBlank
      · exact ignoresCase_sameLetter c

theorem caseless_choice {patterns : List (Pattern κ)}
    (each : ∀ pattern ∈ patterns, pattern.Caseless) : (choice patterns).Caseless := by
  induction patterns with
  | nil => exact trivial
  | cons first others inductionHypothesis =>
      obtain ⟨firstCaseless, othersCaseless⟩ := List.forall_mem_cons.mp each
      cases others with
      | nil => exact firstCaseless
      | cons second rest => exact ⟨firstCaseless, inductionHypothesis othersCaseless⟩

theorem caseless_roman : (roman true : Pattern κ).Caseless := by
  have place (unit five ten : Char) : (romanPlace true unit five ten : Pattern κ).Caseless := by
    apply caseless_choice
    simp only [List.forall_mem_cons]
    exact ⟨⟨ignoresCase_sameLetter _, ignoresCase_sameLetter _⟩,
      ⟨ignoresCase_sameLetter _, ignoresCase_sameLetter _⟩,
      ⟨ignoresCase_sameLetter _, ignoresCase_sameLetter _⟩, by simp⟩
  exact ⟨⟨⟨⟨ignoresCase_anyLetterKind _, ignoresCase_sameLetter _⟩, place _ _ _⟩, place _ _ _⟩,
    place _ _ _⟩

/-- A pattern without regard to case fits a text in whatever case it is written, whatever the
word classes mean, and what it keeps is the same but for case. -/
theorem fits_of_sameLetters {pattern : Pattern κ} (caseless : pattern.Caseless)
    {before : Option Char} {text behind : List Char} {kept : List (List Char)}
    (fits : pattern.Fits places before text behind kept) (placesOther : κ → Meaning)
    (other : Option Char)
    {variant behindVariant : List Char} (same : SameLetters text variant)
    (sameBehind : SameLetters behind behindVariant) :
    ∃ keptVariant, pattern.Fits placesOther other variant behindVariant keptVariant ∧
      List.Forall₂ SameLetters kept keptVariant := by
  induction pattern generalizing before text behind kept other variant behindVariant with
  | nothing =>
      obtain ⟨rfl, rfl⟩ := fits
      cases same
      exact ⟨[], ⟨rfl, rfl⟩, .nil⟩
  | one kind =>
      obtain ⟨⟨c, rfl, isKind⟩, rfl⟩ := fits
      cases same with
      | cons sameChar none =>
          cases none
          exact ⟨[], ⟨⟨_, rfl, (caseless sameChar) ▸ isKind⟩, rfl⟩, .nil⟩
  | many kind least most appetite =>
      obtain ⟨repeats, rfl⟩ := fits
      have repeatsVariant : Repeats kind least most variant :=
        ⟨caseless.forall_mem same repeats.kind, same.length_eq ▸ repeats.least,
          same.length_eq ▸ repeats.most⟩
      exact ⟨[], ⟨repeatsVariant, rfl⟩, .nil⟩
  | edge | slot key => exact caseless.elim
  | ahead kind =>
      obtain ⟨allowed, rfl, rfl⟩ := fits
      cases same
      refine ⟨[], ⟨?_, rfl, rfl⟩, .nil⟩
      cases sameBehind with
      | nil => cases allowed
      | cons sameChar _ => simpa [← caseless sameChar] using allowed
  | group body inductionHypothesis =>
      obtain ⟨inner, bodyFits, rfl⟩ := fits
      obtain ⟨innerVariant, variantFits, sameInner⟩ :=
        inductionHypothesis caseless bodyFits other same sameBehind
      exact ⟨innerVariant ++ [variant], ⟨innerVariant, variantFits, rfl⟩,
        List.rel_append sameInner (.cons same .nil)⟩
  | seq first second firstHypothesis secondHypothesis =>
      obtain ⟨left, right, keptLeft, keptRight, rfl, rfl, leftFits, rightFits⟩ := fits
      obtain ⟨leftVariant, rightVariant, rfl, sameLeft, sameRight⟩ := spelling_append_iff.mp same
      have sameRest : SameLetters (right ++ behind) (rightVariant ++ behindVariant) :=
        spelling_append_iff.mpr ⟨_, _, rfl, sameRight, sameBehind⟩
      obtain ⟨_, leftVariantFits, sameKeptLeft⟩ :=
        firstHypothesis caseless.1 leftFits other sameLeft sameRest
      obtain ⟨_, rightVariantFits, sameKeptRight⟩ :=
        secondHypothesis caseless.2 rightFits (leftVariant.getLast?.or other) sameRight sameBehind
      exact ⟨_, ⟨_, _, _, _, rfl, rfl, leftVariantFits, rightVariantFits⟩,
        List.rel_append sameKeptLeft sameKeptRight⟩
  | alt first second firstHypothesis secondHypothesis =>
      rcases fits with firstFits | secondFits
      · obtain ⟨keptVariant, variantFits, sameKept⟩ :=
          firstHypothesis caseless.1 firstFits other same sameBehind
        exact ⟨keptVariant, Or.inl variantFits, sameKept⟩
      · obtain ⟨keptVariant, variantFits, sameKept⟩ :=
          secondHypothesis caseless.2 secondFits other same sameBehind
        exact ⟨keptVariant, Or.inr variantFits, sameKept⟩

end

end Pattern

open Pattern

namespace Rule

/-! ### Rules that refuse by their opening words -/

/-- White space is not found where there is none. -/
theorem refuses_someBlanks (vocabulary : Vocabulary) {c : Char} (noBlank : isBlank c = false)
    (before : Option Char) (rest : List Char) :
    (vocabulary.fill (plain someBlanks skip)).Refuses before (c :: rest) := by
  apply refuses_of_no_fit (isReady_of_noSlots rfl)
  intro text behind kept isText fits
  obtain ⟨⟨someBlank, blank⟩, -⟩ := fits_someBlanks.mp fits
  obtain ⟨d, others, rfl⟩ := List.exists_cons_of_ne_nil someBlank
  obtain ⟨rfl, -⟩ := List.cons.inj isText
  rw [blank c List.mem_cons_self] at noBlank
  cases noBlank

/-- A rule whose pattern never begins with one of some words. -/
def Avoids (vocabulary : Vocabulary) (words : List String) (rule : Rule) : Prop :=
  ∃ own, Opens (vocabulary.meaning rule.caseless) rule.pattern own ∧
    ∀ other ∈ own, ∀ word ∈ words, clash other.toList word.toList

/-- Such a rule refuses a text that begins with one of the words. -/
theorem Avoids.refuses {vocabulary : Vocabulary} {words : List String} {rule : Rule}
    (avoids : rule.Avoids vocabulary words) (ready : (vocabulary.fill rule).IsReady)
    {word : String} (isWord : word ∈ words) {opening : List Char}
    (renders : Renders true word.toList opening) (before : Option Char) (behind : List Char) :
    (vocabulary.fill rule).Refuses before (opening ++ behind) := by
  obtain ⟨own, opens, clashes⟩ := avoids
  apply refuses_of_no_fit ready
  intro text rest kept isText fits
  obtain ⟨other, isOther, begins, others, rfl, otherRenders⟩ := opens _ _ _ _ fits
  rw [List.append_assoc] at isText
  exact apart_of_clash (clashes other isOther word isWord) otherRenders renders isText.symm

section

variable (places : Category → Meaning)

theorem opens_heading (keyword : String) : Opens places (heading keyword) [keyword ++ " "] :=
  (((opens_literal (keyword ++ " ")).append _).append _).append _

theorem opens_directionForOne (keyword : Pattern Category) :
    Opens places (directionForOne keyword) ["["] :=
  ((((((opens_literal "[").append _).append _).append _).append _).append _).append _

theorem opens_directionForTwo (keyword : Pattern Category) :
    Opens places (directionForTwo keyword) ["["] :=
  ((((((((((opens_literal "[").append _).append _).append _).append _).append _).append _).append
    _).append _).append _).append _

theorem opens_command (verb object : String) : Opens places (command verb object) [verb] :=
  ((((((opens_phrase verb).append _).append _).append _).append _).append _).append _

theorem opens_jumpPhrase : Opens places jumpPhrase ["let us", "we must", "we shall"] :=
  ((((((((opens_phrases (by simp)).append _).append _).append _).append _).append _).append
    _).append _).append _

theorem opens_conditionalPhrase (condition : String) :
    Opens places (conditionalPhrase condition) [condition] :=
  ((opens_phrase condition).append _).append _

end

end Rule

end Playhouse

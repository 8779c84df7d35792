/-
Module: Playhouse.Proofs.RomanNumeral
Purpose: The numerals of headings and jumps are the Roman numerals of numbers below 5000.
Main exports: romanDigit, romanNumeral, Pattern.fits_romanPlace, Pattern.fits_roman,
  InCapitals, inCapitals_romanNumeral, eq_of_sameLetters, romanNumeral_eq_nil_iff
-/
import Playhouse.Proofs.Fitting
import Playhouse.Proofs.LetterCase

namespace Playhouse

open Text

/-! ### Numerals -/

/-- A decimal digit in Roman letters, those for one, five and ten units of its place. -/
def romanDigit (unit five ten : Char) (digit : Nat) : List Char :=
  if digit = 9 then [unit, ten]
  else if digit = 4 then [unit, five]
  else List.replicate (digit / 5) five ++ List.replicate (digit % 5) unit

/-- A number in Roman letters, place by place; thousands are counted out. -/
def romanNumeral (number : Nat) : List Char :=
  List.replicate (number / 1000) 'M' ++ romanDigit 'C' 'D' 'M' (number / 100 % 10) ++
    romanDigit 'X' 'L' 'C' (number / 10 % 10) ++ romanDigit 'I' 'V' 'X' (number % 10)

example : romanNumeral 1994 = "MCMXCIV".toList := by decide

example : romanNumeral 4888 = "MMMMDCCCLXXXVIII".toList := by decide

/-- The letters of Roman numerals. -/
def romanLetters : List Char :=
  ['M', 'D', 'C', 'L', 'X', 'V', 'I']

namespace Pattern

section

variable {κ : Type} {places : κ → Meaning} {before : Option Char} {text behind : List Char}
  {kept : List (List Char)} {caseless : Bool}

/-- Some letters in a row are a repetition of their kind. -/
theorem spelling_replicate_iff {count : Nat} {letter : Char} :
    Spelling caseless (List.replicate count letter) text ↔
      text.length = count ∧ ∀ c ∈ text, letterKind caseless letter c := by
  induction count generalizing text with
  | zero =>
      constructor
      · rintro ⟨⟩
        simp
      · rintro ⟨isEmpty, -⟩
        obtain rfl := List.length_eq_zero_iff.mp isEmpty
        exact .nil
  | succ count inductionHypothesis =>
      rw [List.replicate_succ]
      constructor
      · rintro (_ | ⟨same, spelling⟩)
        obtain ⟨rfl, others⟩ := inductionHypothesis.mp spelling
        exact ⟨rfl, List.forall_mem_cons.mpr ⟨same, others⟩⟩
      · rintro ⟨isLength, same⟩
        obtain ⟨c, rest, rfl⟩ := List.exists_cons_of_length_eq_add_one isLength
        obtain ⟨first, others⟩ := List.forall_mem_cons.mp same
        exact .cons first (inductionHypothesis.mpr ⟨by simpa using isLength, others⟩)

/-- Up to a number of letters in a row. -/
theorem fits_upTo {letter : Char} {most : Nat} :
    (many (letterKind caseless letter) 0 (some most) .eager : Pattern κ).Fits places before text
        behind kept ↔
      (∃ count ≤ most, Spelling caseless (List.replicate count letter) text) ∧ kept = [] := by
  simp only [spelling_replicate_iff]
  constructor
  · rintro ⟨repeats, noneKept⟩
    exact ⟨⟨text.length, repeats.most most rfl, rfl, repeats.kind⟩, noneKept⟩
  · rintro ⟨⟨count, enough, rfl, kind⟩, noneKept⟩
    refine ⟨⟨kind, Nat.zero_le _, ?_⟩, noneKept⟩
    rintro bound ⟨⟩
    exact enough

/-- Two letters. -/
theorem fits_pair {first second : Char} :
    (one (letterKind caseless first) ++ one (letterKind caseless second) : Pattern κ).Fits places
        before text behind kept ↔
      Spelling caseless [first, second] text ∧ kept = [] := by
  constructor
  · rintro ⟨_, _, _, _, rfl, rfl, ⟨⟨c, rfl, isFirst⟩, rfl⟩, ⟨d, rfl, isSecond⟩, rfl⟩
    exact ⟨.cons isFirst (.cons isSecond .nil), rfl⟩
  · rintro ⟨_ | ⟨isFirst, _ | ⟨isSecond, ⟨⟩⟩⟩, rfl⟩
    exact ⟨[_], [_], [], [], rfl, rfl, ⟨⟨_, rfl, isFirst⟩, rfl⟩, ⟨_, rfl, isSecond⟩, rfl⟩

/-- Some fives, and then some units. -/
theorem fits_counted {five unit : Char} :
    (many (letterKind caseless five) 0 (some 1) .eager ++
        many (letterKind caseless unit) 0 (some 3) .eager : Pattern κ).Fits places before text
        behind kept ↔
      (∃ fives ≤ 1, ∃ units ≤ 3,
        Spelling caseless (List.replicate fives five ++ List.replicate units unit) text) ∧
        kept = [] := by
  simp only [fits_append, fits_upTo, spelling_append_iff]
  constructor
  · rintro ⟨left, right, _, _, rfl, rfl, ⟨⟨fives, atMostOne, isFives⟩, rfl⟩,
      ⟨units, atMostThree, isUnits⟩, rfl⟩
    exact ⟨⟨fives, atMostOne, units, atMostThree, left, right, rfl, isFives, isUnits⟩, rfl⟩
  · rintro ⟨⟨fives, atMostOne, units, atMostThree, left, right, rfl, isFives, isUnits⟩, rfl⟩
    exact ⟨left, right, [], [], rfl, rfl, ⟨⟨fives, atMostOne, isFives⟩, rfl⟩,
      ⟨units, atMostThree, isUnits⟩, rfl⟩

/-- A place of a numeral fits the spellings of a digit. -/
theorem fits_romanPlace {unit five ten : Char} :
    (romanPlace caseless unit five ten : Pattern κ).Fits places before text behind kept ↔
      (∃ digit < 10, Spelling caseless (romanDigit unit five ten digit) text) ∧ kept = [] := by
  rw [romanPlace, fits_choice (by simp)]
  simp only [List.mem_cons, List.not_mem_nil, or_false, exists_eq_or_imp, exists_eq_left,
    fits_pair, fits_counted]
  constructor
  · rintro (⟨nine, rfl⟩ | ⟨four, rfl⟩ | ⟨⟨fives, atMostOne, units, atMostThree, counted⟩, rfl⟩)
    · exact ⟨⟨9, by omega, nine⟩, rfl⟩
    · exact ⟨⟨4, by omega, four⟩, rfl⟩
    · refine ⟨⟨5 * fives + units, by omega, ?_⟩, rfl⟩
      have isFives : (5 * fives + units) / 5 = fives := by omega
      have isUnits : (5 * fives + units) % 5 = units := by omega
      rw [romanDigit, if_neg (by omega), if_neg (by omega), isFives, isUnits]
      exact counted
  · rintro ⟨⟨digit, small, spelling⟩, rfl⟩
    rw [romanDigit] at spelling
    split at spelling
    · exact Or.inl ⟨spelling, rfl⟩
    · split at spelling
      · exact Or.inr (Or.inl ⟨spelling, rfl⟩)
      · exact Or.inr (Or.inr
          ⟨⟨digit / 5, by omega, digit % 5, by omega, spelling⟩, rfl⟩)

/-- The numeral pattern fits the spellings of the numbers below 5000 where a letter of a numeral
comes first. -/
theorem fits_roman :
    (roman caseless : Pattern κ).Fits places before text behind kept ↔
      (text ++ behind).head?.any (anyLetterKind caseless romanLetters) ∧
        (∃ number < 5000, Spelling caseless (romanNumeral number) text) ∧ kept = [] := by
  constructor
  · rintro ⟨_, ones, _, _, rfl, rfl, ⟨_, tens, _, _, rfl, rfl, ⟨_, hundreds, _, _, rfl, rfl,
      ⟨_, thousands, _, _, rfl, rfl, ⟨begins, rfl, rfl⟩, mFits⟩, cFits⟩, xFits⟩, iFits⟩
    obtain ⟨⟨m, atMostFour, isM⟩, rfl⟩ := fits_upTo.mp mFits
    obtain ⟨⟨c, cSmall, isC⟩, rfl⟩ := fits_romanPlace.mp cFits
    obtain ⟨⟨x, xSmall, isX⟩, rfl⟩ := fits_romanPlace.mp xFits
    obtain ⟨⟨i, iSmall, isI⟩, rfl⟩ := fits_romanPlace.mp iFits
    refine ⟨by simpa [romanLetters] using begins,
      ⟨1000 * m + 100 * c + 10 * x + i, by omega, ?_⟩, rfl⟩
    have isThousands : (1000 * m + 100 * c + 10 * x + i) / 1000 = m := by omega
    have isHundreds : (1000 * m + 100 * c + 10 * x + i) / 100 % 10 = c := by omega
    have isTens : (1000 * m + 100 * c + 10 * x + i) / 10 % 10 = x := by omega
    have isOnes : (1000 * m + 100 * c + 10 * x + i) % 10 = i := by omega
    rw [romanNumeral, isThousands, isHundreds, isTens, isOnes]
    exact spelling_append_iff.mpr ⟨_, _, rfl, spelling_append_iff.mpr ⟨_, _, rfl,
      spelling_append_iff.mpr ⟨_, _, rfl, isM, isC⟩, isX⟩, isI⟩
  · rintro ⟨begins, ⟨number, small, spelling⟩, rfl⟩
    obtain ⟨_, ones, rfl, spelling, isI⟩ := spelling_append_iff.mp spelling
    obtain ⟨_, tens, rfl, spelling, isX⟩ := spelling_append_iff.mp spelling
    obtain ⟨thousands, hundreds, rfl, isM, isC⟩ := spelling_append_iff.mp spelling
    have aheadFits : (ahead (anyLetterKind caseless romanLetters) : Pattern κ).Fits places before
        [] (thousands ++ (hundreds ++ (tens ++ (ones ++ behind)))) [] :=
      ⟨by simpa using begins, rfl, rfl⟩
    exact (((aheadFits.append (fits_upTo.mpr ⟨⟨_, by omega, isM⟩, rfl⟩)).append
      (fits_romanPlace.mpr ⟨⟨_, by omega, isC⟩, rfl⟩)).append
      (fits_romanPlace.mpr ⟨⟨_, by omega, isX⟩, rfl⟩)).append
      (fits_romanPlace.mpr ⟨⟨_, by omega, isI⟩, rfl⟩)

end

end Pattern

/-! ### Letters of numerals -/

theorem mem_romanDigit {unit five ten c : Char} {digit : Nat}
    (member : c ∈ romanDigit unit five ten digit) : c = unit ∨ c = five ∨ c = ten := by
  rw [romanDigit] at member
  split at member
  · simp only [List.mem_cons, List.not_mem_nil, or_false] at member
    rcases member with isUnit | isTen
    · exact Or.inl isUnit
    · exact Or.inr (Or.inr isTen)
  · split at member
    · simp only [List.mem_cons, List.not_mem_nil, or_false] at member
      rcases member with isUnit | isFive
      · exact Or.inl isUnit
      · exact Or.inr (Or.inl isFive)
    · rcases List.mem_append.mp member with isFive | isUnit
      · exact Or.inr (Or.inl (List.eq_of_mem_replicate isFive))
      · exact Or.inl (List.eq_of_mem_replicate isUnit)

/-- A text in the letters of numerals, all of them capitals. -/
def InCapitals (text : List Char) : Prop :=
  ∀ c ∈ text, c ∈ romanLetters

/-- Numerals are written in capitals. -/
theorem inCapitals_romanNumeral (number : Nat) : InCapitals (romanNumeral number) := by
  intro c member
  simp only [romanNumeral, List.mem_append] at member
  rcases member with ((isThousand | isHundred) | isTen) | isOne
  · rw [List.eq_of_mem_replicate isThousand]
    decide
  · rcases mem_romanDigit isHundred with rfl | rfl | rfl <;> decide
  · rcases mem_romanDigit isTen with rfl | rfl | rfl <;> decide
  · rcases mem_romanDigit isOne with rfl | rfl | rfl <;> decide

/-- Texts in capitals are the same but for case only if they are equal. -/
theorem eq_of_sameLetters {first second : List Char} (same : SameLetters first second)
    (capitals : InCapitals first) (alsoCapitals : InCapitals second) : second = first := by
  have letters : romanLetters.all fun c => romanLetters.all fun d => !sameLetter c d || d == c := by
    decide +kernel
  induction same with
  | nil => rfl
  | @cons c d first second sameFirst _ inductionHypothesis =>
      obtain ⟨isCapital, others⟩ := List.forall_mem_cons.mp capitals
      obtain ⟨alsoCapital, alsoOthers⟩ := List.forall_mem_cons.mp alsoCapitals
      have same : sameLetter c d := sameFirst
      have either := List.all_eq_true.mp (List.all_eq_true.mp letters c isCapital) d alsoCapital
      have isSame : d = c := by simpa [same] using either
      rw [isSame, inductionHypothesis others alsoOthers]

/-- Only zero has an empty numeral. -/
theorem romanNumeral_eq_nil_iff {number : Nat} : romanNumeral number = [] ↔ number = 0 := by
  constructor
  · intro isEmpty
    have digits (unit five ten : Char) (digit : Nat)
        (noLetter : romanDigit unit five ten digit = []) : digit = 0 := by
      rw [romanDigit] at noLetter
      split at noLetter
      · cases noLetter
      · split at noLetter
        · cases noLetter
        · simp only [List.append_eq_nil_iff, List.replicate_eq_nil_iff] at noLetter
          omega
    simp only [romanNumeral, List.append_eq_nil_iff, List.replicate_eq_nil_iff] at isEmpty
    obtain ⟨⟨⟨thousands, hundreds⟩, tens⟩, ones⟩ := isEmpty
    have isHundreds := digits _ _ _ _ hundreds
    have isTens := digits _ _ _ _ tens
    have isOnes := digits _ _ _ _ ones
    omega
  · rintro rfl
    decide

end Playhouse

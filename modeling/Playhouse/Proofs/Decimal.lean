/-
Module: Playhouse.Proofs.Decimal
Purpose: A decimal numeral is read back as the number for which it was written, also from a
  line of its own.
Main exports: Text.numeral_inj, Text.readNatural_naturalNumeral, Text.readInteger_numeral,
  Text.strip_line
-/
import Playhouse.Text.Integer

namespace Playhouse.Text

/-! ### Digits -/

theorem toNat_of_isDigit {c : Char} (isDigit : c.isDigit = true) :
    48 ≤ c.toNat ∧ c.toNat ≤ 57 := by
  simp only [Char.isDigit, Bool.and_eq_true, decide_eq_true_eq] at isDigit
  exact isDigit

theorem digitValue?_of_isDigit {c : Char} (isDigit : c.isDigit = true) :
    digitValue? c = some (c.toNat - 48) := by
  have bounds := toNat_of_isDigit isDigit
  have isAscii : c.toNat < 128 := by omega
  rw [digitValue?, if_pos isAscii, if_pos isDigit]

theorem isBlank_of_isDigit {c : Char} (isDigit : c.isDigit = true) : isBlank c = false := by
  have bounds := toNat_of_isDigit isDigit
  simp [isBlank]
  omega

/-- Digits up to the end of a text are all taken. -/
theorem digitsFrom_digits {afterDigit : Bool} {digits : List Char}
    (areDigits : ∀ c ∈ digits, c.isDigit = true) (someDigit : digits ≠ [] ∨ afterDigit = true) :
    digitsFrom afterDigit digits = some (digits.map fun c => c.toNat - 48, []) := by
  induction digits generalizing afterDigit with
  | nil =>
      rcases someDigit with absurdity | after
      · exact absurd rfl absurdity
      · rw [after]
        rfl
  | cons c rest inductionHypothesis =>
      have further : digitsFrom true rest = some (rest.map fun c => c.toNat - 48, []) :=
        inductionHypothesis
          (fun other member => areDigits other (List.mem_cons_of_mem c member)) (Or.inr rfl)
      have isValue := digitValue?_of_isDigit (areDigits c List.mem_cons_self)
      rw [digitsFrom, isValue]
      simp [further]

/-! ### Numerals -/

theorem isDigit_of_mem_naturalNumeral {value : Nat} {c : Char}
    (member : c ∈ naturalNumeral value) : c.isDigit = true :=
  Nat.isDigit_of_mem_toDigits (by decide) (by decide) member

theorem numberOfDigits_naturalNumeral (value : Nat) :
    numberOfDigits ((naturalNumeral value).map fun c => c.toNat - 48) = value := by
  rw [numberOfDigits, List.foldl_map]
  exact Nat.ofDigitChars_toDigits (by decide) (by decide)

theorem naturalNumeral_inj {value other : Nat}
    (same : naturalNumeral value = naturalNumeral other) : value = other := by
  rw [← numberOfDigits_naturalNumeral value, same, numberOfDigits_naturalNumeral]

/-- Different integers have different numerals. -/
theorem numeral_inj {value other : Int} (same : numeral value = numeral other) :
    value = other := by
  have noSign {magnitude : Nat} {rest : List Char} : naturalNumeral magnitude ≠ '-' :: rest := by
    intro signed
    have isDigit := isDigit_of_mem_naturalNumeral (signed ▸ List.mem_cons_self)
    cases isDigit
  unfold numeral at same
  split at same
  · split at same
    · have sameMagnitude := naturalNumeral_inj (List.cons.inj same).2
      omega
    · exact absurd same.symm noSign
  · split at same
    · exact absurd same noSign
    · have sameMagnitude := naturalNumeral_inj same
      omega

/-- A numeral without a sign is read back, unless it is too long. -/
theorem readNatural_naturalNumeral {value : Nat}
    (short : (naturalNumeral value).length ≤ digitLimit) :
    readNatural (naturalNumeral value) = .ok value := by
  have taken : digitsFrom false (naturalNumeral value) =
      some ((naturalNumeral value).map fun c => c.toNat - 48, []) :=
    digitsFrom_digits (fun c => isDigit_of_mem_naturalNumeral) (Or.inl Nat.toDigits_ne_nil)
  rw [readNatural, taken]
  simp [numberOfDigits_naturalNumeral, short]

/-- The characters of a numeral are no blanks. -/
theorem isBlank_of_mem_numeral {value : Int} {c : Char} (member : c ∈ numeral value) :
    isBlank c = false := by
  unfold numeral at member
  split at member
  · rcases List.mem_cons.mp member with rfl | isDigit
    · decide
    · exact isBlank_of_isDigit (isDigit_of_mem_naturalNumeral isDigit)
  · exact isBlank_of_isDigit (isDigit_of_mem_naturalNumeral member)

theorem dropWhile_of_not_mem {text : List Char} {isDropped : Char → Bool}
    (noneDropped : ∀ c ∈ text, isDropped c = false) : text.dropWhile isDropped = text := by
  cases text with
  | nil => rfl
  | cons c rest =>
      exact List.dropWhile_cons_of_neg (by simp [noneDropped c List.mem_cons_self])

/-- A numeral is read back, unless it has too many digits. -/
theorem readInteger_numeral {value : Int}
    (short : (naturalNumeral value.natAbs).length ≤ digitLimit) :
    readInteger (numeral value) = .ok value := by
  have noBlank : (numeral value).dropWhile isNumeralBlank = numeral value := by
    apply dropWhile_of_not_mem
    intro c member
    simp [isNumeralBlank, isBlank_of_mem_numeral member]
  have isDigit {c : Char} {rest : List Char} (begins : naturalNumeral value.natAbs = c :: rest) :
      c.isDigit = true :=
    isDigit_of_mem_naturalNumeral (by rw [begins]; exact List.mem_cons_self)
  have magnitude := readNatural_naturalNumeral short
  rw [readInteger, noBlank]
  by_cases negative : value < 0
  · have isNegated : -(value.natAbs : Int) = value := by omega
    rw [numeral, if_pos negative]
    simp only [magnitude, bind, Except.bind, pure, Except.pure, Except.map, isNegated]
  · have isSame : (value.natAbs : Int) = value := by omega
    rw [numeral, if_neg negative]
    -- A digit is no sign, so the whole numeral is read.
    split
    · rename_i begins
      exact absurd (isDigit begins) (by decide)
    · rename_i begins
      exact absurd (isDigit begins) (by decide)
    · simp only [magnitude, bind, Except.bind, pure, Except.pure, Except.map, isSame]

/-! ### Lines -/

/-- A line without blanks is trimmed of its line feed only. -/
theorem strip_line {text : List Char} (noBlank : ∀ c ∈ text, isBlank c = false) :
    strip (text ++ ['\n']) = text := by
  have blankFeed : isBlank '\n' = true := by decide
  have fromEnd : (text ++ ['\n']).reverse.dropWhile isBlank = text.reverse := by
    rw [List.reverse_append, List.reverse_singleton, List.singleton_append,
      List.dropWhile_cons_of_pos blankFeed]
    apply dropWhile_of_not_mem
    intro c member
    exact noBlank c (List.mem_reverse.mp member)
  cases text with
  | nil => decide
  | cons c rest =>
      have fromStart : (c :: rest ++ ['\n']).dropWhile isBlank = c :: rest ++ ['\n'] :=
        List.dropWhile_cons_of_neg (by simp [noBlank c List.mem_cons_self])
      rw [strip, fromStart, fromEnd, List.reverse_reverse]

end Playhouse.Text

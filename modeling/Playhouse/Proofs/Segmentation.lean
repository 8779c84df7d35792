/-
Module: Playhouse.Proofs.Segmentation
Purpose: A run of words falls into units in just one way, and the number that it stands for
  can be read off them.
Main exports: Vocabulary.classOf, Vocabulary.Segments, Vocabulary.exists_segments,
  Vocabulary.Segments.deterministic, Vocabulary.Segments.numeralValue_eq,
  readExpression_of_words
-/
import Mathlib.Algebra.Group.Int.Defs
import Playhouse.Proofs.Numeral

namespace Playhouse

/-!
A unit is one word or two.  `Vocabulary.units` cuts a run of words up and joins the words
of each unit at once, so that the cuts are no longer to be seen in what it gives.  The
relation below keeps the units apart, and says of each why it was cut off where it was.
-/

namespace Vocabulary

/-- The class of a unit as a noun: the first of the four that lists its words, with a
space between two of them. -/
def classOf (vocabulary : Vocabulary) (unit : List String) : Option Category :=
  [.positiveNoun, .neutralNoun, .negativeNoun, .nothing].find?
    (vocabulary.isListed (" ".intercalate unit))

/-- The units of a run of words, cut off from the left. -/
inductive Segments (vocabulary : Vocabulary) : List String → List (List String) → Prop where
  | empty : Segments vocabulary [] []
  /-- Two words that make a noun together go together. -/
  | pair {first second : String} {rest : List String} {units : List (List String)}
      (isNoun : (vocabulary.classOf [first, second]).isSome)
      (others : Segments vocabulary rest units) :
      Segments vocabulary (first :: second :: rest) ([first, second] :: units)
  /-- A word that makes no noun with the next one, if there is a next one, stands alone. -/
  | single {word : String} {rest : List String} {units : List (List String)}
      (alone : ∀ second ∈ rest.head?, vocabulary.classOf [word, second] = none)
      (others : Segments vocabulary rest units) :
      Segments vocabulary (word :: rest) ([word] :: units)

variable {vocabulary : Vocabulary} {words : List String} {units : List (List String)}

theorem classOf_pair (vocabulary : Vocabulary) (first second : String) :
    vocabulary.classOf [first, second] = vocabulary.nounOf (first ++ " " ++ second) := rfl

/-- Every run of words can be cut into units. -/
theorem exists_segments (vocabulary : Vocabulary) (words : List String) :
    ∃ units, vocabulary.Segments words units := by
  induction words using units.induct vocabulary with
  | case1 => exact ⟨_, .empty⟩
  | case2 word => exact ⟨_, .single (by simp) .empty⟩
  | case3 first second rest isNoun inductionHypothesis =>
      obtain ⟨units, segments⟩ := inductionHypothesis
      exact ⟨_, .pair isNoun segments⟩
  | case4 first second rest noNoun inductionHypothesis =>
      obtain ⟨units, segments⟩ := inductionHypothesis
      refine ⟨_, .single ?_ segments⟩
      rintro _ ⟨⟩
      simpa [classOf_pair] using noNoun

namespace Segments

/-- The cuts leave no choice. -/
theorem deterministic {others : List (List String)} (one : vocabulary.Segments words units)
    (two : vocabulary.Segments words others) : others = units := by
  induction one generalizing others with
  | empty =>
      cases two
      rfl
  | pair isNoun _ inductionHypothesis =>
      cases two with
      | pair _ rest => rw [inductionHypothesis rest]
      | single alone _ => simp [alone _ rfl] at isNoun
  | single alone _ inductionHypothesis =>
      cases two with
      | pair isNoun _ => simp [alone _ rfl] at isNoun
      | single _ rest => rw [inductionHypothesis rest]

/-- Joined, the words of the units are those that the value of a run is made of. -/
theorem map_intercalate (segments : vocabulary.Segments words units) :
    units.map " ".intercalate = vocabulary.units words := by
  induction segments with
  | empty => rfl
  | @pair first second rest units isNoun _ inductionHypothesis =>
      rw [Vocabulary.units, ← classOf_pair, if_pos isNoun, ← inductionHypothesis]
      rfl
  | @single word rest units alone _ inductionHypothesis =>
      cases rest with
      | nil =>
          rw [List.map_cons, inductionHypothesis]
          rfl
      | cons second rest =>
          rw [Vocabulary.units, ← classOf_pair, alone second rfl, ← inductionHypothesis]
          rfl

/-- More than nothing has a last unit. -/
theorem exists_last {word : String}
    (segments : vocabulary.Segments (word :: words) units) :
    ∃ front last, units = front ++ [last] := by
  have nonempty : units ≠ [] := by
    rintro rfl
    cases segments
  exact ⟨units.dropLast, units.getLast nonempty, (List.dropLast_concat_getLast nonempty).symm⟩

end Segments

/-- The sign of a last unit, class by class. -/
theorem signOf_intercalate (vocabulary : Vocabulary) (unit : List String) :
    vocabulary.signOf (" ".intercalate unit) =
      if vocabulary.classOf unit = some .negativeNoun then -1
      else if vocabulary.classOf unit = some .nothing then 0
      else 1 := by
  have isClass : vocabulary.nounOf (" ".intercalate unit) = vocabulary.classOf unit := rfl
  rw [signOf, isClass]
  cases vocabulary.classOf unit with
  | none => rfl
  | some category => cases category <;> rfl

/-- The number for which a run of words stands, read off its units. -/
theorem Segments.numeralValue_eq {last : List String}
    (segments : vocabulary.Segments words (units ++ [last])) :
    vocabulary.numeralValue words =
      2 ^ (units.countP fun unit => (vocabulary.classOf unit).isNone) *
        if vocabulary.classOf last = some .negativeNoun then -1
        else if vocabulary.classOf last = some .nothing then 0
        else 1 := by
  rw [numeralValue, ← segments.map_intercalate, List.map_append, List.map_singleton,
    valueOfUnits, List.dropLast_concat, List.countP_map, List.getLast?_concat, Option.map_some,
    Option.getD_some, signOf_intercalate]
  rfl

end Vocabulary

variable {vocabulary : Vocabulary}

/-- A run of words is always read as a number.  It falls into units in just one way, from
the left: two words that make a noun together, and otherwise one.  Every unit before the
last one doubles the number unless it is a noun; a negative noun at the end makes it
negative, a noun for nothing makes it zero, and anything else leaves it as it is. -/
theorem readExpression_of_words (hasNouns : vocabulary.HasNouns) {tokens : List Token}
    {words : List String} (spelled : Spells tokens words) (spoken : words ≠ [])
    (company : Company) (endLine : Nat) (factor : Int) :
    ∃ units last, vocabulary.Segments words (units ++ [last]) ∧
      (∀ others, vocabulary.Segments words others → others = units ++ [last]) ∧
      ∃ line, (readExpression vocabulary company endLine factor tokens).outcome =
        .ok (.number
          (factor * 2 ^ (units.countP fun unit => (vocabulary.classOf unit).isNone) *
            if vocabulary.classOf last = some .negativeNoun then -1
            else if vocabulary.classOf last = some .nothing then 0
            else 1)
          line) := by
  obtain ⟨word, others, rfl⟩ := List.exists_cons_of_ne_nil spoken
  obtain ⟨line, rest, rfl, restSpelled⟩ := spelled.head
  obtain ⟨_, segments⟩ := vocabulary.exists_segments (word :: others)
  obtain ⟨units, last, rfl⟩ := segments.exists_last
  refine ⟨units, last, segments, fun _ => segments.deterministic, ?_⟩
  rw [readExpression, Int.mul_assoc, ← segments.numeralValue_eq]
  exact readNumeral_spelled hasNouns restSpelled word line factor

/-- A vocabulary in which a day is a bad thing, but not in summer. -/
def seasons : Vocabulary :=
  ⟨[(.positiveNoun, .ok (.ofWords ["summer's day"])), (.negativeNoun, .ok (.ofWords ["day"]))]⟩

/-- The tokens of "lovely summer's day day", over two lines. -/
def daysOff : List Token :=
  [⟨.lexeme (.other "lovely"), 1⟩, ⟨.lexeme (.other "summer's"), 1⟩,
    ⟨.lexeme (.other "day"), 2⟩, ⟨.lexeme (.other "day"), 2⟩]

/-- Three times this gives minus six: the noun of two words counts for nothing where it
stands, and the noun behind it gives the sign. -/
theorem readExpression_of_words_daysOff :
    ∃ line, (readExpression seasons ⟨[], [], none⟩ 7 3 daysOff).outcome =
      .ok (.number (-6) line) := by
  have hasNouns : seasons.HasNouns := by
    intro category isNoun
    simp only [Category.nouns, List.mem_cons, List.not_mem_nil, or_false] at isNoun
    rcases isNoun with rfl | rfl | rfl | rfl <;> exact ⟨_, rfl⟩
  have spelled : Spells daysOff ["lovely", "summer's", "day", "day"] := rfl
  have segments : seasons.Segments ["lovely", "summer's", "day", "day"]
      ([["lovely"], ["summer's", "day"]] ++ [["day"]]) :=
    .single (by decide +kernel) (.pair (by decide +kernel) (.single (by decide +kernel) .empty))
  obtain ⟨units, last, _, unique, line, read⟩ :=
    readExpression_of_words hasNouns spelled (by simp) ⟨[], [], none⟩ 7 3
  obtain ⟨rfl, same⟩ := List.append_inj' (unique _ segments) rfl
  obtain rfl := List.singleton_inj.mp same
  have value : (3 : Int) *
      2 ^ ([["lovely"], ["summer's", "day"]].countP fun unit => (seasons.classOf unit).isNone) *
      (if seasons.classOf ["day"] = some .negativeNoun then -1
        else if seasons.classOf ["day"] = some .nothing then 0 else 1) = -6 := by decide +kernel
  rw [value] at read
  exact ⟨line, read⟩

end Playhouse

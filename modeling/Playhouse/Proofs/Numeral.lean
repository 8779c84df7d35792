/-
Module: Playhouse.Proofs.Numeral
Purpose: The value of a numeral in closed form, and the agreement of the reader
  of numerals with it.
Main exports: Vocabulary.HasNouns, Vocabulary.bundled, Vocabulary.nounOf,
  Vocabulary.units, Vocabulary.numeralValue, Spells, readNumeral_spelled, readNumeral_unspelled
-/
import Mathlib.Algebra.Group.Int.Defs
import Playhouse.Lexicon
import Playhouse.Proofs.Consultation
import Playhouse.Proofs.Coverage
import Playhouse.Script.Expression

namespace Playhouse

/-! ### Nouns -/

namespace Vocabulary

/-- A vocabulary whose lists of nouns can all be had. -/
def HasNouns (vocabulary : Vocabulary) : Prop :=
  ∀ category ∈ Category.nouns, ∃ list, vocabulary.list category = .ok list

/-- The words that come with the library. -/
def bundled : Vocabulary := (Lexicon.ofShelf .bundled).vocabulary

theorem hasNouns_bundled : bundled.HasNouns := by
  intro category isNoun
  simp only [Category.nouns, List.mem_cons, List.not_mem_nil, or_false] at isNoun
  rcases isNoun with rfl | rfl | rfl | rfl <;> exact ⟨_, rfl⟩

theorem isComplete_bundled : bundled.IsComplete := by
  intro category
  cases category <;> exact ⟨_, rfl⟩

/-- Whether a phrase is listed in a class. -/
def isListed (vocabulary : Vocabulary) (phrase : String) (category : Category) : Bool :=
  match vocabulary.list category with
  | .ok list => list.contains phrase
  | .error _ => false

/-- The class of a noun, which is the first of the four that lists it. -/
def nounOf (vocabulary : Vocabulary) (phrase : String) : Option Category :=
  Category.nouns.find? (vocabulary.isListed phrase)

/-- Looking a phrase up in lists that can be had finds the first that has it. -/
theorem outcome_categoryOf_find {vocabulary : Vocabulary} (phrase : String)
    {categories : List Category}
    (available : ∀ category ∈ categories, ∃ list, vocabulary.list category = .ok list) :
    (vocabulary.categoryOf phrase categories).outcome =
      .ok (categories.find? (vocabulary.isListed phrase)) := by
  induction categories with
  | nil => rfl
  | cons category rest inductionHypothesis =>
      obtain ⟨list, had⟩ := available category List.mem_cons_self
      have listed : vocabulary.isListed phrase category = list.contains phrase := by
        simp [isListed, had]
      have consulted : (vocabulary.consult category).outcome = .ok list := by
        simp [consult, had, Consulting.mapError_ok]
      rw [categoryOf, Consulting.outcome_bind, consulted, List.find?_cons, listed]
      cases isThere : list.contains phrase with
      | true => simp [isThere]
      | false =>
          simp only [isThere, Bool.false_eq_true, if_false]
          exact inductionHypothesis fun other member =>
            available other (List.mem_cons_of_mem _ member)

theorem outcome_categoryOf_nouns {vocabulary : Vocabulary} (hasNouns : vocabulary.HasNouns)
    (phrase : String) :
    (vocabulary.categoryOf phrase Category.nouns).outcome = .ok (vocabulary.nounOf phrase) :=
  outcome_categoryOf_find phrase hasNouns

/-! ### The value of a run of words -/

/-- The units of a run of words, cut off from the left: two words that make a
noun together, and otherwise one word. -/
def units (vocabulary : Vocabulary) : List String → List String
  | [] => []
  | [word] => [word]
  | first :: second :: rest =>
      if (vocabulary.nounOf (first ++ " " ++ second)).isSome then
        (first ++ " " ++ second) :: vocabulary.units rest
      else first :: vocabulary.units (second :: rest)

/-- The sign that a last unit gives: that of its class if it is a noun. -/
def signOf (vocabulary : Vocabulary) (unit : String) : Int :=
  ((vocabulary.nounOf unit).map nounSign).getD 1

/-- Every unit in front of the last one doubles the value unless it is a noun,
and the last one gives the sign. -/
def valueOfUnits (vocabulary : Vocabulary) (units : List String) : Int :=
  2 ^ (units.dropLast.countP fun unit => (vocabulary.nounOf unit).isNone) *
    (units.getLast?.map vocabulary.signOf).getD 1

/-- The number for which a run of words stands. -/
def numeralValue (vocabulary : Vocabulary) (words : List String) : Int :=
  vocabulary.valueOfUnits (vocabulary.units words)

theorem units_ne_nil (vocabulary : Vocabulary) (word : String) (words : List String) :
    vocabulary.units (word :: words) ≠ [] := by
  cases words with
  | nil => simp [units]
  | cons second rest =>
      rw [units]
      split <;> simp

theorem valueOfUnits_singleton (vocabulary : Vocabulary) (unit : String) :
    vocabulary.valueOfUnits [unit] = vocabulary.signOf unit := by
  simp [valueOfUnits]

theorem valueOfUnits_cons (vocabulary : Vocabulary) (unit : String) {rest : List String}
    (more : rest ≠ []) :
    vocabulary.valueOfUnits (unit :: rest) =
      (if (vocabulary.nounOf unit).isNone then 2 else 1) * vocabulary.valueOfUnits rest := by
  obtain ⟨second, others, rfl⟩ := List.exists_cons_of_ne_nil more
  rw [valueOfUnits, valueOfUnits, List.dropLast_cons_of_ne_nil more, List.countP_cons,
    List.getLast?_cons_cons]
  cases (vocabulary.nounOf unit).isNone with
  | true =>
      rw [if_pos rfl, if_pos rfl, Int.pow_succ]
      simp only [Int.mul_comm, Int.mul_left_comm]
  | false => simp

/-- A last word gives the sign of its class. -/
theorem numeralValue_singleton (vocabulary : Vocabulary) (word : String) :
    vocabulary.numeralValue [word] = vocabulary.signOf word := by
  rw [numeralValue, units, valueOfUnits_singleton]

/-- Two words that make a noun together are passed over if more follows. -/
theorem numeralValue_pair {vocabulary : Vocabulary} {first second third : String}
    {rest : List String} {category : Category}
    (isNoun : vocabulary.nounOf (first ++ " " ++ second) = some category) :
    vocabulary.numeralValue (first :: second :: third :: rest) =
      vocabulary.numeralValue (third :: rest) := by
  rw [numeralValue, units, isNoun, Option.isSome_some, if_pos rfl,
    valueOfUnits_cons _ _ (vocabulary.units_ne_nil _ _), isNoun]
  simp [numeralValue]

/-- Two last words that make a noun together give the sign of its class. -/
theorem numeralValue_lastPair {vocabulary : Vocabulary} {first second : String}
    {category : Category}
    (isNoun : vocabulary.nounOf (first ++ " " ++ second) = some category) :
    vocabulary.numeralValue [first, second] = nounSign category := by
  rw [numeralValue, units, isNoun, Option.isSome_some, if_pos rfl, units,
    valueOfUnits_singleton, signOf, isNoun]
  simp

/-- A word that makes no noun with the next one doubles what follows, unless it is
a noun itself. -/
theorem numeralValue_cons {vocabulary : Vocabulary} {first second : String}
    {rest : List String} (noPair : vocabulary.nounOf (first ++ " " ++ second) = none) :
    vocabulary.numeralValue (first :: second :: rest) =
      (if (vocabulary.nounOf first).isNone then 2 else 1) *
        vocabulary.numeralValue (second :: rest) := by
  rw [numeralValue, units, noPair, Option.isSome_none, if_neg Bool.false_ne_true,
    valueOfUnits_cons _ _ (vocabulary.units_ne_nil _ _), numeralValue]

end Vocabulary

/-! ### Runs of words among tokens -/

/-- Tokens that are free words, with the words they spell. -/
def Spells (tokens : List Token) (words : List String) : Prop :=
  tokens.map Token.kind = words.map fun word => .lexeme (.other word)

theorem spells_cons_iff {token : Token} {rest : List Token} {words : List String} :
    Spells (token :: rest) words ↔
      ∃ word others, words = word :: others ∧ token.kind = .lexeme (.other word) ∧
        Spells rest others := by
  cases words with
  | nil => simp [Spells]
  | cons word others =>
      constructor
      · intro spelled
        simp only [Spells, List.map_cons, List.cons.injEq] at spelled
        exact ⟨word, others, rfl, spelled.1, spelled.2⟩
      · rintro ⟨first, rest, same, isWord, restSpelled⟩
        cases same
        simp only [Spells, List.map_cons, List.cons.injEq]
        exact ⟨isWord, restSpelled⟩

/-- The tokens behind a first word spell the words behind it. -/
theorem Spells.tail {second : String} {line : Nat} {rest : List Token} {words : List String}
    (spelled : Spells (⟨.lexeme (.other second), line⟩ :: rest) words) :
    ∃ others, words = second :: others ∧ Spells rest others := by
  obtain ⟨word, others, rfl, isWord, restSpelled⟩ := spells_cons_iff.mp spelled
  cases isWord
  exact ⟨others, rfl, restSpelled⟩

/-- Tokens that spell more than nothing start with a word. -/
theorem Spells.head {word : String} {others : List String} {tokens : List Token}
    (spelled : Spells tokens (word :: others)) :
    ∃ line rest, tokens = ⟨.lexeme (.other word), line⟩ :: rest ∧ Spells rest others := by
  cases tokens with
  | nil => simp [Spells] at spelled
  | cons token rest =>
      obtain ⟨kind, line⟩ := token
      obtain ⟨first, words, same, isWord, restSpelled⟩ := spells_cons_iff.mp spelled
      cases same
      cases isWord
      exact ⟨line, rest, rfl, restSpelled⟩

/-! ### The reader of numerals -/

section Reader

variable {vocabulary : Vocabulary}

/-- The tokens start with no free word. -/
def NoWordFirst (tokens : List Token) : Prop :=
  ∀ word line rest, tokens ≠ ⟨.lexeme (.other word), line⟩ :: rest

/-- Two words that make a noun are passed over where a third one follows. -/
theorem outcome_readNumeral_pair (hasNouns : vocabulary.HasNouns) {word second : String}
    {category : Category} (isNoun : vocabulary.nounOf (word ++ " " ++ second) = some category)
    (third : String) (line secondLine thirdLine : Nat) (factor : Int) (afterThird : List Token) :
    (readNumeral vocabulary word line factor
        (⟨.lexeme (.other second), secondLine⟩ :: ⟨.lexeme (.other third), thirdLine⟩ ::
          afterThird)).outcome =
      (readNumeral vocabulary third thirdLine factor afterThird).outcome := by
  rw [readNumeral, Consulting.outcome_bind, Vocabulary.outcome_categoryOf_nouns hasNouns, isNoun]

/-- Two words that make a noun end a numeral where no word follows. -/
theorem outcome_readNumeral_lastPair (hasNouns : vocabulary.HasNouns) {word second : String}
    {category : Category} (isNoun : vocabulary.nounOf (word ++ " " ++ second) = some category)
    (line secondLine : Nat) (factor : Int) {remaining : List Token}
    (last : NoWordFirst remaining) :
    (readNumeral vocabulary word line factor
        (⟨.lexeme (.other second), secondLine⟩ :: remaining)).outcome =
      ((expectEnd remaining).mapError .parse).map fun _ =>
        .number (factor * nounSign category) line := by
  rw [readNumeral, Consulting.outcome_bind, Vocabulary.outcome_categoryOf_nouns hasNouns, isNoun]
  dsimp only
  split
  · exact absurd rfl (last _ _ _)
  · rw [Consulting.outcome_bind, Consulting.outcome_ofExcept]
    cases expectEnd remaining <;> rfl

/-- A word that makes no noun with the next one doubles the factor, unless it is a
noun itself. -/
theorem outcome_readNumeral_apart (hasNouns : vocabulary.HasNouns) {word second : String}
    (noPair : vocabulary.nounOf (word ++ " " ++ second) = none) (line secondLine : Nat)
    (factor : Int) (afterSecond : List Token) :
    (readNumeral vocabulary word line factor
        (⟨.lexeme (.other second), secondLine⟩ :: afterSecond)).outcome =
      (readNumeral vocabulary second secondLine
        (factor * if (vocabulary.nounOf word).isNone then 2 else 1) afterSecond).outcome := by
  rw [readNumeral, Consulting.outcome_bind, Vocabulary.outcome_categoryOf_nouns hasNouns, noPair]
  dsimp only
  rw [Consulting.outcome_bind, Vocabulary.outcome_categoryOf_nouns hasNouns]
  cases vocabulary.nounOf word <;> simp

/-- A word ends a numeral where no word follows. -/
theorem outcome_readNumeral_last (hasNouns : vocabulary.HasNouns) (word : String) (line : Nat)
    (factor : Int) {remaining : List Token} (last : NoWordFirst remaining) :
    (readNumeral vocabulary word line factor remaining).outcome =
      ((expectEnd remaining).mapError .parse).map fun _ =>
        .number (factor * vocabulary.signOf word) line := by
  rw [readNumeral]
  · rw [Consulting.outcome_bind, Vocabulary.outcome_categoryOf_nouns hasNouns]
    dsimp only
    rw [Consulting.outcome_bind, Consulting.outcome_ofExcept]
    cases expectEnd remaining <;> rfl
  · exact last

/-- A run of words is read as its value. -/
theorem readNumeral_spelled (hasNouns : vocabulary.HasNouns) {rest : List Token}
    {words : List String} (spelled : Spells rest words) (word : String) (line : Nat)
    (factor : Int) :
    ∃ lastLine, (readNumeral vocabulary word line factor rest).outcome =
      .ok (.number (factor * vocabulary.numeralValue (word :: words)) lastLine) := by
  induction word, line, factor, rest using readNumeral.induct generalizing words with
  | case1 word line factor second secondLine afterSecond afterPair afterNoun afterAdjective =>
      obtain ⟨others, rfl, othersSpelled⟩ := spelled.tail
      cases pair : vocabulary.nounOf (word ++ " " ++ second) with
      | none =>
          rw [outcome_readNumeral_apart hasNouns pair, Vocabulary.numeralValue_cons pair,
            ← Int.mul_assoc]
          split
          · exact afterAdjective othersSpelled
          · simpa using afterNoun othersSpelled
      | some category =>
          cases others with
          | nil =>
              obtain rfl : afterSecond = [] := by simpa [Spells] using othersSpelled
              rw [outcome_readNumeral_lastPair hasNouns pair _ _ _ (by simp [NoWordFirst]),
                Vocabulary.numeralValue_lastPair pair]
              exact ⟨line, rfl⟩
          | cons third remainder =>
              obtain ⟨thirdLine, afterThird, rfl, remainderSpelled⟩ := othersSpelled.head
              rw [outcome_readNumeral_pair hasNouns pair, Vocabulary.numeralValue_pair pair]
              exact afterPair remainderSpelled
  | case2 word line factor remaining last =>
      -- Nothing but the empty run spells words without starting with one.
      cases words with
      | cons second others =>
          obtain ⟨secondLine, afterSecond, startsWithWord, _⟩ := spelled.head
          exact absurd startsWithWord (last second secondLine afterSecond)
      | nil =>
          obtain rfl : remaining = [] := by simpa [Spells] using spelled
          rw [outcome_readNumeral_last hasNouns _ _ _ last, Vocabulary.numeralValue_singleton]
          exact ⟨line, rfl⟩

/-- Tokens that spell nothing are not at an end. -/
theorem expectEnd_of_unspelled {tokens : List Token} (unspelled : ∀ words, ¬ Spells tokens words) :
    ∃ token : Token,
      expectEnd tokens = .error ⟨.unexpectedInExpression token.kind, token.line⟩ := by
  cases tokens with
  | nil => exact absurd rfl (unspelled [])
  | cons token rest => exact ⟨token, rfl⟩

/-- Words with something else behind them are refused. -/
theorem readNumeral_unspelled (hasNouns : vocabulary.HasNouns) {rest : List Token}
    (unspelled : ∀ words, ¬ Spells rest words) (word : String) (line : Nat) (factor : Int) :
    ∃ token : Token, (readNumeral vocabulary word line factor rest).outcome =
      .error (.parse ⟨.unexpectedInExpression token.kind, token.line⟩) := by
  induction word, line, factor, rest using readNumeral.induct with
  | case1 word line factor second secondLine afterSecond afterPair afterNoun afterAdjective =>
      have restUnspelled : ∀ words, ¬ Spells afterSecond words := fun words spelled =>
        unspelled (second :: words) (spells_cons_iff.mpr ⟨second, words, rfl, rfl, spelled⟩)
      cases pair : vocabulary.nounOf (word ++ " " ++ second) with
      | none =>
          rw [outcome_readNumeral_apart hasNouns pair]
          split
          · exact afterAdjective restUnspelled
          · simpa using afterNoun restUnspelled
      | some category =>
          split at afterPair
          · rename_i third thirdLine afterThird
            rw [outcome_readNumeral_pair hasNouns pair]
            refine afterPair fun words spelled => restUnspelled (third :: words) ?_
            exact spells_cons_iff.mpr ⟨third, words, rfl, rfl, spelled⟩
          · rename_i last
            obtain ⟨token, refused⟩ := expectEnd_of_unspelled restUnspelled
            rw [outcome_readNumeral_lastPair hasNouns pair _ _ _ last, refused]
            exact ⟨token, rfl⟩
  | case2 word line factor remaining last =>
      obtain ⟨token, refused⟩ := expectEnd_of_unspelled unspelled
      rw [outcome_readNumeral_last hasNouns _ _ _ last, refused]
      exact ⟨token, rfl⟩

end Reader

end Playhouse

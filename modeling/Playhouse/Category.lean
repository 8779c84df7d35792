/-
Module: Playhouse.Category
Purpose: The word classes of the language.
Main exports: Category, Category.all, Category.stem, Category.ofStem?, Category.nouns
-/

namespace Playhouse

/-- The word classes.  Every class has its own list of surface words. -/
inductive Category where
  | article
  | be
  | character
  | firstPerson
  | firstPersonPossessive
  | firstPersonReflexive
  | negativeAdjective
  | negativeComparative
  | negativeNoun
  | neutralAdjective
  | neutralNoun
  | nothing
  | positiveAdjective
  | positiveComparative
  | positiveNoun
  | secondPerson
  | secondPersonPossessive
  | secondPersonReflexive
  | thirdPersonPossessive
deriving Repr, Inhabited, DecidableEq

namespace Category

/-- All word classes in the order in which a listing shows them. -/
def all : List Category :=
  [article, be, character, firstPerson, firstPersonPossessive, firstPersonReflexive,
    negativeAdjective, negativeComparative, negativeNoun, neutralAdjective, neutralNoun,
    nothing, positiveAdjective, positiveComparative, positiveNoun, secondPerson,
    secondPersonPossessive, secondPersonReflexive, thirdPersonPossessive]

/-- The name of a word class, which is also the stem of its file name. -/
def stem : Category → String
  | article => "article"
  | be => "be"
  | character => "character"
  | firstPerson => "first_person"
  | firstPersonPossessive => "first_person_possessive"
  | firstPersonReflexive => "first_person_reflexive"
  | negativeAdjective => "negative_adjective"
  | negativeComparative => "negative_comparative"
  | negativeNoun => "negative_noun"
  | neutralAdjective => "neutral_adjective"
  | neutralNoun => "neutral_noun"
  | nothing => "nothing"
  | positiveAdjective => "positive_adjective"
  | positiveComparative => "positive_comparative"
  | positiveNoun => "positive_noun"
  | secondPerson => "second_person"
  | secondPersonPossessive => "second_person_possessive"
  | secondPersonReflexive => "second_person_reflexive"
  | thirdPersonPossessive => "third_person_possessive"

/-- The word class of a given name. -/
def ofStem? (name : String) : Option Category :=
  all.find? fun category => category.stem == name

/-- The word classes that end a numeral, in the order in which a word is looked
up in them. -/
def nouns : List Category :=
  [positiveNoun, neutralNoun, negativeNoun, nothing]

/-- Every word class is listed. -/
theorem mem_all (category : Category) : category ∈ all := by
  cases category <;> decide

/-- A word class is found under its own name. -/
theorem ofStem?_stem (category : Category) : ofStem? category.stem = some category := by
  cases category <;> decide

end Category

end Playhouse

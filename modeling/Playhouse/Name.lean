/-
Module: Playhouse.Name
Purpose: Names of characters: their normal form, and sets of them.
Main exports: normalizeName, NameSet, NameSet.insert, NameSet.ofList, NameSet.union,
  NameSet.without
-/
import Playhouse.Text.Blank
import Playhouse.Text.LetterCase

namespace Playhouse

open Text

/-- The normal form of a name: its words capitalised, with one space between
neighbours. -/
def normalizeName (raw : List Char) : String :=
  String.ofList (title (joinedWords raw))

/-- A set of names, kept in increasing order without repetition. -/
abbrev NameSet := List String

namespace NameSet

/-- Add a name in its place. -/
def insert (name : String) : NameSet → NameSet
  | [] => [name]
  | other :: rest =>
      if name < other then name :: other :: rest
      else if name = other then other :: rest
      else other :: insert name rest

/-- The set of the names in a list. -/
def ofList (names : List String) : NameSet :=
  names.foldr insert []

/-- The names in either set. -/
def union (first second : NameSet) : NameSet :=
  second.foldr insert first

/-- The names of the first set that are not in the second. -/
def without (first second : NameSet) : NameSet :=
  first.filter fun name => !second.contains name

end NameSet

end Playhouse

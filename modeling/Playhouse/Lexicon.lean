/-
Module: Playhouse.Lexicon
Purpose: Word lists fetched on demand and kept, with the patterns written from
  them.
Main exports:
  Category.placeholder, Compiled, Lexicon, Lexicon.Consult, Lexicon.list, Lexicon.contains,
  Lexicon.categoryOf, Lexicon.expression, Lexicon.expand, Lexicon.readOnce,
  Lexicon.readTemplate, Lexicon.compile, Lexicon.find, Lexicon.describe, Lexicon.vocabulary,
  Lexicon.keep
-/
import Playhouse.Ledger
import Playhouse.Lexicon.PatternReader
import Playhouse.Lexicon.Shelf

namespace Playhouse

open Text

/-- The name of a class in angle brackets. -/
def Category.placeholder (category : Category) : String :=
  "<" ++ category.stem ++ ">"

/-- A written pattern with its flags, and what it was read as. -/
structure Compiled where
  text : String
  flags : Flags
  matcher : Matcher

/-- A shelf and a reader of patterns, together with everything that has been taken from the
shelf and read so far. -/
structure Lexicon where
  shelf : Shelf
  reader : PatternReader
  /-- The words of the classes fetched so far, in the order of fetching. -/
  loaded : Ledger Category (List String)
  /-- The same words in lower case. -/
  folded : Ledger Category (List String)
  /-- The patterns of the templates asked for so far, each with its flags. -/
  templates : List ((String × Flags) × Compiled)
  /-- The different written patterns read so far, each with its flags. -/
  patterns : List ((String × Flags) × Matcher)

namespace Lexicon

/-- A lexicon from which nothing has been taken yet. -/
def ofShelf (shelf : Shelf) (reader : PatternReader := .standard) : Lexicon :=
  ⟨shelf, reader, [], [], [], []⟩

/-- A lexicon as it was before anything was taken from it. -/
def fresh (lexicon : Lexicon) : Lexicon :=
  ofShelf lexicon.shelf lexicon.reader

/-- A use of the lexicon.  What was fetched before a failure stays fetched. -/
abbrev Consult := ExceptT LexiconFault (StateM Lexicon)

/-! ### Words -/

/-- The list of a class as it would be found now, kept or on the shelf. -/
def read (lexicon : Lexicon) (category : Category) : Except LexiconFault WordList :=
  match lexicon.loaded.get? category with
  | some words => .ok ⟨words, (lexicon.folded.get? category).getD []⟩
  | none => lexicon.shelf.load category

/-- The lexicon after a list has been asked for: a list that could be fetched is
kept from then on. -/
def keep (lexicon : Lexicon) (category : Category) : Lexicon :=
  match lexicon.loaded.get? category with
  | some _ => lexicon
  | none =>
      match lexicon.shelf.load category with
      | .ok list =>
          { lexicon with
            loaded := lexicon.loaded.put category list.words
            folded := lexicon.folded.put category list.folded }
      | .error _ => lexicon

/-- Keeping a list changes no answer. -/
theorem read_keep (lexicon : Lexicon) (category other : Category) :
    (lexicon.keep category).read other = lexicon.read other := by
  unfold keep
  split
  · rfl
  · rename_i absent
    split
    · rename_i list fetched
      unfold read
      simp only [Ledger.get?_put]
      by_cases same : category = other
      · subst same
        simp [absent, fetched]
      · simp [same]
    · rfl

/-- The list of a class, fetched at most once. -/
def list (category : Category) : Consult WordList := do
  let lexicon ← get
  set (lexicon.keep category)
  match lexicon.read category with
  | .ok list => pure list
  | .error fault => throw fault

/-- Whether a word belongs to a class. -/
def contains (category : Category) (word : String) : Consult Bool := do
  let list ← list category
  pure (list.contains word)

/-- The first of some classes to which a word belongs. -/
def categoryOf (word : String) : List Category → Consult (Option Category)
  | [] => pure none
  | category :: rest => do
      if ← contains category word then pure (some category)
      else categoryOf word rest

/-! ### Written patterns -/

/-- The written pattern of a class. -/
def expression (category : Category) (edges : Bool) : Consult String := do
  let list ← list category
  pure (list.expression edges)

/-- The name in angle brackets at the start of a text, with the text after it. -/
def placeholder? (text : List Char) : Option (String × List Char) :=
  match text with
  | '<' :: rest =>
      let name := rest.takeWhile isWordCharacter
      match rest.dropWhile isWordCharacter with
      | '>' :: after => if name.isEmpty then none else some (String.ofList name, after)
      | _ => none
  | _ => none

/-- Write the patterns of classes in place of their names in angle brackets,
from left to right.  `skip` counts characters of a name already replaced. -/
def expandFrom (skip : Nat) : List Char → Consult (List Char)
  | [] => pure []
  | c :: rest =>
      match skip with
      | skip + 1 => expandFrom skip rest
      | 0 =>
          match placeholder? (c :: rest) with
          | some (name, after) =>
              match Category.ofStem? name with
              | none => throw (.unknownCategory name)
              | some category => do
                  let written ← expression category true
                  let remainder ← expandFrom (rest.length - after.length) rest
                  pure (written.toList ++ remainder)
          | none => do
              let remainder ← expandFrom 0 rest
              pure (c :: remainder)

/-- A template with the patterns of classes written into it. -/
def expand (template : String) : Consult String := do
  let written ← expandFrom 0 template.toList
  pure (String.ofList written)

/-- A lexicon with one more pattern that was read. -/
def withPattern (text : String) (flags : Flags) (matcher : Matcher) (lexicon : Lexicon) :
    Lexicon :=
  { lexicon with patterns := lexicon.patterns ++ [((text, flags), matcher)] }

/-- A lexicon with one more template and its pattern. -/
def withTemplate (template : String) (flags : Flags) (compiled : Compiled) (lexicon : Lexicon) :
    Lexicon :=
  { lexicon with templates := lexicon.templates ++ [((template, flags), compiled)] }

/-- Read a written pattern, once for each choice of flags.  A pattern that is not well
written is not kept. -/
def readOnce (text : String) (flags : Flags) : Consult Compiled := do
  let lexicon ← get
  match lexicon.patterns.lookup (text, flags) with
  | some matcher => pure ⟨text, flags, matcher⟩
  | none =>
      match lexicon.reader.read text flags with
      | .error breakdown => throw (.badPattern breakdown)
      | .ok matcher => do
          modify (withPattern text flags matcher)
          pure ⟨text, flags, matcher⟩

/-- Expand a template and read what comes of it. -/
def readTemplate (template : String) (flags : Flags) : Consult Compiled := do
  let written ← expand template
  readOnce written flags

/-- The pattern of a template.  Each template is expanded once for each choice of flags, and
different templates with one expansion share a pattern. -/
def compile (template : String) (flags : Flags) : Consult Compiled := do
  let lexicon ← get
  match lexicon.templates.lookup (template, flags) with
  | some compiled => pure compiled
  | none => do
      let compiled ← readTemplate template flags
      modify (withTemplate template flags compiled)
      pure compiled

/-- The word of a class that stands at a position of a text. -/
def find (category : Category) (caseless : Bool) (text : String) (position : Nat) :
    Consult (Option String) := do
  let _ ← compile category.placeholder caseless
  let list ← list category
  let characters := text.toList
  let found :=
    (list.pattern caseless).match? (characters.take position).getLast? (characters.drop position)
  pure (found.map fun found => String.ofList found.text)

/-! ### Overviews -/

/-- A text filled up with spaces on its right. -/
def padRight (width : Nat) (text : String) : String :=
  text ++ String.ofList (List.replicate (width - text.length) ' ')

/-- One line of the overview: a class with its first six words and the number of
the others. -/
def describeList (width : Nat) (category : Category) (words : List String) : String :=
  let preview := ", ".intercalate (words.take 6)
  let others :=
    if 6 < words.length then ", … (+" ++ toString (words.length - 6) ++ ")" else ""
  "  " ++ padRight width category.stem ++ "  " ++ preview ++ others

/-- The overview of some classes, one line each. -/
def describeAll (width : Nat) : List Category → Consult (List String)
  | [] => pure []
  | category :: rest => do
      let list ← list category
      let others ← describeAll width rest
      pure (describeList width category list.words :: others)

/-- The overview of all classes. -/
def describe : Consult String := do
  let width := (Category.all.map fun category => category.stem.length).foldl max 0
  let lines ← describeAll width Category.all
  pure ("\n".intercalate lines)

/-- The number of words in some classes. -/
def countWords : List Category → Consult Nat
  | [] => pure 0
  | category :: rest => do
      let list ← list category
      let others ← countWords rest
      pure (list.words.length + others)

/-- What the lexicon would answer now, for every class. -/
def vocabulary (lexicon : Lexicon) : Vocabulary :=
  ⟨Category.all.map fun category => (category, lexicon.read category)⟩

/-- Keeping a list does not change the vocabulary. -/
theorem vocabulary_keep (lexicon : Lexicon) (category : Category) :
    (lexicon.keep category).vocabulary = lexicon.vocabulary := by
  simp only [vocabulary, read_keep]

end Lexicon

end Playhouse

/-
Module: Playhouse.Desk
Purpose: Working on sources with a lexicon that keeps what it fetches, and with
  a journal of the work.
Main exports: Desk, Desk.fetch, Desk.tokenize, Desk.readTokens, Desk.readSource
-/
import Playhouse.Journal
import Playhouse.Lexicon
import Playhouse.Play

namespace Playhouse

/-!
The vocabulary that a source is read with is fixed when the work begins: it is
what the lexicon has and what its shelf would give.  Afterwards the lists that
were really asked for are kept, in the order of asking.  A source that fails
leaves nothing behind but such lists.
-/

/-- A lexicon in use and the journal so far, last entry first. -/
structure Desk where
  lexicon : Lexicon
  journal : List Entry

namespace Desk

/-- A desk with an empty journal and nothing fetched. -/
def ofShelf (shelf : Shelf) : Desk :=
  ⟨Lexicon.ofShelf shelf, []⟩

/-- Write an entry down. -/
def note (entry : Entry) (desk : Desk) : Desk :=
  { desk with journal := entry :: desk.journal }

/-- Ask for the list of a class.  It is written down when it is fetched for the
first time. -/
def fetch (desk : Desk) (category : Category) : Desk :=
  match desk.lexicon.loaded.get? category with
  | some _ => desk
  | none =>
      let after := desk.lexicon.keep category
      match after.loaded.get? category with
      | some words => ⟨after, .loaded category words.length :: desk.journal⟩
      | none => ⟨after, desk.journal⟩

/-- Ask for the lists of some classes in order. -/
def fetchAll (desk : Desk) (categories : List Category) : Desk :=
  categories.foldl fetch desk

/-- Asking at a desk has the same effect on the lexicon as asking the lexicon. -/
theorem fetch_lexicon (desk : Desk) (category : Category) :
    (desk.fetch category).lexicon = desk.lexicon.keep category := by
  unfold fetch
  split
  · simp_all [Lexicon.keep]
  · dsimp only
    split <;> rfl

/-- Cut a source into tokens. -/
def tokenize (desk : Desk) (source : String) : Except LexiconFault (List Token) × Desk :=
  let characters := source.toList
  let scan := scan Rule.table desk.lexicon.vocabulary characters
  let after := desk.fetchAll (scan.consulted Rule.table)
  match scan.tokens with
  | .error fault => (.error fault, after)
  | .ok tokens => (.ok tokens, after.note (.tokenized characters.length tokens.length))

/-- Note one completed part of a reading. -/
def followBeat (desk : Desk) (beat : Beat) : Desk :=
  let after := desk.fetchAll beat.consulted
  match beat.transition with
  | some transition => after.note (.turned transition)
  | none => after

/-- Note a reading from its first part to its last or to its failure. -/
def followCourse (desk : Desk) (tokens : List Token) (course : Course) : Desk :=
  let after := course.beats.foldl followBeat desk
  match course.failure with
  | some (_, consulted) => after.fetchAll consulted
  | none => after.note (.parsed tokens.length course.statements.length)

/-- Understand a play from its tokens. -/
def readTokens (desk : Desk) (tokens : List Token) :
    Except ReadFault (List Statement) × Desk :=
  let course :=
    (Reading.ofTokens tokens).course NextStates.standard desk.lexicon.vocabulary
  (course.outcome, desk.followCourse tokens course)

/-- Understand the source of a play. -/
def readSource (desk : Desk) (source : String) : Except ReadFault (List Statement) × Desk :=
  match desk.tokenize source with
  | (.error fault, after) => (.error (.lexicon fault), after)
  | (.ok tokens, after) => after.readTokens tokens

/-- Ask the lexicon itself, and note the lists that were fetched on the way. -/
def consult {α : Type} (desk : Desk) (question : Lexicon.Consult α) :
    Except LexiconFault α × Desk :=
  match question.run.run desk.lexicon with
  | (answer, lexicon) =>
      let fetched := lexicon.loaded.drop desk.lexicon.loaded.length
      let entries := fetched.map fun entry => Entry.loaded entry.1 entry.2.length
      (answer, ⟨lexicon, entries.reverse ++ desk.journal⟩)

end Desk

end Playhouse

/-
Module: Playhouse.Lexicon.Shelf
Purpose: Where word lists are kept, and what may go wrong in fetching one.
Main exports: Absence, LexiconFault, LexiconFault.breakdown?, LexiconFault.message, Shelf,
  Shelf.load, Vocabulary
-/
import Playhouse.Breakdown
import Playhouse.Category
import Playhouse.Lexicon.Bundled
import Playhouse.Lexicon.WordList
import Playhouse.Text.Quoted

namespace Playhouse

open Text

/-- Why there is no text in the place of a word list. -/
inductive Absence where
  | noSuchFile
  | notADirectory
  /-- The system does not open the file, for a reason in its own words. -/
  | unopened (reason : String)
  /-- The path of the file holds the character that ends every path. -/
  | cutPath
  /-- The bytes of the file are no text. -/
  | undecodable (complaint : String)
deriving Repr, Inhabited, DecidableEq

/-- What is no failure of the system to open a file. -/
def Absence.breakdown? : Absence → Option Breakdown
  | noSuchFile | notADirectory | unopened _ => none
  | cutPath => some (.badValue "embedded null byte")
  | undecodable complaint => some (.undecodable complaint)

/-- The words for a missing text. -/
def Absence.message : Absence → String
  | noSuchFile => "[Errno 2] No such file or directory"
  | notADirectory => "[Errno 20] Not a directory"
  | unopened reason => reason
  | cutPath => "embedded null byte"
  | undecodable complaint => complaint

/-- Failures of the lexicon. -/
inductive LexiconFault where
  /-- The list of a class cannot be had from the directory. -/
  | unreadable (directory : String) (category : Category) (absence : Absence)
  /-- A pattern asks for a class that does not exist. -/
  | unknownCategory (name : String)
  /-- A pattern is not well written, or its flags do not go together. -/
  | badPattern (breakdown : Breakdown)
deriving Repr, Inhabited, DecidableEq

/-- The name of a class's file. -/
def Category.fileName (category : Category) : String :=
  category.stem ++ ".wordlist"

/-- A file's path inside a directory; a separator is added unless the directory
already ends in one. -/
def pathIn (directory file : String) : String :=
  if directory.endsWith "/" then directory ++ file else directory ++ "/" ++ file

/-- A string in quotation marks. -/
def quote (text : String) : String :=
  String.ofList (quoted text.toList)

/-- The failure from elsewhere that a lexicon failure is, if it is one.  A file that the
system does not open is reported, and anything else that goes wrong in reading it is
not. -/
def LexiconFault.breakdown? : LexiconFault → Option Breakdown
  | unreadable _ _ absence => absence.breakdown?
  | unknownCategory _ => none
  | badPattern breakdown => some breakdown

/-- The kind of a lexicon failure. -/
def LexiconFault.kind (fault : LexiconFault) : String :=
  (fault.breakdown?.map Breakdown.kind).getD "LexiconError"

/-- The wording of a lexicon failure. -/
def LexiconFault.message : LexiconFault → String
  | unreadable directory category absence =>
      match absence.breakdown? with
      | some breakdown => breakdown.message
      | none =>
          "Cannot load word list '" ++ category.fileName ++ "': " ++ absence.message ++ ": " ++
            quote (pathIn directory category.fileName)
  | unknownCategory name => "Unknown word category: " ++ quote name
  | badPattern breakdown => breakdown.message

/-- A place that keeps word lists: the library itself, or a directory with one
file for every class. -/
inductive Shelf where
  | bundled
  | directory (name : String) (file : Category → Except Absence String)

/-- The text in the place of a word list.  No file is looked for in a directory whose name
holds the character that ends every path. -/
def textIn (directory : String) (file : Except Absence String) : Except Absence String :=
  if directory.toList.contains (Char.ofNat 0) then .error .cutPath else file

/-- Fetch the list of a class. -/
def Shelf.load : Shelf → Category → Except LexiconFault WordList
  | bundled, category => .ok (WordList.ofWords (bundledWords category))
  | directory name file, category =>
      match textIn name (file category) with
      | .ok text => .ok (WordList.ofText text)
      | .error absence => .error (.unreadable name category absence)

/-- What is known of every class at one moment: its words, or why they cannot be
had. -/
structure Vocabulary where
  lists : List (Category × Except LexiconFault WordList)

/-- The words of a class.  A class that is not mentioned has no words. -/
def Vocabulary.list (vocabulary : Vocabulary) (category : Category) :
    Except LexiconFault WordList :=
  match vocabulary.lists.lookup category with
  | some list => list
  | none => .ok (WordList.ofWords [])

end Playhouse

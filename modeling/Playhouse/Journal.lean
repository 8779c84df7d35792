/-
Module: Playhouse.Journal
Purpose: What is written down, on request, about the work on a play.
Main exports: Entry, Entry.text
-/
import Playhouse.Performance.House
import Playhouse.Script.Reading

namespace Playhouse

open Text

/-- One thing that happened. -/
inductive Entry where
  /-- A word list was fetched. -/
  | loaded (category : Category) (words : Nat)
  /-- A source was cut into tokens. -/
  | tokenized (characters tokens : Nat)
  /-- A token opened a new part of the play. -/
  | turned (transition : Reading.Transition)
  /-- A play was understood. -/
  | parsed (tokens statements : Nat)
  /-- The scenes of a play were found. -/
  | located (labels : Labels)
  /-- The performance jumped to a scene. -/
  | jumped (line : Nat) (tag : String) (position : Nat)
  /-- The performance came to its end. -/
  | finished (steps : Nat)
deriving Repr, Inhabited

namespace Entry

/-- Which stage of the work an entry belongs to. -/
def stage : Entry → String
  | loaded _ _ => "lexicon"
  | tokenized _ _ => "lexer"
  | turned _ | parsed _ _ => "parser"
  | located _ | jumped _ _ _ | finished _ => "simulator"

/-- Where the scenes of a play begin, in words. -/
def labelsText (labels : Labels) : String :=
  let pair (label : String × Nat) : String := quote label.1 ++ ": " ++ toString label.2
  "\x7b" ++ ", ".intercalate (labels.map pair) ++ "\x7d"

/-- What an entry tells. -/
def message : Entry → String
  | loaded category words => "Loaded " ++ toString words ++ " words for " ++ category.stem
  | tokenized characters tokens =>
      "Tokenized " ++ toString characters ++ " characters into " ++ toString tokens ++ " tokens"
  | turned transition =>
      "L" ++ toString transition.token.line ++ ": " ++ transition.source.label ++ " -> " ++
        transition.target.label ++ " on " ++ transition.token.kind.transcript
  | parsed tokens statements =>
      "Parsed " ++ toString tokens ++ " tokens into " ++ toString statements ++ " nodes"
  | located labels => "Resolved labels: " ++ labelsText labels
  | jumped line tag position =>
      "L" ++ toString line ++ ": jump to " ++ tag ++ " (node " ++ toString position ++ ")"
  | finished steps => "Run finished after " ++ toString steps ++ " steps"

/-- An entry as one line. -/
def text (entry : Entry) : String :=
  "DEBUG shakespeare." ++ entry.stage ++ ": " ++ entry.message

end Entry

end Playhouse

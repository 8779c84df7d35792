/-
Module: Playhouse.Play
Purpose: From the source of a play to its statements and its performance.
Main exports: readSource, readingFailure, runSource, Success
-/
import Playhouse.Diagnostic
import Playhouse.Performance.Run
import Playhouse.Script.Course
import Playhouse.Token.Scan

namespace Playhouse

open Text

/-- Understand the source of a play. -/
def readSource (vocabulary : Vocabulary) (source : String) : Except ReadFault (List Statement) :=
  match tokenize vocabulary source with
  | .error fault => .error (.lexicon fault)
  | .ok tokens => readTokens vocabulary tokens

/-- What a successful run gives. -/
structure Success where
  output : CodePoints
  store : Store
  steps : Nat
deriving Repr, Inhabited

/-- The success or failure of an ending. -/
def Ending.result {σ : Type} (ending : Ending σ) : Except Failure Success :=
  match ending.outcome with
  | .ok () => .ok ⟨ending.house.output, ending.house.store, ending.house.steps⟩
  | .error mishap => .error mishap.failure

/-- Understand a play and perform it with prepared input.  There is no result if
patience runs out. -/
def runSource (vocabulary : Vocabulary) (patience : Nat) (limit : Option Int)
    (prompter : Prompter) (source : String) : Option (Except Failure Success) :=
  match readSource vocabulary source with
  | .error fault => some (.error fault.failure)
  | .ok statements =>
      let production := Production.ofStatements Prompter.provider limit statements
      (production.run patience prompter).map Ending.result

end Playhouse

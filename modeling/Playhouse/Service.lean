/-
Module: Playhouse.Service
Purpose: Answering requests about plays, one after the other, with one lexicon
  for all of them.
Main exports: Request, Reply, Response, Service, Service.ofSettings, Service.respond,
  Service.respondAll
-/
import Playhouse.Desk
import Playhouse.Node.Transcript
import Playhouse.Performance.Limit
import Playhouse.Review
import Playhouse.Settings

namespace Playhouse

/-- The version of this program. -/
def version : String := "0.1.0"

/-! ### Requests and responses -/

/-- What may be asked of the service. -/
inductive Request where
  | health
  | tokenize (source : String)
  | parse (source : String)
  | verify (source : String)
  /-- Perform a play with prepared input and perhaps a limit on its steps. -/
  | run (source : String) (prompter : Prompter) (limit : Option Int)
deriving Repr, Inhabited, DecidableEq

/-- A statement as it is shown: its transcript, the name of its sort and its
line. -/
structure Exhibit where
  text : String
  label : String
  line : Nat
deriving Repr, Inhabited, DecidableEq

/-- The content of a good answer. -/
inductive Reply where
  /-- All is well, and so many words are known. -/
  | healthy (words : Nat)
  | tokens (tokens : List Token)
  | statements (exhibits : List Exhibit)
  | remarks (remarks : List Remark)
  | performed (success : Success)
deriving Repr, Inhabited

/-- An answer: a good one, the report of what is wrong with the play or its
input, or a failure that the service did not expect. -/
inductive Response where
  | done (reply : Reply)
  | rejected (diagnostic : Diagnostic)
  | broken (failure : Failure)
deriving Repr, Inhabited

/-- The status code of an answer. -/
def Response.status : Response → Nat
  | done _ => 200
  | rejected _ => 422
  | broken _ => 500

/-- The answer to a request that may fail.  Reported faults are the asker's;
others are unexpected. -/
def Response.ofResult {α : Type} (reply : α → Reply) : Except Failure α → Response
  | .ok value => done (reply value)
  | .error (.diagnosed diagnostic) => rejected diagnostic
  | .error failure => broken failure

/-! ### Single requests -/

/-- Show the statements of a play. -/
def exhibit (statements : List Statement) : Except Failure (List Exhibit) :=
  statements.mapM fun statement =>
    match statement.transcript with
    | .ok text => .ok ⟨text, statement.action.label, statement.line⟩
    | .error _ => .error .digitLimit

/-- Perform the statements of a play with prepared input and a limit. -/
def performWithin (limit : Int) (prompter : Prompter) (statements : List Statement) :
    Except Failure Success :=
  ((Production.ofStatements Prompter.provider (some limit) statements).runWithin limit rfl
    prompter).result

/-- The limit of a performance that is asked for with a limit of its own, or
without one, where another limit holds for everybody. -/
def effectiveLimit (asked : Option Int) (everybody : Int) : Int :=
  min (asked.getD everybody) everybody

/-- Understand a play, and go on with its statements if that succeeds. -/
def withStatements {α : Type} (desk : Desk) (source : String)
    (use : List Statement → Except Failure α) : Except Failure α × Desk :=
  match desk.readSource source with
  | (.error fault, after) => (.error fault.failure, after)
  | (.ok statements, after) => (use statements, after)

/-- Answer one request at a desk, where no performance may take more steps than
the limit allows. -/
def Request.answer (limit : Int) (desk : Desk) : Request → Response × Desk
  | health =>
      match desk.consult (Lexicon.countWords Category.all) with
      | (.ok words, after) => (.done (.healthy words), after)
      | (.error fault, after) => (.broken fault.failure, after)
  | tokenize source =>
      let (result, after) := desk.tokenize source
      (.ofResult .tokens (result.mapError LexiconFault.failure), after)
  | parse source =>
      let (result, after) := withStatements desk source exhibit
      (.ofResult .statements result, after)
  | verify source =>
      let (result, after) := withStatements desk source fun statements => .ok (review statements)
      (.ofResult .remarks result, after)
  | run source prompter asked =>
      let (result, after) :=
        withStatements desk source (performWithin (effectiveLimit asked limit) prompter)
      (.ofResult .performed result, after)

/-! ### The service -/

/-- The greatest number of steps of a performance where no setting says
otherwise. -/
def standardLimit : Int := 1000000

/-- A service: its settings, with a limit on every performance, and the lexicon
that all requests share. -/
structure Service where
  settings : Settings
  limit : Int
  lexicon : Lexicon

/-- The word lists that settings point to, where `directory` looks up the files
of directories. -/
def Settings.shelf (settings : Settings)
    (directory : String → Category → Except Absence String) : Shelf :=
  match nonEmpty settings.wordLists with
  | some name => .directory name (directory name)
  | none => .bundled

namespace Service

/-- A service with the given settings that has not answered anything yet. -/
def ofSettings (settings : Settings) (directory : String → Category → Except Absence String) :
    Service :=
  ⟨settings, settings.stepLimit.getD standardLimit, Lexicon.ofShelf (settings.shelf directory)⟩

/-- Answer a request.  All that is left of it is the lists that were fetched. -/
def respond (service : Service) (request : Request) : Response × Service :=
  let (response, desk) := request.answer service.limit ⟨service.lexicon, []⟩
  (response, { service with lexicon := desk.lexicon })

/-- Answer requests in order. -/
def respondAll (service : Service) : List Request → List Response
  | [] => []
  | request :: rest =>
      let (response, after) := service.respond request
      response :: after.respondAll rest

end Service

end Playhouse

/-
Module: Playhouse.CommandLine.Session
Purpose: What the commands do and what they print.
Main exports: FileState, World, Hosting, Conclusion, Report, Report.ofEnding, World.perform,
  Order.carryOut, session
-/
import Playhouse.CommandLine.Invocation
import Playhouse.Service

namespace Playhouse.CommandLine

open Text

/-! ### The surroundings -/

/-- What stands at a path: a text, a directory, nothing, or a file from which no text can
be had. -/
inductive FileState where
  | text (content : String)
  | directory
  | missing
  | broken (breakdown : Breakdown)
deriving Repr, Inhabited, DecidableEq

/-- All that a session sees of its surroundings. -/
structure World where
  environment : Environment
  file : String → FileState
  /-- The files of word lists in directories. -/
  directory : String → Category → Except Absence String
  /-- The characters that a play may read. -/
  input : List Char
  /-- Whether the stream for the output has a code for a character. -/
  encodes : Nat → Bool := fun _ => true

/-! ### Reports -/

/-- How a session ends: with an exit code, or with a failure that nobody deals
with. -/
inductive Conclusion where
  | code (code : Nat)
  | failure (failure : Failure)
deriving Repr, Inhabited, DecidableEq

/-- A service that is to be started: its address, the level of its log and the
limit on its performances, unless that is left blank. -/
structure Hosting where
  host : String
  portNumber : Int
  logLevel : String
  limit : Option Int
deriving Repr, Inhabited, DecidableEq

/-- The result of a session: its output, the messages printed beside it, its end,
and the service to start. -/
structure Report where
  output : CodePoints
  messages : String
  conclusion : Conclusion
  hosting : Option Hosting := none
deriving Repr, Inhabited

/-- Nothing but an exit code. -/
def Report.ofCode (code : Nat) : Report :=
  ⟨[], "", .code code, none⟩

/-- A report with a text as its output. -/
def Report.printing (text : String) (code : Nat) : Report :=
  { Report.ofCode code with output := CodePoints.ofString text }

/-- A report with a complaint as its only message. -/
def Report.complaining (text : String) (code : Nat) : Report :=
  { Report.ofCode code with messages := text }

/-- Put messages in front of those of a report. -/
def Report.after (messages : String) (report : Report) : Report :=
  { report with messages := messages ++ report.messages }

/-- Text as lines. -/
def asLines (lines : List String) : String :=
  String.join (lines.map fun line => line ++ "\n")

/-- The report of a fault of the play or its input. -/
def Report.diagnosing (diagnostic : Diagnostic) : Report :=
  .complaining ("⚠ " ++ diagnostic.kind ++ ": " ++ diagnostic.text ++ "\n") 1

/-- The report of a failure, after some output. -/
def Report.failing (output : CodePoints) : Failure → Report
  | .diagnosed diagnostic => { Report.diagnosing diagnostic with output := output }
  | failure => ⟨output, "", .failure failure, none⟩

/-- The report of a performance that has come to an ending. -/
def Report.ofEnding {σ : Type} (ending : Ending σ) : Report :=
  match ending.result with
  | .ok success => { Report.ofCode 0 with output := success.output }
  | .error failure => .failing ending.house.output failure

/-! ### The journal -/

/-- The lines of a journal, whose last entry comes first, if the settings ask for
it. -/
def journalText (settings : Settings) (journal : List Entry) : String :=
  if showsDetails settings.logLevel then asLines (journal.reverse.map Entry.text) else ""

/-- The entry that a statement leads to when it jumps. -/
def entryOfJump (statement : Statement) (target : Option Nat) : Option Entry :=
  match statement.action, target with
  | .jump tag, some position => some (.jumped statement.line tag position)
  | .jumpIf _ tag line, some position => some (.jumped line tag position)
  | _, _ => none

/-- A play with a stream as its input and a stream for its output. -/
def World.production (world : World) (settings : Settings) (statements : List Statement) :
    Production Console :=
  .ofStatements Console.provider settings.stepLimit statements (.stream world.encodes)

/-- Perform a play in a world, and keep a journal if it is asked for.  There is no result if
patience runs out. -/
def World.perform (world : World) (settings : Settings) (patience : Nat)
    (statements : List Statement) : Option Report :=
  let production := world.production settings statements
  let details := showsDetails settings.logLevel
  let gather (journal : List Entry) (statement : Statement) (target : Option Nat)
      (_ : House Console) : List Entry :=
    if details then (entryOfJump statement target).toList ++ journal else journal
  match production.followFrom gather patience [.located production.labels]
      (Production.opening [] ⟨world.input⟩) with
  | (_, none) => none
  | (journal, some ending) =>
      let closing :=
        match ending.outcome with
        | .ok () => [.finished ending.house.steps]
        | .error _ => []
      some (Report.after (journalText settings (closing ++ journal)) (.ofEnding ending))

/-- The failure to compare a count with a limit that has no value. -/
def blankLimit : Failure :=
  .noValue "\x27>\x27 not supported between instances of \x27int\x27 and \x27list\x27"

/-- A performance with a blank limit, which fails at its first statement. -/
def failAtBlank (settings : Settings) (statements : List Statement) : Report :=
  Report.after (journalText settings [.located (Labels.ofStatements statements)])
    (.failing [] blankLimit)

/-! ### Commands on files -/

/-- The desk of a session that has not begun. -/
def World.desk (world : World) (settings : Settings) : Desk :=
  Desk.ofShelf (settings.shelf world.directory)

/-- Work on the content of a file, whose line ends are unified. -/
def World.withFile (world : World) (path : String) (use : String → Option Report) :
    Option Report :=
  match world.file path with
  | .missing => some (.complaining ("Error: File not found: " ++ path ++ "\n") 1)
  | .directory => some (.failing [] (.isDirectory path))
  | .broken breakdown => some (.failing [] (.broken breakdown))
  | .text content => use (String.ofList (unifyNewlines content.toList))

/-- Understand the play in a file and work on its statements. -/
def World.withPlay (world : World) (settings : Settings) (path : String)
    (use : List Statement → Option Report) : Option Report :=
  world.withFile path fun source =>
    match (world.desk settings).readSource source with
    | (.error fault, desk) =>
        some (Report.after (journalText settings desk.journal) (.failing [] fault.failure))
    | (.ok statements, desk) =>
        (use statements).map (Report.after (journalText settings desk.journal))

/-- Remarks of one severity under a heading with their number. -/
def remarkGroup (icon noun : String) (remarks : List Remark) : List String :=
  if remarks.isEmpty then []
  else (icon ++ " " ++ toString remarks.length ++ " " ++ noun ++ "(s):") :: remarks.map Remark.text

/-- The remarks of a review as text: warnings first, then errors. -/
def remarksText (remarks : List Remark) : String :=
  asLines
    (remarkGroup "⚠" "warning" (remarks.filter fun remark => !remark.isError) ++
      remarkGroup "✘" "error" (remarks.filter Remark.isError))

/-- Print the transcripts of statements, up to the first that cannot be written. -/
def printStatements : List Statement → CodePoints × Conclusion
  | [] => ([], .code 0)
  | statement :: rest =>
      match statement.transcript with
      | .error _ => ([], .failure .digitLimit)
      | .ok text =>
          let (output, conclusion) := printStatements rest
          (CodePoints.ofString (text ++ "\n") ++ output, conclusion)

/-! ### Other commands -/

/-- The complaint that a class is not known. -/
def unknownClass (category : Option String) : Report :=
  let known := ", ".intercalate (Category.all.map Category.stem)
  .complaining
    ("Unknown category " ++ (category.map quote).getD "None" ++ ". Known: " ++ known ++ "\n") 1

/-- List the words of a class, or give an overview.  Whatever goes wrong with a list and is
no report passes for a class that is not known. -/
def World.listWords (world : World) (settings : Settings) (category : Option String) : Report :=
  let desk := world.desk settings
  let answer (result : Except LexiconFault String × Desk) : Report :=
    Report.after (journalText settings result.2.journal) <|
      match result.1 with
      | .ok text => .printing text 0
      | .error fault =>
          match fault.failure with
          | .diagnosed diagnostic => .diagnosing diagnostic
          | _ => unknownClass category
  match nonEmpty category with
  | none => answer (desk.consult do return (← Lexicon.describe) ++ "\n")
  | some name =>
      match Category.ofStem? name with
      | some category => answer (desk.consult do return asLines (← Lexicon.list category).words)
      | none => unknownClass category

/-- Announce a service and say how to start it. -/
def announce (settings : Settings) (limitIsBlank : Bool) : Report :=
  let banner :=
    asLines
      ["", "◬ ─── Shakespeare ───",
        "  http://" ++ settings.host ++ ":" ++ written settings.portNumber,
        "  Press Ctrl+C to stop", ""]
  { Report.printing banner 0 with
    hosting := some
      ⟨settings.host, settings.portNumber, lowerCase settings.logLevel,
        if limitIsBlank then none else some (settings.stepLimit.getD standardLimit)⟩ }

/-! ### Sessions -/

/-- Carry out an order.  There is no result if patience with a performance runs
out. -/
def Order.carryOut (world : World) (settings : Settings) (limitIsBlank : Bool)
    (patience : Nat) : Order → Option Report
  | run file isReviewed =>
      world.withPlay settings file fun statements =>
        let remarks := if isReviewed then review statements else []
        if remarks.any Remark.isError then some (.complaining (remarksText remarks) 1)
        else
          let report :=
            if limitIsBlank && !statements.isEmpty then some (failAtBlank settings statements)
            else world.perform settings patience statements
          report.map (Report.after (remarksText remarks))
  | tokens file =>
      world.withFile file fun source =>
        let (result, desk) := (world.desk settings).tokenize source
        some <| Report.after (journalText settings desk.journal) <|
          match result with
          | .ok found =>
              .printing (asLines (found.map fun token => token.kind.transcript)) 0
          | .error fault => .failing [] fault.failure
  | ast file =>
      world.withPlay settings file fun statements =>
        let (output, conclusion) := printStatements statements
        some ⟨output, "", conclusion, none⟩
  | verify file =>
      world.withPlay settings file fun statements =>
        let remarks := review statements
        if remarks.any Remark.isError then some (.complaining (remarksText remarks) 1)
        else some (Report.after (remarksText remarks) (.printing "✔ Verification passed\n" 0))
  | words category => some (world.listWords settings category)
  | serve _ _ => some (announce settings limitIsBlank)

/-- The settings of the surroundings, overridden by those of the command line.
An empty text overrides nothing, and neither does a zero in an address. -/
def Invocation.settings (invocation : Invocation) (standing : Settings) : Settings :=
  let overrides := invocation.overrides
  let (host, portNumber) :=
    match invocation.order with
    | some (.serve host portNumber) => (host, portNumber)
    | _ => (none, none)
  { wordLists := (nonEmpty overrides.wordLists).or standing.wordLists
    stepLimit := overrides.stepLimit.getD standing.stepLimit
    logLevel := (nonEmpty overrides.logLevel).elim standing.logLevel upperCase
    host := (nonEmpty host).getD standing.host
    portNumber := (portNumber.filter (· != 0)).getD standing.portNumber }

/-- A whole session: read the arguments, then the settings, then do what is
asked.  There is no result if patience with a performance runs out. -/
def session (world : World) (patience : Nat) (arguments : List String) : Option Report :=
  match Invocation.read arguments with
  | .error (.help text) => some (.printing text 0)
  | .error (.complaint text) => some (.complaining text 2)
  | .ok invocation =>
      match Settings.ofEnvironment world.environment with
      | .error fault => some (.failing [] (.badValue fault.message))
      | .ok standing =>
          match invocation.order with
          | none => some (.printing mainHelp 1)
          | some order =>
              order.carryOut world (invocation.settings standing) invocation.limitIsBlank patience

end Playhouse.CommandLine

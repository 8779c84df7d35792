/-
Module: Playhouse.CommandLine.Invocation
Purpose: The commands of the program, their options and their help.
Main exports: Overrides, Order, Invocation, Dismissal, Invocation.read, mainHelp
-/
import Playhouse.CommandLine.Form

namespace Playhouse.CommandLine

/-! ### What can be asked for -/

/-- Settings given before the command. -/
structure Overrides where
  wordLists : Option String := none
  logLevel : Option String := none
  /-- The step limit; it may be given and yet left blank. -/
  stepLimit : Option (Option Int) := none
deriving Repr, Inhabited, DecidableEq

/-- The commands. -/
inductive Command where
  | run
  | tokens
  | ast
  | verify
  | words
  | serve
deriving Repr, Inhabited, DecidableEq

namespace Command

def all : List Command := [run, tokens, ast, verify, words, serve]

def name : Command → String
  | run => "run"
  | tokens => "tokens"
  | ast => "ast"
  | verify => "verify"
  | words => "words"
  | serve => "serve"

def ofName? (name : String) : Option Command :=
  all.find? fun command => command.name == name

end Command

/-- A command with all that belongs to it. -/
inductive Order where
  /-- Perform the play in a file, perhaps only after a review without errors. -/
  | run (file : String) (reviewed : Bool)
  | tokens (file : String)
  | ast (file : String)
  | verify (file : String)
  /-- List one class of words, or give an overview. -/
  | words (category : Option String)
  | serve (host : Option String) (portNumber : Option Int)
deriving Repr, Inhabited, DecidableEq

/-- The file that an order works on. -/
def Order.file? : Order → Option String
  | run file _ | tokens file | ast file | verify file => some file
  | words _ | serve _ _ => none

/-- A whole command line. -/
structure Invocation where
  overrides : Overrides
  order : Option Order
deriving Repr, Inhabited, DecidableEq

/-- Whether a step limit is given but left blank. -/
def Invocation.limitIsBlank (invocation : Invocation) : Bool :=
  invocation.overrides.stepLimit == some none

/-! ### The forms -/

/-- The option that shows the help. -/
def helpChoice {α : Type} : Choice α :=
  { full := "help", letter := some 'h', taker := .help }

/-- The options in front of the command. -/
def mainForm : Form Overrides :=
  { program := "shakespeare"
    usage :=
      "usage: shakespeare [-h] [--wordlists WORDLISTS] [--log-level LOG_LEVEL]\n" ++
      "                   [--max-steps MAX_STEPS]\n" ++
      "                   \x7brun,tokens,ast,verify,words,serve\x7d ...\n"
    details :=
      "\nShakespeare Programming Language toolchain\n" ++
      "\npositional arguments:\n" ++
      "  \x7brun,tokens,ast,verify,words,serve\x7d\n" ++
      "                        Command to run\n" ++
      "    run                 Execute a play\n" ++
      "    tokens              Print the token transcript\n" ++
      "    ast                 Print the node transcript\n" ++
      "    verify              Statically check a play\n" ++
      "    words               List the lexicon\n" ++
      "    serve               Launch the HTTP service\n" ++
      "\noptions:\n" ++
      "  -h, --help            show this help message and exit\n" ++
      "  --wordlists WORDLISTS\n" ++
      "                        Directory of *.wordlist files\n" ++
      "  --log-level LOG_LEVEL\n" ++
      "                        Logging level (default: WARNING)\n" ++
      "  --max-steps MAX_STEPS\n" ++
      "                        Abort a run after N nodes\n" ++
      "\nExamples:\n" ++
      "  shakespeare run examples/hello.spl\n" ++
      "  shakespeare ast examples/countdown.spl\n" ++
      "  shakespeare verify examples/countdown.spl\n" ++
      "  shakespeare words positive_noun\n"
    options :=
      [helpChoice,
        { full := "wordlists"
          taker := .text fun text given => { given with wordLists := text } },
        { full := "log-level"
          taker := .text fun text given => { given with logLevel := text } },
        { full := "max-steps"
          taker := .number fun number given => { given with stepLimit := some number } }]
    place := .command }

/-- The help of the whole program. -/
def mainHelp : String := mainForm.usage ++ mainForm.details

/-- The form of a command that works on a file. -/
def fileForm (name : String) : Form String :=
  { program := "shakespeare " ++ name
    usage := "usage: shakespeare " ++ name ++ " [-h] file\n"
    details :=
      "\npositional arguments:\n" ++
      "  file        Path to a .spl file\n" ++
      "\noptions:\n" ++
      "  -h, --help  show this help message and exit\n"
    options := [helpChoice]
    place := .one "file" fun text _ => text }

/-- The form of the command that performs a play: its file, and whether it is
reviewed first. -/
def runForm : Form (String × Bool) :=
  { program := "shakespeare run"
    usage := "usage: shakespeare run [-h] [--verify] file\n"
    details :=
      "\npositional arguments:\n" ++
      "  file        Path to a .spl file\n" ++
      "\noptions:\n" ++
      "  -h, --help  show this help message and exit\n" ++
      "  --verify    Run the verifier before executing\n"
    options :=
      [helpChoice, { full := "verify", taker := .mark fun given => (given.1, true) }]
    place := .one "file" fun text given => (text, given.2) }

/-- The form of the command that lists words. -/
def wordsForm : Form (Option String) :=
  { program := "shakespeare words"
    usage := "usage: shakespeare words [-h] [category]\n"
    details :=
      "\npositional arguments:\n" ++
      "  category    Word category, e.g. positive_noun\n" ++
      "\noptions:\n" ++
      "  -h, --help  show this help message and exit\n"
    options := [helpChoice]
    place := .perhapsOne fun text _ => some text }

/-- The form of the command that starts the service: its address, in two
parts. -/
def serveForm : Form (Option String × Option Int) :=
  { program := "shakespeare serve"
    usage := "usage: shakespeare serve [-h] [--host HOST] [--port PORT]\n"
    details :=
      "\noptions:\n" ++
      "  -h, --help   show this help message and exit\n" ++
      "  --host HOST  Bind address\n" ++
      "  --port PORT  Port number\n"
    options :=
      [helpChoice,
        { full := "host", taker := .text fun text given => (text, given.2) },
        { full := "port", taker := .number fun number given => (given.1, number) }]
    place := .nothing }

/-! ### Reading a command line -/

/-- An early end: the help, or a complaint about the arguments. -/
inductive Dismissal where
  | help (text : String)
  | complaint (text : String)
deriving Repr, Inhabited, DecidableEq

/-- The early end that a form's stop leads to. -/
def Form.dismiss {α : Type} (form : Form α) : Stop → Dismissal
  | .help => .help (form.usage ++ form.details)
  | .fault message =>
      .complaint (form.usage ++ form.program ++ ": error: " ++ message ++ "\n")

/-- Read the arguments of a command with its form: the order, and arguments that
fit nowhere. -/
def Form.order {α : Type} (form : Form α) (start : α) (build : α → Order)
    (arguments : List String) : Except Dismissal (Order × List String) :=
  match form.read start arguments with
  | .ok given => .ok (build given.value, given.unknown)
  | .error stop => .error (form.dismiss stop)

/-- Read the arguments of a command. -/
def Command.read (arguments : List String) : Command → Except Dismissal (Order × List String)
  | run => runForm.order ("", false) (fun given => .run given.1 given.2) arguments
  | tokens => (fileForm "tokens").order "" .tokens arguments
  | ast => (fileForm "ast").order "" .ast arguments
  | verify => (fileForm "verify").order "" .verify arguments
  | words => wordsForm.order none .words arguments
  | serve =>
      serveForm.order (none, none) (fun given => .serve given.1 given.2) arguments

/-- The complaint about a command that does not exist. -/
def unknownCommand (name : String) : Stop :=
  let names := Command.all.map fun command => quote command.name
  .fault ("argument command: invalid choice: " ++ quote name ++ " (choose from " ++
    ", ".intercalate names ++ ")")

/-- Read the command in front of its own arguments, if there is one. -/
def readCommand : List String → Except Dismissal (Option Order × List String)
  | [] => .ok (none, [])
  | name :: arguments =>
      match Command.ofName? name with
      | none => .error (mainForm.dismiss (unknownCommand name))
      | some command =>
          (command.read arguments).map fun (order, unknown) => (some order, unknown)

/-- Read a command line.  Arguments that fit nowhere are complained about only
when there is nothing else to complain about. -/
def Invocation.read (arguments : List String) : Except Dismissal Invocation :=
  match mainForm.read {} arguments with
  | .error stop => .error (mainForm.dismiss stop)
  | .ok given =>
      match readCommand given.command with
      | .error dismissal => .error dismissal
      | .ok (order, unknown) =>
          match given.unknown ++ unknown with
          | [] => .ok ⟨given.value, order⟩
          | strangers =>
              .error (mainForm.dismiss
                (.fault ("unrecognized arguments: " ++ " ".intercalate strangers)))

end Playhouse.CommandLine

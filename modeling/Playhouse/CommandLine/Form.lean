/-
Module: Playhouse.CommandLine.Form
Purpose: Reading the arguments of a command: options, free arguments and what is
  wrong with them.
Main exports: Taker, Choice, Place, Form, Stop, Spelling, Given, Form.classify, Form.read
-/
import Playhouse.Lexicon.Shelf
import Playhouse.Text.Integer

namespace Playhouse.CommandLine

open Text

/-!
Arguments are sorted first: each is an option of the form, an option that the
form does not know, or free.  A single `--` frees everything behind it.  Then
they are taken from left to right.  What is given goes into a value of a type of
the caller's choice; the form says how.
-/

/-! ### Forms -/

/-- What an option asks for and what it changes. -/
inductive Taker (α : Type) where
  /-- Stop and show the help. -/
  | help
  /-- The option alone has a meaning. -/
  | mark (apply : α → α)
  /-- A text follows, which may be left blank. -/
  | text (apply : Option String → α → α)
  /-- A whole number follows, which may be left blank. -/
  | number (apply : Option Int → α → α)

/-- An option: its full name, which follows two dashes, perhaps a letter that may
follow a single dash instead, and what it does.  Only options that no text
follows have a letter. -/
structure Choice (α : Type) where
  full : String
  letter : Option Char := none
  taker : Taker α

/-- The full name as it is written. -/
def Choice.written {α : Type} (choice : Choice α) : String :=
  "--" ++ choice.full

/-- All names of an option, for messages about it. -/
def Choice.title {α : Type} (choice : Choice α) : String :=
  match choice.letter with
  | some letter => "-" ++ letter.toString ++ "/" ++ choice.written
  | none => choice.written

/-- What the free arguments are for. -/
inductive Place (α : Type) where
  | nothing
  /-- One argument that must be given. -/
  | one (name : String) (apply : String → α → α)
  /-- One argument that may be given. -/
  | perhapsOne (apply : String → α → α)
  /-- The name of a command, to which everything behind it belongs. -/
  | command

/-- A command with its options, its free arguments and its help.  The help is the
usage and the details behind it. -/
structure Form (α : Type) where
  program : String
  usage : String
  details : String
  options : List (Choice α)
  place : Place α

/-- Why reading stops early. -/
inductive Stop where
  | help
  | fault (message : String)
deriving Repr, Inhabited, DecidableEq

/-- A fault of one option. -/
def Choice.fault {α : Type} (choice : Choice α) (message : String) : Stop :=
  .fault ("argument " ++ choice.title ++ ": " ++ message)

/-- A text was given to an option that takes none. -/
def Choice.ignoredText {α : Type} (choice : Choice α) (text : List Char) : Stop :=
  choice.fault ("ignored explicit argument " ++ quote (String.ofList text))

/-! ### Sorting arguments -/

/-- The two ways to write an option: its full name, which may be cut short, or
its letter. -/
inductive Spelling where
  | byName
  | byLetter
deriving Repr, Inhabited, DecidableEq

/-- An argument that starts with a dash is spelled by name if its second
character is a dash too. -/
def Spelling.ofSecond (second : Char) : Spelling :=
  if second == '-' then byName else byLetter

/-- The sorts of arguments. -/
inductive ArgumentSort (α : Type) where
  | free
  /-- The two dashes that free all arguments behind them. -/
  | separator
  /-- An option, and the text in the same argument behind its name. -/
  | option (choice : Choice α) (spelling : Spelling) (attached : Option (List Char))
  | unknown

/-- An argument and its sort. -/
structure Argument (α : Type) where
  text : String
  sort : ArgumentSort α

/-- Some digits of any script, with nothing or a line feed behind them. -/
def isDigits (text : List Char) : Bool :=
  let isDigit (c : Char) : Bool := (digitValue? c).isSome
  let behind := text.dropWhile isDigit
  text.head?.any isDigit && (behind == [] || behind == ['\n'])

/-- Whether a text behind a dash makes the whole look like a negative number:
digits, or a point with digits behind it and perhaps in front. -/
def looksNumeric (text : List Char) : Bool :=
  let isDigit (c : Char) : Bool := (digitValue? c).isSome
  isDigits text ||
    match text.dropWhile isDigit with
    | '.' :: fraction => isDigits fraction
    | _ => false

/-- A text in front of its first equals sign, and behind it if there is one. -/
def cutAssignment (text : List Char) : List Char × Option (List Char) :=
  (text.takeWhile (· != '='),
    match text.dropWhile (· != '=') with
    | _ :: value => some value
    | [] => none)

namespace Form

variable {α : Type}

/-- The option with a letter. -/
def lettered? (form : Form α) (letter : Char) : Option (Choice α) :=
  form.options.find? fun choice => choice.letter == some letter

/-- The option that is written out in full, by name or by letter. -/
def named? (form : Form α) (text : List Char) : Option (Choice α) :=
  form.options.find? fun choice =>
    text == choice.written.toList || choice.letter.any fun letter => text == ['-', letter]

/-- The options whose written names begin with a text. -/
def beginning (form : Form α) (start : List Char) : List (Choice α) :=
  form.options.filter fun choice => start.isPrefixOf choice.written.toList

/-- The sort of a text with a dash in front that names no option. -/
def sortUnnamed (characters : List Char) : ArgumentSort α :=
  if looksNumeric (characters.drop 1) || characters.contains ' ' then .free else .unknown

/-- The sort of an argument.  A full name may be cut short as long as only one
option begins like that.  A text may follow a name behind an equals sign, and a
letter also directly. -/
def sortOf (form : Form α) (text : String) : Except Stop (ArgumentSort α) :=
  let characters := text.toList
  match characters with
  | '-' :: second :: rest =>
      let (name, assigned) := cutAssignment characters
      let spelling := Spelling.ofSecond second
      match form.named? characters, form.named? name with
      | some choice, _ => .ok (.option choice spelling none)
      | none, some choice => .ok (.option choice spelling assigned)
      | none, none =>
          match spelling with
          | .byName =>
              match form.beginning name with
              | [] => .ok (sortUnnamed characters)
              | [choice] => .ok (.option choice .byName assigned)
              | several =>
                  .error (.fault ("ambiguous option: " ++ text ++ " could match " ++
                    ", ".intercalate (several.map Choice.written)))
          | .byLetter =>
              match form.lettered? second with
              | some choice => .ok (.option choice .byLetter (some rest))
              | none => .ok (sortUnnamed characters)
  | _ => .ok .free

/-- Sort all arguments. -/
def classify (form : Form α) : List String → Except Stop (List (Argument α))
  | [] => .ok []
  | text :: rest =>
      if text == "--" then
        .ok (⟨text, .separator⟩ :: rest.map fun free => ⟨free, .free⟩)
      else
        match form.sortOf text with
        | .error stop => .error stop
        | .ok sort =>
            match form.classify rest with
            | .error stop => .error stop
            | .ok others => .ok (⟨text, sort⟩ :: others)

end Form

/-! ### Taking arguments -/

/-- What has been given so far. -/
structure Given (α : Type) where
  value : α
  /-- Whether the place for a free argument is filled. -/
  filled : Bool := false
  /-- The name of a command and everything behind it. -/
  command : List String := []
  /-- Arguments that fit nowhere. -/
  unknown : List String := []

namespace Given

variable {α : Type}

/-- Put an argument aside that fits nowhere. -/
def stray (given : Given α) (text : String) : Given α :=
  { given with unknown := given.unknown ++ [text] }

/-- Fill the place for a free argument. -/
def fill (given : Given α) (apply : String → α → α) (text : String) : Given α :=
  { given with value := apply text given.value, filled := true }

/-- Let an option that takes no text have its effect. -/
def mark (given : Given α) (choice : Choice α) : Except Stop (Given α) :=
  match choice.taker with
  | .help => .error .help
  | .mark apply => .ok { given with value := apply given.value }
  | .text _ | .number _ => .error (choice.fault "expected one argument")

/-- Let options that take no text have their effects in order. -/
def markAll (given : Given α) : List (Choice α) → Except Stop (Given α)
  | [] => .ok given
  | choice :: rest =>
      match given.mark choice with
      | .error stop => .error stop
      | .ok after => after.markAll rest

/-- The text given to an option.  Two dashes alone leave it blank. -/
def content? (text : String) : Option String :=
  if text == "--" then none else some text

/-- Give a text to an option. -/
def assign (given : Given α) (choice : Choice α) (text : String) : Except Stop (Given α) :=
  match choice.taker, content? text with
  | .help, _ | .mark _, _ => .error (choice.ignoredText text.toList)
  | .text apply, content => .ok { given with value := apply content given.value }
  | .number apply, none => .ok { given with value := apply none given.value }
  | .number apply, some numeral =>
      match readInteger numeral.toList with
      | .ok number => .ok { given with value := apply (some number) given.value }
      | .error _ => .error (choice.fault ("invalid int value: " ++ quote numeral))

end Given

namespace Form

variable {α : Type}

/-- An option and those named by the letters behind its own.  A stretch that
starts with a letter of no option is a text given to the option in front of it,
which takes none. -/
def letters (form : Form α) (choice : Choice α) : List Char → Except Stop (List (Choice α))
  | [] => .ok [choice]
  | letter :: rest =>
      match form.lettered? letter with
      | none => .error (choice.ignoredText (letter :: rest))
      | some next => (form.letters next rest).map (choice :: ·)

/-- Take an option.  The result says how many arguments behind it are used up
with it. -/
def takeOption (form : Form α) (given : Given α) (choice : Choice α) (spelling : Spelling)
    (attached : Option (List Char)) (rest : List (Argument α)) :
    Except Stop (Given α × Nat) :=
  match spelling, attached with
  | .byLetter, some (letter :: others) => do
      pure (← given.markAll (← form.letters choice (letter :: others)), 0)
  | _, some text => do
      pure (← given.assign choice (String.ofList text), 0)
  | _, none =>
      match choice.taker, rest with
      | .text _, ⟨text, .free⟩ :: _ | .number _, ⟨text, .free⟩ :: _ => do
          pure (← given.assign choice text, 1)
      | _, _ => do
          pure (← given.mark choice, 0)

/-- Take a free argument.  The result says how many arguments behind it are used
up with it: all of them by a command, and by any other two dashes that follow. -/
def takeFree (form : Form α) (given : Given α) (text : String) (rest : List (Argument α)) :
    Given α × Nat :=
  match form.place, given.filled with
  | .one _ apply, false | .perhapsOne apply, false =>
      match rest with
      | ⟨_, .separator⟩ :: _ => (given.fill apply text, 1)
      | _ => (given.fill apply text, 0)
  | .command, _ => ({ given with command := text :: rest.map Argument.text }, rest.length)
  | _, _ => (given.stray text, 0)

/-- Take two dashes.  The result says how many arguments behind them are used up
with them. -/
def takeSeparator (form : Form α) (given : Given α) (text : String)
    (rest : List (Argument α)) : Given α × Nat :=
  match form.place, given.filled, rest with
  | .one _ apply, false, next :: _ | .perhapsOne apply, false, next :: _ =>
      (given.fill apply next.text, 1)
  | .perhapsOne _, false, [] => (given, 0)
  | .command, _, _ :: _ =>
      ({ given with command := text :: rest.map Argument.text }, rest.length)
  | _, _, _ => (given.stray text, 0)

/-- Take arguments from left to right. -/
def take (form : Form α) (given : Given α) : List (Argument α) → Except Stop (Given α)
  | [] => .ok given
  | argument :: rest =>
      let taken : Except Stop (Given α × Nat) :=
        match argument.sort with
        | .unknown => .ok (given.stray argument.text, 0)
        | .option choice spelling attached =>
            form.takeOption given choice spelling attached rest
        | .free => .ok (form.takeFree given argument.text rest)
        | .separator => .ok (form.takeSeparator given argument.text rest)
      match taken with
      | .error stop => .error stop
      | .ok (after, used) => form.take after (rest.drop used)
termination_by arguments => arguments.length
decreasing_by simp only [List.length_drop, List.length_cons]; omega

/-- Whether the argument that must be given is there. -/
def complete (form : Form α) (given : Given α) : Except Stop (Given α) :=
  match form.place, given.filled with
  | .one name _, false => .error (.fault ("the following arguments are required: " ++ name))
  | _, _ => .ok given

/-- Read arguments, starting from what holds when none are given. -/
def read (form : Form α) (start : α) (arguments : List String) : Except Stop (Given α) := do
  let sorted ← form.classify arguments
  let given ← form.take { value := start } sorted
  form.complete given

end Form

end Playhouse.CommandLine

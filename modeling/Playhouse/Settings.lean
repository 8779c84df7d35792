/-
Module: Playhouse.Settings
Purpose: What a session may be told in advance: where the word lists are, how
  long a play may run, how much is written down, and where to listen.
Main exports: Settings, Settings.ofEnvironment, NumeralFault, NumeralFault.message,
  showsDetails
-/
import Playhouse.Text.Integer
import Playhouse.Text.LetterCase
import Playhouse.Text.Quoted

namespace Playhouse

open Text

/-- The settings of a session. -/
structure Settings where
  /-- The directory of the word lists; without one the bundled lists are used. -/
  wordLists : Option String := none
  /-- The greatest number of statements to begin; without one there is no limit. -/
  stepLimit : Option Int := none
  logLevel : String := "WARNING"
  host : String := "127.0.0.1"
  portNumber : Int := 8000
deriving Repr, Inhabited, DecidableEq

/-! ### Numbers in settings -/

/-- A text that should have been an integer, and what is wrong with it. -/
structure NumeralFault where
  text : String
  cause : IntegerFault
deriving Repr, Inhabited, DecidableEq

/-- The longest stretch of a quoted text that a message about it shows. -/
def shownQuotation : Nat := 200

/-- The wording of a bad number.  A long quotation is cut off. -/
def NumeralFault.message (fault : NumeralFault) : String :=
  match fault.cause with
  | .malformed =>
      "invalid literal for int() with base 10: " ++
        String.ofList ((quoted fault.text.toList).take shownQuotation)
  | .tooLong digits =>
      "Exceeds the limit (4300 digits) for integer string conversion: value has " ++
        toString digits ++ " digits; use sys.set_int_max_str_digits() to increase the limit"

/-- Read a setting that is a number. -/
def readSetting (text : String) : Except NumeralFault Int :=
  (readInteger text.toList).mapError fun cause => ⟨text, cause⟩

/-! ### Settings from the environment -/

/-- The variables of the surroundings. -/
abbrev Environment := String → Option String

/-- A text, unless it is empty. -/
def nonEmpty (text : Option String) : Option String :=
  text.filter fun given => !given.isEmpty

/-- A variable of this program.  An empty one counts as not set. -/
def Environment.setting? (environment : Environment) (name : String) : Option String :=
  nonEmpty (environment ("SHAKESPEARE_" ++ name))

/-- A text in upper case. -/
def upperCase (text : String) : String :=
  String.ofList (upper text.toList)

/-- A text in lower case. -/
def lowerCase (text : String) : String :=
  String.ofList (lower text.toList)

/-- The settings that the surroundings ask for.  Of two bad numbers the step
limit is reported. -/
def Settings.ofEnvironment (environment : Environment) : Except NumeralFault Settings := do
  let standard : Settings := {}
  let stepLimit ←
    match environment.setting? "MAX_STEPS" with
    | some text => do pure (some (← readSetting text))
    | none => pure standard.stepLimit
  let portNumber ←
    match environment.setting? "PORT" with
    | some text => readSetting text
    | none => pure standard.portNumber
  pure
    { wordLists := environment.setting? "WORDLIST_DIR"
      stepLimit := stepLimit
      logLevel := upperCase ((environment.setting? "LOG_LEVEL").getD standard.logLevel)
      host := (environment.setting? "HOST").getD standard.host
      portNumber := portNumber }

/-- Whether details of the work are written down at a level.  Only the lowest
named level and the absence of a level show them. -/
def showsDetails (logLevel : String) : Bool :=
  let name := upperCase logLevel
  name == "DEBUG" || name == "NOTSET"

end Playhouse

/-
Module: Playhouse.Diagnostic
Purpose: Failures in the form in which they are reported.
Main exports: Diagnostic, Diagnostic.text, Failure, Failure.message,
  LexiconFault.failure, ReadFault.diagnostic, ReadFault.failure, Mishap.failure,
  InputFault.diagnostic
-/
import Playhouse.Performance.Mishap
import Playhouse.Script.Fault

namespace Playhouse

open Text

/-- A report: the family of the fault, its wording, and the line if one is known. -/
structure Diagnostic where
  kind : String
  message : String
  line : Option Nat
deriving Repr, Inhabited, DecidableEq

/-- A report in one line.  The line number is left out when it is not known. -/
def Diagnostic.text (diagnostic : Diagnostic) : String :=
  match diagnostic.line with
  | some (line + 1) => "L" ++ toString (line + 1) ++ ": " ++ diagnostic.message
  | _ => diagnostic.message

/-- Failures: a reported fault of the play or its input, a value that cannot be
converted, a value asked of something that has none, a directory where a file should be,
or a failure from elsewhere. -/
inductive Failure where
  | diagnosed (diagnostic : Diagnostic)
  | badValue (message : String)
  | noValue (message : String)
  | isDirectory (path : String)
  | broken (breakdown : Breakdown)
deriving Repr, Inhabited, DecidableEq

/-- The wording for a number with too many digits to be written. -/
def digitLimitMessage : String :=
  "Exceeds the limit (4300 digits) for integer string conversion; " ++
    "use sys.set_int_max_str_digits() to increase the limit"

/-- The failure to write a number. -/
def Failure.digitLimit : Failure := badValue digitLimitMessage

/-- The wording of a failure. -/
def Failure.message : Failure → String
  | diagnosed diagnostic => diagnostic.text
  | badValue message => message
  | noValue message => message
  | isDirectory path => "[Errno 21] Is a directory: " ++ quote path
  | broken breakdown => breakdown.kind ++ ": " ++ breakdown.message

/-- The kind and the wording of a fault, also of one that is not reported. -/
def LexiconFault.diagnostic (fault : LexiconFault) : Diagnostic :=
  ⟨fault.kind, fault.message, none⟩

/-- The failure that a fault of the lexicon is: a report, unless it comes from elsewhere. -/
def LexiconFault.failure (fault : LexiconFault) : Failure :=
  match fault.breakdown? with
  | none => .diagnosed fault.diagnostic
  | some breakdown => .broken breakdown

def ParseFault.diagnostic (fault : ParseFault) : Diagnostic :=
  ⟨fault.cause.kind, fault.cause.message, some fault.line⟩

def ReadFault.diagnostic : ReadFault → Diagnostic
  | lexicon fault => fault.diagnostic
  | parse fault => fault.diagnostic

/-- The failure that a fault of reading is. -/
def ReadFault.failure : ReadFault → Failure
  | lexicon fault => fault.failure
  | parse fault => .diagnosed fault.diagnostic

def InputFault.diagnostic (fault : InputFault) (line : Option Nat) : Diagnostic :=
  ⟨"InputExhausted", fault.message, line⟩

/-- A number in a message. -/
def written (value : Int) : String :=
  String.ofList (numeral value)

/-- The failure that a mishap is: a report, unless it cannot be written or comes from
elsewhere. -/
def Mishap.failure (mishap : Mishap) : Failure :=
  let report (kind message : String) : Failure := .diagnosed ⟨kind, message, some mishap.line⟩
  match mishap.cause with
  | .noSuchScene tag => report "UnresolvedLabel" ("No scene tagged " ++ tag)
  | .divisionByZero => report "ArithmeticFault" "Division by zero"
  | .moduloByZero => report "ArithmeticFault" "Modulo by zero"
  | .unprintable value =>
      report "ArithmeticFault" (written value ++ " is not a printable code point")
  | .negativeRoot value =>
      report "ArithmeticFault" ("Square root of negative value " ++ written value)
  | .tooLarge operation value =>
      report "ArithmeticFault" (operation.name ++ " of " ++ written value ++ " overflows")
  | .undeclared name =>
      report "UndeclaredVariable" (name.getD "None" ++ " was never declared")
  | .emptyStack name => report "EmptyStack" (name ++ " has nothing to recall")
  | .input fault => .diagnosed (fault.diagnostic (some mishap.line))
  | .stepLimit limit =>
      if isWritable limit then
        report "StepLimitExceeded" ("Execution exceeded " ++ written limit ++ " steps")
      else .digitLimit
  | .digitLimit => .digitLimit
  | .noValue message => .noValue message
  | .refused breakdown => .broken breakdown

end Playhouse

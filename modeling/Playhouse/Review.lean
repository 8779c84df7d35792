/-
Module: Playhouse.Review
Purpose: A review of a play before it is performed.
Main exports: Severity, Remark, Remark.text, review, Remark.isError
-/
import Playhouse.Node

namespace Playhouse

/-!
Four things are looked for: jumps to scenes that do not exist, which is an
error, and three oddities that call for a warning: scenes with the same tag,
characters that nobody uses, and characters who recall although nobody tells
them to remember.
-/

/-- How serious a remark is. -/
inductive Severity where
  | error
  | warning
deriving Repr, Inhabited, DecidableEq

def Severity.label : Severity → String
  | error => "ERROR"
  | warning => "WARNING"

/-- What a remark is about. -/
inductive Concern where
  | jump (tag : String)
  | tag (tag : String)
  | character (name : String)
  | stack (name : String)
deriving Repr, Inhabited, DecidableEq

namespace Concern

def severity : Concern → Severity
  | jump _ => .error
  | _ => .warning

/-- The name of the check that raises a concern. -/
def rule : Concern → String
  | jump _ => "JUMP"
  | tag _ => "TAG"
  | character _ => "CHARACTER"
  | stack _ => "STACK"

def message : Concern → String
  | jump target => "Jump to scene " ++ target ++ " which does not exist"
  | tag name => "Scene " ++ name ++ " is defined more than once; jumps reach the last one"
  | character name => name ++ " is declared but never used"
  | stack name => name ++ " recalls a value but is never told to remember one"

end Concern

/-- A remark on the statement that starts on a line. -/
structure Remark where
  concern : Concern
  line : Nat
deriving Repr, Inhabited, DecidableEq

namespace Remark

def severity (remark : Remark) : Severity := remark.concern.severity

def isError (remark : Remark) : Bool := remark.severity == .error

/-- A remark in one line. -/
def text (remark : Remark) : String :=
  let icon := if remark.isError then "✘" else "⚠"
  "  " ++ icon ++ " L" ++ toString remark.line ++ " [" ++ remark.concern.rule ++ "] " ++
    remark.concern.message

end Remark

/-! ### What statements refer to -/

/-- The tags of the scenes of a play. -/
def sceneTags (statements : List Statement) : List String :=
  statements.filterMap fun statement =>
    match statement.action with
    | .scene tag => some tag
    | _ => none

/-- The tag to which a statement may jump. -/
def Action.destination? : Action → Option String
  | jump tag => some tag
  | jumpIf _ tag _ => some tag
  | _ => none

/-- The characters whom an expression refers to. -/
def Expr.names : Expr → List (Option String)
  | character name _ => [name]
  | unary _ operand _ => operand.names
  | binary _ lhs rhs _ => lhs.names ++ rhs.names
  | number _ _ | foreign _ _ => []

/-- The characters whom an action reads or writes. -/
def Action.names : Action → List (Option String)
  | scanNumber name | scanCharacter name | printNumber name | printCharacter name | pop name =>
      [some name]
  | push name value => some name :: value.names
  | assign target _ value => target :: value.names
  | jumpIf question _ _ => question.lhs.names ++ question.rhs.names
  | _ => []

/-! ### The four checks -/

/-- Jumps whose scene does not exist. -/
def jumpRemarks (statements : List Statement) : List Remark :=
  let tags := sceneTags statements
  statements.filterMap fun statement =>
    match statement.action.destination? with
    | some tag => if tags.contains tag then none else some ⟨.jump tag, statement.line⟩
    | none => none

/-- Scenes whose tag occurred before.  `seen` holds the tags of earlier scenes. -/
def tagRemarksFrom (seen : List String) : List Statement → List Remark
  | [] => []
  | statement :: rest =>
      match statement.action with
      | .scene tag =>
          if seen.contains tag then ⟨.tag tag, statement.line⟩ :: tagRemarksFrom seen rest
          else tagRemarksFrom (tag :: seen) rest
      | _ => tagRemarksFrom seen rest

def tagRemarks (statements : List Statement) : List Remark :=
  tagRemarksFrom [] statements

/-- Characters whom no statement reads or writes. -/
def characterRemarks (statements : List Statement) : List Remark :=
  let used := statements.flatMap fun statement => statement.action.names
  statements.filterMap fun statement =>
    match statement.action with
    | .declare name =>
        if used.contains (some name) then none else some ⟨.character name, statement.line⟩
    | _ => none

/-- Characters who recall while no statement puts anything on their stack. -/
def stackRemarks (statements : List Statement) : List Remark :=
  let pushed := statements.filterMap fun statement =>
    match statement.action with
    | .push name _ => some name
    | _ => none
  statements.filterMap fun statement =>
    match statement.action with
    | .pop name => if pushed.contains name then none else some ⟨.stack name, statement.line⟩
    | _ => none

/-! ### The review -/

/-- Whether a remark is reported before another or beside it: earlier lines come
first, and on one line errors come before warnings. -/
def Remark.precedes (first second : Remark) : Bool :=
  first.line < second.line ||
    (first.line == second.line && (first.isError || !second.isError))

/-- Put a remark in front of the first one that it precedes. -/
def insertRemark (remark : Remark) : List Remark → List Remark
  | [] => [remark]
  | other :: rest =>
      if remark.precedes other then remark :: other :: rest
      else other :: insertRemark remark rest

/-- All remarks, in the order in which the checks make them. -/
def allRemarks (statements : List Statement) : List Remark :=
  jumpRemarks statements ++ tagRemarks statements ++ characterRemarks statements ++
    stackRemarks statements

/-- Review a play.  Remarks of the same line and severity keep the order of the
checks. -/
def review (statements : List Statement) : List Remark :=
  (allRemarks statements).foldr insertRemark []

end Playhouse

/-
Module: Playhouse.Script.Course
Purpose: The whole course of a reading, from the first token to the last or to
  the first fault.
Main exports: Beat, Course, Reading.course, Course.statements, Course.outcome, readTokens
-/
import Playhouse.Script.Progress

namespace Playhouse

/-- One completed part: its statement, the word classes asked for, the change of
part if the table was used, and the reading after it. -/
structure Beat where
  statement : Option Statement
  consulted : List Category
  transition : Option Reading.Transition
  reading : Reading
deriving Repr, Inhabited

/-- The completed parts of a reading and, if it failed, the failure with the word
classes asked for in the part that failed. -/
structure Course where
  beats : List Beat
  failure : Option (ReadFault × List Category)
deriving Repr, Inhabited

/-- Put a part in front of a course. -/
def Course.cons (beat : Beat) (course : Course) : Course :=
  { course with beats := beat :: course.beats }

/-- Read a play to its end or to its first fault. -/
def Reading.course (next : NextStates) (vocabulary : Vocabulary) (reading : Reading) : Course :=
  if _unfinished : reading.rest = [] then ⟨[], none⟩
  else
    let part := Reading.part vocabulary reading
    match _read : part.outcome with
    | .error fault => ⟨[], some (fault, part.consulted)⟩
    | .ok (statement, middle) =>
        match _advanced : Reading.advance next middle with
        | .error fault => ⟨[], some (.parse fault, part.consulted)⟩
        | .ok (after, transition) =>
            Course.cons ⟨statement, part.consulted, transition, after⟩
              (Reading.course next vocabulary after)
termination_by reading.measure
decreasing_by exact Reading.measure_lt _unfinished _read _advanced

namespace Course

/-- The statements of a course in order. -/
def statements (course : Course) : List Statement :=
  course.beats.filterMap Beat.statement

/-- The reading after the last completed part. -/
def final (start : Reading) (course : Course) : Reading :=
  (course.beats.getLast?.map Beat.reading).getD start

/-- The statements, unless the reading failed. -/
def outcome (course : Course) : Except ReadFault (List Statement) :=
  match course.failure with
  | some (fault, _) => .error fault
  | none => .ok course.statements

end Course

/-- Understand a play from its tokens. -/
def readTokens (vocabulary : Vocabulary) (tokens : List Token) :
    Except ReadFault (List Statement) :=
  (Reading.course NextStates.standard vocabulary (Reading.ofTokens tokens)).outcome

end Playhouse

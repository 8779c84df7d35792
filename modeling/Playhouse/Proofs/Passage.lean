/-
Module: Playhouse.Proofs.Passage
Purpose: The readings that a course passes through, with the statements told on
  the way.
Main exports: Reading.Turn, Reading.Passage, Reading.StopsAt, Reading.passage_of_beat,
  Reading.course_passage, Course.readings
-/
import Playhouse.Proofs.Parts
import Playhouse.Script.Course

namespace Playhouse

namespace Reading

/-!
A course is a sequence of turns: a part is read, and the next part is decided on.
Whatever one turn preserves holds of every reading that a course passes through,
by induction on `Passage`.  Three facts tie passages to courses: every beat of a
course leaves a reading that is passed through, all statements of a course are
told on one passage, and that passage ends where the tokens end or where the
course fails.
-/

/-- One turn of a course: a part and the decision on the next one. -/
inductive Turn (next : NextStates) (vocabulary : Vocabulary) (before : Reading)
    (statement : Option Statement) (after : Reading) : Prop where
  | intro {middle : Reading} {transition : Option Transition}
      (unfinished : before.rest ≠ [])
      (read : (part vocabulary before).outcome = .ok (statement, middle))
      (advanced : advance next middle = .ok (after, transition))

/-- A turn reads by the rules and then changes nothing but the part under way. -/
theorem Turn.reads {next : NextStates} {vocabulary : Vocabulary} {before after : Reading}
    {statement : Option Statement} (turn : Turn next vocabulary before statement after) :
    ∃ middle target, Reads vocabulary before statement middle ∧
      Follows next middle.state target ∧ after = { middle with state := target } := by
  obtain @⟨middle, transition, unfinished, read, advanced⟩ := turn
  obtain ⟨target, isAfter, follows⟩ := advance_follows advanced
  exact ⟨middle, target, reads_of_part unfinished read, follows, isAfter⟩

/-- The readings passed through from a start, each with the statements told on
the way to it. -/
inductive Passage (next : NextStates) (vocabulary : Vocabulary) (start : Reading) :
    List Statement → Reading → Prop where
  | here : Passage next vocabulary start [] start
  | turn {told : List Statement} {before after : Reading} {statement : Option Statement}
      (passed : Passage next vocabulary start told before)
      (turned : Turn next vocabulary before statement after) :
      Passage next vocabulary start (told ++ statement.toList) after

/-- A reading at which no turn can be taken, although tokens are left: its part
fails, or no part may follow. -/
inductive StopsAt (next : NextStates) (vocabulary : Vocabulary) (reading : Reading) :
    ReadFault → Prop where
  | part {fault : ReadFault} (unfinished : reading.rest ≠ [])
      (failed : (part vocabulary reading).outcome = .error fault) :
      StopsAt next vocabulary reading fault
  | advance {statement : Option Statement} {middle : Reading} {fault : ParseFault}
      (unfinished : reading.rest ≠ [])
      (read : (Reading.part vocabulary reading).outcome = .ok (statement, middle))
      (failed : Reading.advance next middle = .error fault) :
      StopsAt next vocabulary reading (.parse fault)

section

variable {next : NextStates} {vocabulary : Vocabulary} {reading : Reading}

/-! ### The shape of a course -/

/-- Induction along a course: it is finished, its part fails, no part may follow,
or it takes a turn. -/
@[elab_as_elim]
theorem courseInduction (next : NextStates) (vocabulary : Vocabulary) {motive : Reading → Prop}
    (finished : ∀ reading, reading.rest = [] → motive reading)
    (failed : ∀ reading fault, reading.rest ≠ [] →
      (part vocabulary reading).outcome = .error fault → motive reading)
    (unfollowed : ∀ reading statement middle fault, reading.rest ≠ [] →
      (part vocabulary reading).outcome = .ok (statement, middle) →
      advance next middle = .error fault → motive reading)
    (turned : ∀ reading statement middle after transition, reading.rest ≠ [] →
      (part vocabulary reading).outcome = .ok (statement, middle) →
      advance next middle = .ok (after, transition) → motive after → motive reading)
    (reading : Reading) : motive reading :=
  course.induct next vocabulary motive finished
    (fun reading unfinished fault read => failed reading fault unfinished read)
    (fun reading unfinished statement middle read fault stopped =>
      unfollowed reading statement middle fault unfinished read stopped)
    (fun reading unfinished statement middle read after transition advanced =>
      turned reading statement middle after transition unfinished read advanced)
    reading

/-- At the end of the tokens nothing is decided on. -/
theorem advance_finished (finished : reading.rest = []) :
    advance next reading = .ok (reading, none) := by
  unfold advance
  rw [finished]

theorem course_finished (finished : reading.rest = []) :
    reading.course next vocabulary = ⟨[], none⟩ := by
  rw [course, dif_pos finished]

theorem course_failed {fault : ReadFault} (unfinished : reading.rest ≠ [])
    (failed : (part vocabulary reading).outcome = .error fault) :
    reading.course next vocabulary =
      ⟨[], some (fault, (part vocabulary reading).consulted)⟩ := by
  rw [course, dif_neg unfinished]
  dsimp only
  split
  · rename_i other otherFailed
    rw [failed] at otherFailed
    cases otherFailed
    rfl
  · rename_i succeeded
    rw [failed] at succeeded
    cases succeeded

theorem course_unfollowed {statement : Option Statement} {middle : Reading} {fault : ParseFault}
    (unfinished : reading.rest ≠ [])
    (read : (part vocabulary reading).outcome = .ok (statement, middle))
    (failed : advance next middle = .error fault) :
    reading.course next vocabulary =
      ⟨[], some (.parse fault, (part vocabulary reading).consulted)⟩ := by
  rw [course, dif_neg unfinished]
  dsimp only
  split
  · rename_i partFailed
    rw [read] at partFailed
    cases partFailed
  · rename_i succeeded
    rw [read] at succeeded
    cases succeeded
    split
    · rename_i other otherFailed
      rw [failed] at otherFailed
      cases otherFailed
      rfl
    · rename_i advanced
      rw [failed] at advanced
      cases advanced

theorem course_turned {statement : Option Statement} {middle after : Reading}
    {transition : Option Transition} (unfinished : reading.rest ≠ [])
    (read : (part vocabulary reading).outcome = .ok (statement, middle))
    (advanced : advance next middle = .ok (after, transition)) :
    reading.course next vocabulary =
      Course.cons ⟨statement, (part vocabulary reading).consulted, transition, after⟩
        (after.course next vocabulary) := by
  rw [course, dif_neg unfinished]
  dsimp only
  split
  · rename_i partFailed
    rw [read] at partFailed
    cases partFailed
  · rename_i succeeded
    rw [read] at succeeded
    cases succeeded
    split
    · rename_i otherFailed
      rw [advanced] at otherFailed
      cases otherFailed
    · rename_i otherAdvanced
      rw [advanced] at otherAdvanced
      cases otherAdvanced
      rfl

/-! ### Courses and passages -/

theorem statements_cons (beat : Beat) (course : Course) :
    (Course.cons beat course).statements = beat.statement.toList ++ course.statements := by
  obtain ⟨statement, consulted, transition, after⟩ := beat
  cases statement <;> rfl

/-- A part in front of a course puts its statement in front. -/
theorem outcome_cons (beat : Beat) (course : Course) :
    (Course.cons beat course).outcome =
      course.outcome.map fun told => beat.statement.toList ++ told := by
  obtain ⟨beats, failure⟩ := course
  cases failure with
  | none => exact congrArg Except.ok (statements_cons beat ⟨beats, none⟩)
  | some failure => rfl

/-- Every beat leaves a reading that is passed through. -/
theorem passage_of_beat {start : Reading} {told : List Statement}
    (passed : Passage next vocabulary start told reading) {beat : Beat}
    (member : beat ∈ (reading.course next vocabulary).beats) :
    ∃ toldThere, Passage next vocabulary start toldThere beat.reading := by
  induction reading using courseInduction next vocabulary generalizing told with
  | finished reading finished =>
      rw [course_finished finished] at member
      cases member
  | failed reading fault unfinished failed =>
      rw [course_failed unfinished failed] at member
      cases member
  | unfollowed reading statement middle fault unfinished read failed =>
      rw [course_unfollowed unfinished read failed] at member
      cases member
  | turned reading statement middle after transition unfinished read advanced further =>
      have passedAfter := passed.turn ⟨unfinished, read, advanced⟩
      rw [course_turned unfinished read advanced] at member
      rcases List.mem_cons.mp member with isFirst | later
      · rw [isFirst]
        exact ⟨_, passedAfter⟩
      · exact further passedAfter later

/-- All statements of a course are told on one passage, which ends with the
tokens or at the failure. -/
theorem course_passage {start : Reading} {told : List Statement}
    (passed : Passage next vocabulary start told reading) :
    ∃ final,
      Passage next vocabulary start (told ++ (reading.course next vocabulary).statements) final ∧
      match (reading.course next vocabulary).failure with
      | none => final.rest = []
      | some (fault, _) => StopsAt next vocabulary final fault := by
  induction reading using courseInduction next vocabulary generalizing told with
  | finished reading finished =>
      rw [course_finished finished]
      exact ⟨reading, by simpa [Course.statements] using passed, finished⟩
  | failed reading fault unfinished failed =>
      rw [course_failed unfinished failed]
      exact ⟨reading, by simpa [Course.statements] using passed, .part unfinished failed⟩
  | unfollowed reading statement middle fault unfinished read failed =>
      rw [course_unfollowed unfinished read failed]
      exact ⟨reading, by simpa [Course.statements] using passed,
        .advance unfinished read failed⟩
  | turned reading statement middle after transition unfinished read advanced further =>
      obtain ⟨final, finalPassed, ended⟩ :=
        further (passed.turn ⟨unfinished, read, advanced⟩)
      rw [course_turned unfinished read advanced, statements_cons, ← List.append_assoc]
      exact ⟨final, finalPassed, ended⟩

end

end Reading

/-- All readings of a course from its start on. -/
def Course.readings (start : Reading) (course : Course) : List Reading :=
  start :: course.beats.map Beat.reading

/-- Every reading of a course is passed through. -/
theorem passage_of_mem_readings {next : NextStates} {vocabulary : Vocabulary}
    {start reading : Reading}
    (member : reading ∈ (start.course next vocabulary).readings start) :
    ∃ told, Reading.Passage next vocabulary start told reading := by
  rcases List.mem_cons.mp member with isStart | later
  · rw [isStart]
    exact ⟨[], .here⟩
  · obtain ⟨beat, beatMember, rfl⟩ := List.mem_map.mp later
    exact Reading.passage_of_beat .here beatMember

/-- A play that is understood is told on a passage to the end of its tokens. -/
theorem passage_of_readTokens {vocabulary : Vocabulary} {tokens : List Token}
    {statements : List Statement} (understood : readTokens vocabulary tokens = .ok statements) :
    ∃ final, final.rest = [] ∧
      Reading.Passage NextStates.standard vocabulary (Reading.ofTokens tokens) statements
        final := by
  have begun : Reading.Passage NextStates.standard vocabulary (Reading.ofTokens tokens) []
      (Reading.ofTokens tokens) := .here
  obtain ⟨final, passed, ended⟩ := Reading.course_passage begun
  unfold readTokens Course.outcome at understood
  split at understood
  · cases understood
  · rename_i noFailure
    cases understood
    rw [noFailure] at ended
    exact ⟨final, ended, passed⟩

end Playhouse

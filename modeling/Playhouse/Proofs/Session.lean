/-
Module: Playhouse.Proofs.Session
Purpose: A session that reviews a play before performing it, beside one that does
  not.
Main exports: CommandLine.Report.visible, CommandLine.World.play?,
  CommandLine.withPlay_of_play, CommandLine.ending_of_perform, CommandLine.StopsAtOnce,
  review_sound
-/
import Playhouse.CommandLine.Session
import Playhouse.Proofs.Verdict

namespace Playhouse

/-!
Two sessions are compared that differ in the review alone.  Reading the play comes
first in both and takes no input, so that the verdict is settled before anything is
performed.  After that the sessions differ in their messages and in nothing else.
-/

namespace CommandLine

open Text

/-! ### What can be seen of a session -/

/-- What a session shows: its output and how it ends. -/
def Report.visible (report : Report) : CodePoints × Conclusion :=
  (report.output, report.conclusion)

/-- The play in a file, if it can be understood. -/
def World.play? (world : World) (settings : Settings) (file : String) :
    Option (List Statement) :=
  match world.file file with
  | .text content =>
      ((world.desk settings).readSource (String.ofList (unifyNewlines content.toList))).1.toOption
  | _ => none

section

variable {world : World} {settings : Settings} {file : String}

/-- Work on a play that is understood comes down to work on its statements. -/
theorem withPlay_of_play {statements : List Statement}
    (found : world.play? settings file = some statements) :
    ∃ messages, ∀ use, world.withPlay settings file use =
      (use statements).map (Report.after messages) := by
  unfold World.play? at found
  split at found
  · rename_i content isText
    cases read : (world.desk settings).readSource
        (String.ofList (unifyNewlines content.toList)) with
    | mk result desk =>
        rw [read] at found
        cases result with
        | error fault => cases found
        | ok others =>
            cases found
            refine ⟨journalText settings desk.journal, fun use => ?_⟩
            simp only [World.withPlay, World.withFile, isText, read]
  · cases found

/-- Where there is no play to be understood nothing is done with it. -/
theorem withPlay_of_no_play (missing : world.play? settings file = none)
    (use other : List Statement → Option Report) :
    world.withPlay settings file use = world.withPlay settings file other := by
  unfold World.play? at missing
  unfold World.withPlay World.withFile
  split
  · rfl
  · rfl
  · rfl
  · rename_i content isText
    rw [isText] at missing
    dsimp only at missing ⊢
    cases read : (world.desk settings).readSource
        (String.ofList (unifyNewlines content.toList)) with
    | mk result desk =>
        rw [read] at missing
        cases result with
        | error fault => rfl
        | ok statements => cases missing

/-- The report on a performance is the report of its ending, with messages in front. -/
theorem ending_of_perform {patience : Nat} {statements : List Statement} {report : Report}
    (performed : world.perform settings patience statements = some report) :
    ∃ ending messages,
      (world.production settings statements).run patience ⟨world.input⟩ = some ending ∧
        report = (Report.ofEnding ending).after messages := by
  unfold World.perform at performed
  dsimp only at performed
  split at performed
  · cases performed
  · rename_i journal ending followed
    have ended := congrArg Prod.snd followed
    rw [Production.followFrom_snd] at ended
    exact ⟨ending, _, ended, (Option.some.inj performed).symm⟩

end

/-! ### Performing with and without a review -/

section

variable {world : World} {settings : Settings} {file : String} {limitIsBlank : Bool}

/-- A play with errors is not performed: the report is settled before any input
is looked at. -/
theorem carryOut_run_rejected {statements : List Statement}
    (found : world.play? settings file = some statements)
    (rejected : (review statements).any Remark.isError = true) :
    ∃ report, report.visible = ([], .code 1) ∧ ∀ input patience,
      (Order.run file true).carryOut { world with input := input } settings limitIsBlank
        patience = some report := by
  obtain ⟨messages, worked⟩ := withPlay_of_play found
  refine ⟨(Report.complaining (remarksText (review statements)) 1).after messages, rfl, ?_⟩
  intro input patience
  refine (worked _).trans ?_
  simp only [if_true, rejected, Option.map_some]

/-- A performance with nothing in its way, in a world. -/
def World.performance (world : World) (settings : Settings) (limitIsBlank : Bool)
    (patience : Nat) (statements : List Statement) : Option Report :=
  if limitIsBlank && !statements.isEmpty then some (failAtBlank settings statements)
  else world.perform settings patience statements

theorem after_after (first second : String) (report : Report) :
    (report.after second).after first = report.after (first ++ second) := by
  simp [Report.after, String.append_assoc]

/-- A play that is not reviewed, or reviewed without errors, is performed. -/
theorem carryOut_run_approved {statements : List Statement}
    (found : world.play? settings file = some statements) (isReviewed : Bool)
    (approved : isReviewed = true → (review statements).any Remark.isError = false)
    (limitIsBlank : Bool) (patience : Nat) :
    ∃ messages, (Order.run file isReviewed).carryOut world settings limitIsBlank patience =
      (world.performance settings limitIsBlank patience statements).map
        (Report.after messages) := by
  obtain ⟨messages, worked⟩ := withPlay_of_play found
  have noError : (if isReviewed then review statements else []).any Remark.isError = false := by
    cases isReviewed with
    | true => exact approved rfl
    | false => rfl
  refine ⟨messages ++ remarksText (if isReviewed then review statements else []), ?_⟩
  refine (worked _).trans ?_
  simp only [noError, Bool.false_eq_true, if_false, Option.map_map]
  congr 1
  funext report
  exact after_after messages _ report

/-- A review without errors changes nothing but the messages. -/
theorem visible_carryOut_run_approved {statements : List Statement}
    (found : world.play? settings file = some statements)
    (approved : (review statements).any Remark.isError = false) (patience : Nat) :
    ((Order.run file true).carryOut world settings limitIsBlank patience).map Report.visible =
      ((Order.run file false).carryOut world settings limitIsBlank patience).map
        Report.visible := by
  obtain ⟨reviewedMessages, reviewedReport⟩ :=
    carryOut_run_approved found true (fun _ => approved) limitIsBlank patience
  obtain ⟨plainMessages, plainReport⟩ :=
    carryOut_run_approved found false (fun isReviewed => nomatch isReviewed) limitIsBlank patience
  rw [reviewedReport, plainReport, Option.map_map, Option.map_map]
  rfl

theorem carryOut_run_unread (missing : world.play? settings file = none) (patience : Nat) :
    (Order.run file true).carryOut world settings limitIsBlank patience =
      (Order.run file false).carryOut world settings limitIsBlank patience := by
  unfold Order.carryOut
  exact withPlay_of_no_play missing _ _

/-- The report on an approved play is the report on its performance, unless the
limit is blank. -/
theorem report_of_carryOut {statements : List Statement} {patience : Nat} {report : Report}
    (found : world.play? settings file = some statements)
    (approved : (review statements).any Remark.isError = false)
    (reported : (Order.run file true).carryOut world settings limitIsBlank patience =
      some report) :
    (limitIsBlank = true ∧ report.conclusion = .failure blankLimit) ∨
      ∃ ending messages,
        (world.production settings statements).run patience ⟨world.input⟩ = some ending ∧
          report = (Report.ofEnding ending).after messages := by
  obtain ⟨messages, isReport⟩ :=
    carryOut_run_approved found true (fun _ => approved) limitIsBlank patience
  rw [isReport] at reported
  obtain ⟨core, performed, rfl⟩ := Option.map_eq_some_iff.mp reported
  unfold World.performance at performed
  split at performed
  · rename_i blank
    cases performed
    exact Or.inl ⟨(Bool.and_eq_true_iff.mp blank).1, rfl⟩
  · obtain ⟨ending, later, ended, rfl⟩ := ending_of_perform performed
    exact Or.inr ⟨ending, _, ended, after_after messages later _⟩

end

/-! ### Sessions -/

/-- The play that an invocation is about, if the settings and the play can be
understood. -/
def World.playFor (world : World) (invocation : Invocation) (file : String) :
    Option (List Statement) :=
  match Settings.ofEnvironment world.environment with
  | .error _ => none
  | .ok standing => world.play? (invocation.settings standing) file

/-- A session that is over before any input is read: no output, exit code 1, and
the same report whatever the input. -/
def StopsAtOnce (world : World) (arguments : List String) : Prop :=
  ∃ report, report.visible = ([], .code 1) ∧
    ∀ input patience, session { world with input := input } patience arguments = some report

section

variable {world : World} {overrides : Overrides} {file : String} {arguments : List String}

theorem session_of_settings {order : Order} {standing : Settings}
    (read : Invocation.read arguments = .ok ⟨overrides, some order⟩)
    (settled : Settings.ofEnvironment world.environment = .ok standing) (patience : Nat) :
    session world patience arguments =
      order.carryOut world (Invocation.settings ⟨overrides, some order⟩ standing)
        (Invocation.limitIsBlank ⟨overrides, some order⟩) patience := by
  simp only [session, read, settled]

theorem session_of_no_settings {invocation : Invocation} {fault : NumeralFault}
    (read : Invocation.read arguments = .ok invocation)
    (unsettled : Settings.ofEnvironment world.environment = .error fault) (patience : Nat) :
    session world patience arguments = some (.failing [] (.badValue fault.message)) := by
  simp only [session, read, unsettled]

/-- Reviewing a play with errors stops a session at once. -/
theorem stopsAtOnce_of_rejected {statements : List Statement}
    (read : Invocation.read arguments = .ok ⟨overrides, some (.run file true)⟩)
    (found : world.playFor ⟨overrides, some (.run file true)⟩ file = some statements)
    (rejected : (review statements).any Remark.isError = true) :
    StopsAtOnce world arguments := by
  unfold World.playFor at found
  split at found
  · cases found
  · rename_i standing settled
    obtain ⟨report, shown, reported⟩ := carryOut_run_rejected found rejected
    refine ⟨report, shown, ?_⟩
    intro input patience
    have sameSettings :
        Settings.ofEnvironment { world with input := input }.environment = .ok standing := settled
    rw [session_of_settings read sameSettings]
    exact reported input patience

/-- Without errors a session shows the same with and without the review. -/
theorem visible_session_of_approved {plainArguments : List String}
    (read : Invocation.read arguments = .ok ⟨overrides, some (.run file true)⟩)
    (plainRead : Invocation.read plainArguments = .ok ⟨overrides, some (.run file false)⟩)
    (approved : ∀ statements,
      world.playFor ⟨overrides, some (.run file true)⟩ file = some statements →
      (review statements).any Remark.isError = false) (patience : Nat) :
    (session world patience arguments).map Report.visible =
      (session world patience plainArguments).map Report.visible := by
  cases settled : Settings.ofEnvironment world.environment with
  | error fault =>
      rw [session_of_no_settings read settled, session_of_no_settings plainRead settled]
  | ok standing =>
      rw [session_of_settings read settled, session_of_settings plainRead settled]
      cases found : world.play? (Invocation.settings ⟨overrides, some (.run file true)⟩ standing)
          file with
      | none => exact congrArg _ (carryOut_run_unread found patience)
      | some statements =>
          have noError := approved statements (by simp only [World.playFor, settled, found])
          exact visible_carryOut_run_approved found noError patience

/-- The report on an approved play is the report on its performance, which never misses a
scene. -/
theorem performance_of_session {standing : Settings} {statements : List Statement}
    {patience : Nat} {report : Report}
    (read : Invocation.read arguments = .ok ⟨overrides, some (.run file true)⟩)
    (settled : Settings.ofEnvironment world.environment = .ok standing)
    (found : world.play? (Invocation.settings ⟨overrides, some (.run file true)⟩ standing) file =
      some statements)
    (approved : (review statements).any Remark.isError = false)
    (reported : session world patience arguments = some report) :
    (overrides.stepLimit = some none ∧ report.conclusion = .failure blankLimit) ∨
      ∃ ending messages,
        (world.production (Invocation.settings ⟨overrides, some (.run file true)⟩ standing)
          statements).run patience ⟨world.input⟩ = some ending ∧
        report = (Report.ofEnding ending).after messages ∧
        ∀ tag line, ending.outcome ≠ .error ⟨.noSuchScene tag, line⟩ := by
  rw [session_of_settings read settled] at reported
  rcases report_of_carryOut found approved reported with
    ⟨blank, failed⟩ | ⟨ending, messages, ended, shown⟩
  · exact Or.inl ⟨by simpa [Invocation.limitIsBlank] using blank, failed⟩
  · have noError : ∀ remark ∈ review statements, ¬ remark.isError := by
      simpa using approved
    exact Or.inr ⟨ending, messages, ended, shown, outcome_ne_noSuchScene noError ended⟩

end

end CommandLine

open CommandLine in
/-- The verdict of a review is sound.  A play without errors never misses a scene,
however and wherever its performance starts and whoever takes its output.  A performance
that misses a scene does so in its last step, at a jump that is an error of the review.
A session that reviews a play before performing it therefore either stops at once because
of an error, or the review has no error and the session shows just what it shows without
it: the ending of the performance that the settings ask for, which never misses a scene. -/
theorem review_sound :
    (∀ {σ : Type} (provider : Provider σ) (sink : Sink σ) (limit : Option Int)
        (statements : List Statement) (start : Stand σ) (patience : Nat) (ending : Ending σ),
      let production := Production.ofStatements provider limit statements sink
      production.runFrom patience start = some ending →
      ((∀ remark ∈ review statements, ¬ remark.isError) →
        ∀ tag line, ending.outcome ≠ .error ⟨.noSuchScene tag, line⟩) ∧
      (∀ tag line, ending.outcome = .error ⟨.noSuchScene tag, line⟩ →
        ∃ last statement, production.Reaches start last ∧
          production.step last = .ended ending ∧
          statements[last.position]? = some statement ∧
          statement.action.destination? = some tag ∧
          ⟨.jump tag, statement.line⟩ ∈ (review statements).filter Remark.isError)) ∧
    (∀ (world : World) (overrides : Overrides) (file : String) (reviewing plain : List String),
      Invocation.read reviewing = .ok ⟨overrides, some (.run file true)⟩ →
      Invocation.read plain = .ok ⟨overrides, some (.run file false)⟩ →
      (∃ statements, world.playFor ⟨overrides, some (.run file true)⟩ file = some statements ∧
        (∃ remark ∈ review statements, remark.isError) ∧ StopsAtOnce world reviewing) ∨
      (∀ statements, world.playFor ⟨overrides, some (.run file true)⟩ file = some statements →
        ∀ remark ∈ review statements, ¬ remark.isError) ∧
      ∀ input patience,
        (session { world with input := input } patience reviewing).map Report.visible =
          (session { world with input := input } patience plain).map Report.visible ∧
        ∀ standing statements report,
          Settings.ofEnvironment world.environment = .ok standing →
          let settings := Invocation.settings ⟨overrides, some (.run file true)⟩ standing
          world.play? settings file = some statements →
          session { world with input := input } patience reviewing = some report →
          (overrides.stepLimit = some none ∧ report.conclusion = .failure blankLimit) ∨
            ∃ ending messages,
              (world.production settings statements).run patience ⟨input⟩ = some ending ∧
              report = (Report.ofEnding ending).after messages ∧
              ∀ tag line, ending.outcome ≠ .error ⟨.noSuchScene tag, line⟩) := by
  constructor
  · intro σ provider sink limit statements start patience ending production ended
    constructor
    · intro approved tag line
      exact outcome_ne_noSuchScene approved ended tag line
    · intro tag line missed
      obtain ⟨last, statement, reached, stepped, found, leads, remarked⟩ :=
        jumpRemark_of_noSuchScene ended missed
      exact ⟨last, statement, reached, stepped, found, leads,
        List.mem_filter.mpr ⟨remarked, rfl⟩⟩
  · intro world overrides file reviewing plain read plainRead
    by_cases isRejected : ∃ statements,
        world.playFor ⟨overrides, some (.run file true)⟩ file = some statements ∧
          (review statements).any Remark.isError = true
    · obtain ⟨statements, found, rejected⟩ := isRejected
      refine Or.inl ⟨statements, found, ?_, stopsAtOnce_of_rejected read found rejected⟩
      exact List.any_eq_true.mp rejected
    · have approved statements
          (found : world.playFor ⟨overrides, some (.run file true)⟩ file = some statements) :
          (review statements).any Remark.isError = false := by
        cases rejected : (review statements).any Remark.isError with
        | false => rfl
        | true => exact absurd ⟨statements, found, rejected⟩ isRejected
      refine Or.inr ⟨?_, ?_⟩
      · intro statements found
        simpa using approved statements found
      -- The input has no part in reading the play, so the verdict holds for all inputs.
      · refine fun input patience => ⟨?_, ?_⟩
        · refine visible_session_of_approved read plainRead ?_ patience
          exact approved
        · intro standing statements report settled settings found reported
          have isPlay : world.playFor ⟨overrides, some (.run file true)⟩ file =
              some statements := by
            simp only [World.playFor, settled, ← found, settings]
          exact @performance_of_session { world with input := input } overrides file reviewing
            standing statements patience report read settled found (approved statements isPlay)
            reported

open CommandLine in
/-- A world with a play that prints a number and then returns to a scene that does
not exist. -/
def rehearsal : World where
  environment name := if name = "SHAKESPEARE_WORDLIST_DIR" then some "words" else none
  file _ := .text
    ("P.\nAjax.\nPuck.\nAct I: a.\nScene I: a.\n[Enter Ajax and Puck]\n" ++
      "Puck: Open your heart! Let us return to scene V.")
  directory _ category := .ok <|
    match category with
    | .character => "Ajax\nPuck"
    | .secondPersonPossessive => "your"
    | _ => ""
  input := []

open CommandLine in
/-- In rehearsal the review stops the play, which would print its number without
it. -/
theorem review_sound_in_rehearsal :
    Invocation.read ["run", "play.spl", "--verify"] = .ok ⟨{}, some (.run "play.spl" true)⟩ ∧
      Invocation.read ["run", "play.spl"] = .ok ⟨{}, some (.run "play.spl" false)⟩ ∧
      (session rehearsal 9 ["run", "play.spl"]).map Report.visible = some ([48], .code 1) ∧
      StopsAtOnce rehearsal ["run", "play.spl", "--verify"] := by
  have reviewing : (Invocation.read ["run", "play.spl", "--verify"]).toOption =
      some ⟨{}, some (.run "play.spl" true)⟩ := by decide +kernel
  have plain : (Invocation.read ["run", "play.spl"]).toOption =
      some ⟨{}, some (.run "play.spl" false)⟩ := by decide +kernel
  have shown :
      (session rehearsal 9 ["run", "play.spl", "--verify"]).map Report.visible =
          some ([], .code 1) ∧
        (session rehearsal 9 ["run", "play.spl"]).map Report.visible =
          some ([48], .code 1) := by decide +kernel
  have eq_ok {invocation : Invocation} {result : Except Dismissal Invocation}
      (had : result.toOption = some invocation) : result = .ok invocation := by
    cases result with
    | error dismissal => cases had
    | ok other =>
        cases had
        rfl
  refine ⟨eq_ok reviewing, eq_ok plain, shown.2, ?_⟩
  rcases review_sound.2 rehearsal {} "play.spl" _ _ (eq_ok reviewing) (eq_ok plain) with
    ⟨_, _, _, stops⟩ | same
  · exact stops
  · have agreed := (same.2 [] 9).1
    have reviewed := shown.1.symm.trans (agreed.trans shown.2)
    cases reviewed

end Playhouse

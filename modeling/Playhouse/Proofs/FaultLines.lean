/-
Module: Playhouse.Proofs.FaultLines
Purpose: Every fault that is reported of a play points at a line of its source on which a
  token stands, whether it is found in reading or in performing.
Main exports: lineIn_of_evaluate, House.Fails.lineIn, Production.lineIn_of_ends,
  lineIn_of_readTokens, faults_point_at_tokens
-/
import Playhouse.Play
import Playhouse.Proofs.Performance
import Playhouse.Proofs.ReadingLines
import Playhouse.Proofs.Termination

namespace Playhouse

variable {allowed : Nat → Prop}

/-! ### Arithmetic -/

theorem line_of_binary {operation : BinaryOperation} {lhs rhs : Int} {line : Nat}
    {mishap : Mishap} (failed : operation.apply lhs rhs line = .error mishap) :
    mishap.line = line := by
  cases operation with
  | add | subtract | multiply => cases failed
  | divide | modulo =>
      simp only [BinaryOperation.apply] at failed
      split at failed
      · cases failed
        rfl
      · cases failed

theorem line_of_boundedPower {operation : UnaryOperation} {value power : Int} {line : Nat}
    {mishap : Mishap} (failed : boundedPower operation value power line = .error mishap) :
    mishap.line = line := by
  unfold boundedPower at failed
  split at failed
  · obtain rfl := Except.error.inj failed
    rfl
  · cases failed

theorem line_of_unary {operation : UnaryOperation} {value : Int} {line : Nat} {mishap : Mishap}
    (failed : operation.apply value line = .error mishap) : mishap.line = line := by
  cases operation with
  | twice => cases failed
  | square | cube => exact line_of_boundedPower failed
  | squareRoot =>
      simp only [UnaryOperation.apply] at failed
      split at failed
      · obtain rfl := Except.error.inj failed
        rfl
      · cases failed

/-- An expression without a value fails on one of its lines. -/
theorem lineIn_of_evaluate {store : Store} {expression : Expr} {mishap : Mishap}
    (linesIn : expression.LinesIn allowed)
    (failed : expression.evaluate store = .error mishap) : allowed mishap.line := by
  induction expression generalizing mishap with
  | character name line =>
      obtain ⟨_, rfl⟩ := unknown_of_read failed
      exact linesIn
  | number value line => cases failed
  | unary operation operand line inductionHypothesis =>
      obtain ⟨operandIn, lineIn⟩ := linesIn
      cases evaluated : operand.evaluate store with
      | error inner =>
          rw [Expr.evaluate, evaluated] at failed
          cases failed
          exact inductionHypothesis operandIn evaluated
      | ok value =>
          rw [Expr.evaluate, evaluated] at failed
          rw [line_of_unary failed]
          exact lineIn
  | binary operation lhs rhs line leftHypothesis rightHypothesis =>
      obtain ⟨lhsIn, rhsIn, lineIn⟩ := linesIn
      cases left : lhs.evaluate store with
      | error inner =>
          rw [Expr.evaluate, left] at failed
          cases failed
          exact leftHypothesis lhsIn left
      | ok leftValue =>
          cases right : rhs.evaluate store with
          | error inner =>
              rw [Expr.evaluate, left, right] at failed
              cases failed
              exact rightHypothesis rhsIn right
          | ok rightValue =>
              rw [Expr.evaluate, left, right] at failed
              rw [line_of_binary failed]
              exact lineIn
  | foreign transcript line =>
      cases failed
      exact linesIn

/-! ### Performances -/

section

variable {σ : Type}

/-- A statement fails on one of its lines. -/
theorem House.Fails.lineIn {provider : Provider σ} {sink : Sink σ} {labels : Labels}
    {house after : House σ} {statement : Statement} {mishap : Mishap}
    (fails : Fails provider sink labels house statement mishap after)
    (linesIn : statement.LinesIn allowed) : allowed mishap.line := by
  obtain ⟨actionIn, lineIn⟩ := linesIn
  cases fails with
  | scanNumber | unknown | printNumber | refused | printCharacter | pop | jump => exact lineIn
  | push action failed =>
      rw [action] at actionIn
      exact lineIn_of_evaluate actionIn failed
  | assign action failed =>
      rw [action] at actionIn
      exact lineIn_of_evaluate actionIn.1 failed
  | leftSide action failed =>
      rw [action] at actionIn
      exact lineIn_of_evaluate actionIn.1.lhs failed
  | rightSide action left failed =>
      rw [action] at actionIn
      exact lineIn_of_evaluate actionIn.1.rhs failed
  | jumpIf action left right holds nowhere =>
      rw [action] at actionIn
      exact actionIn.2

/-- A performance ends with a mishap on a line of its statements, be it the limit that
stops it. -/
theorem Production.lineIn_of_ends {provider : Provider σ} {limit : Option Int}
    {statements : List Statement} {stand : Stand σ} {ending : Ending σ} {mishap : Mishap}
    (linesIn : ∀ statement ∈ statements, statement.LinesIn allowed)
    (ends : (Production.ofStatements provider limit statements).Ends stand ending)
    (failed : ending.outcome = .error mishap) : allowed mishap.line := by
  have member {statement : Statement}
      (here : (Production.ofStatements provider limit statements).statements[stand.position]? =
        some statement) : statement ∈ statements :=
    List.mem_toArray.mp (Array.mem_of_getElem? here)
  cases ends with
  | finished past => cases failed
  | limited here isLimit exceeded =>
      obtain rfl := Except.error.inj failed
      exact (linesIn _ (member here)).line
  | failed here within fails =>
      obtain rfl := Except.error.inj failed
      exact fails.lineIn (linesIn _ (member here))

end

/-! ### Reports -/

theorem line_of_failure {mishap : Mishap} {diagnostic : Diagnostic}
    (reported : mishap.failure = .diagnosed diagnostic) : diagnostic.line = some mishap.line := by
  obtain ⟨cause, line⟩ := mishap
  unfold Mishap.failure at reported
  cases cause with
  | stepLimit limit =>
      dsimp only at reported
      split at reported
      · cases reported
        rfl
      · cases reported
  | digitLimit | noValue message | refused breakdown => cases reported
  | _ =>
      cases reported
      rfl

/-- What is reported of the lexicon is of one family. -/
theorem kind_of_lexiconFailure {fault : LexiconFault} {diagnostic : Diagnostic}
    (reported : fault.failure = .diagnosed diagnostic) : diagnostic.kind = "LexiconError" := by
  cases broken : fault.breakdown? with
  | some breakdown =>
      rw [LexiconFault.failure, broken] at reported
      cases reported
  | none =>
      rw [LexiconFault.failure, broken] at reported
      cases reported
      simp only [LexiconFault.diagnostic, LexiconFault.kind, broken, Option.map_none,
        Option.getD_none]

/-- A fault that stops a performance is reported with a line of the statements. -/
theorem lineIn_of_run {σ : Type} {provider : Provider σ} {limit : Option Int}
    {statements : List Statement} {patience : Nat} {input : σ} {ending : Ending σ}
    {diagnostic : Diagnostic} (linesIn : ∀ statement ∈ statements, statement.LinesIn allowed)
    (ended :
      (Production.ofStatements provider limit statements).run patience input = some ending)
    (reported : ending.result = .error (.diagnosed diagnostic)) :
    ∃ line, diagnostic.line = some line ∧ allowed line := by
  obtain ⟨last, _, ends⟩ := Production.reaches_of_run ended
  unfold Ending.result at reported
  split at reported
  · cases reported
  · rename_i mishap failed
    have isFailure := Except.error.inj reported
    exact ⟨mishap.line, line_of_failure isFailure, Production.lineIn_of_ends linesIn ends failed⟩

/-- A play that is not understood fails on a line of its tokens. -/
theorem lineIn_of_readTokens {vocabulary : Vocabulary} {tokens : List Token} {fault : ReadFault}
    (tokensIn : TokensIn allowed tokens)
    (failed : readTokens vocabulary tokens = .error fault) : fault.LineIn allowed := by
  obtain ⟨told, final, passed, stopped⟩ := Reading.stopsAt_of_readTokens failed
  exact Reading.lineIn_of_stopsAt (Reading.linesIn_of_passage tokensIn passed) stopped

/-- Whatever its input and its limit, a play that fails is reported with the line of one of
its tokens, which is a line of the source; only a missing word list has no line.  In a play
that is understood, the statements stand in the order of their lines, and a conditional jump
never stands before its question. -/
theorem faults_point_at_tokens (vocabulary : Vocabulary) (source : String) :
    (∀ patience limit prompter diagnostic,
      runSource vocabulary patience limit prompter source =
        some (.error (.diagnosed diagnostic)) →
      diagnostic.kind ≠ "LexiconError" →
      ∃ tokens token, tokenize vocabulary source = .ok tokens ∧ token ∈ tokens ∧
        diagnostic.line = some token.line ∧
        1 ≤ token.line ∧ token.line ≤ 1 + countNewlines source.toList) ∧
    (∀ statements, readSource vocabulary source = .ok statements →
      statements.Pairwise (fun statement later => statement.line ≤ later.line) ∧
      ∀ statement ∈ statements, ∀ question tag line,
        statement.action = .jumpIf question tag line → question.line ≤ statement.line) := by
  unfold runSource readSource
  cases cut : tokenize vocabulary source with
  | error fault =>
      refine ⟨?_, fun _ understood => nomatch understood⟩
      intro patience limit prompter diagnostic reported notLexicon
      have isReport := Except.error.inj (Option.some.inj reported)
      exact absurd (kind_of_lexiconFailure isReport) notLexicon
  | ok tokens =>
      obtain ⟨inOrder, bounds⟩ := tokenize_lines cut
      have tokensIn : TokensIn (fun line => ∃ token ∈ tokens, token.line = line) tokens :=
        fun token member => ⟨token, member, rfl⟩
      dsimp only
      cases read : readTokens vocabulary tokens with
      | error fault =>
          refine ⟨?_, fun _ understood => nomatch understood⟩
          intro patience limit prompter diagnostic reported notLexicon
          have lineIn := lineIn_of_readTokens tokensIn read
          have isReport := Except.error.inj (Option.some.inj reported)
          cases fault with
          | lexicon fault => exact absurd (kind_of_lexiconFailure isReport) notLexicon
          | parse fault =>
              obtain ⟨token, member, isLine⟩ := lineIn
              cases isReport
              exact ⟨tokens, token, rfl, member, congrArg some isLine.symm, bounds token member⟩
      | ok statements =>
          obtain ⟨final, _, passed⟩ := passage_of_readTokens read
          constructor
          · intro patience limit prompter diagnostic reported _
            obtain ⟨ending, ended, result⟩ := Option.map_eq_some_iff.mp reported
            have linesIn := (Reading.linesIn_of_passage tokensIn passed).told
            obtain ⟨line, isReported, token, member, rfl⟩ := lineIn_of_run linesIn ended result
            exact ⟨tokens, token, rfl, member, isReported, bounds token member⟩
          · rintro _ ⟨⟩
            have paced := Reading.paced_of_passage inOrder passed
            exact ⟨paced.inOrder, paced.answered⟩

/-- A play in which Ajax compares himself with Puck, and then Puck has to name a number. -/
def contest : String :=
  "P.\nPuck.\nAjax.\nAct I: a.\nScene I: a.\n[Enter Puck and Ajax]\n" ++
    "Ajax: Am I better than you?\nIf so, let us return to scene I.\nListen to your heart!"

def contestWords : Vocabulary :=
  ⟨[(.character, .ok (WordList.ofWords ["Puck", "Ajax"])),
    (.be, .ok (WordList.ofWords ["Am"])), (.firstPerson, .ok (WordList.ofWords ["I"])),
    (.secondPerson, .ok (WordList.ofWords ["you"])),
    (.positiveComparative, .ok (WordList.ofWords ["better"])),
    (.secondPersonPossessive, .ok (WordList.ofWords ["your"]))]⟩

def contestStatements : List Statement :=
  [⟨.declare "Puck", 2⟩, ⟨.declare "Ajax", 3⟩, ⟨.scene "I.I", 5⟩,
    ⟨.jumpIf ⟨.character (some "Ajax") 7, .character (some "Puck") 7, .greaterThan, 7⟩ "I.I" 8, 8⟩,
    ⟨.scanNumber "Puck", 9⟩]

/-- The report of a run, if it is one. -/
def reported? (result : Except Failure Success) : Option Diagnostic :=
  match result with
  | .error (.diagnosed diagnostic) => some diagnostic
  | _ => none

theorem eq_of_reported? {result : Except Failure Success} {diagnostic : Diagnostic}
    (reported : reported? result = some diagnostic) : result = .error (.diagnosed diagnostic) := by
  unfold reported? at reported
  split at reported
  · obtain rfl := Option.some.inj reported
    rfl
  · cases reported

/-- With no number prepared, the report names the ninth and last line. -/
theorem faults_point_at_tokens_contest :
    (∃ tokens token, tokenize contestWords contest = .ok tokens ∧ token ∈ tokens ∧
      (runSource contestWords 9 none ⟨[], []⟩ contest).bind reported? =
        some ⟨"InputExhausted", "No numeric input left", some token.line⟩ ∧
      token.line ≤ 1 + countNewlines contest.toList) ∧
    readSource contestWords contest = .ok contestStatements ∧
    contestStatements.Pairwise (fun statement later => statement.line ≤ later.line) := by
  obtain ⟨pointed, ordered⟩ := faults_point_at_tokens contestWords contest
  have read : readSource contestWords contest = .ok contestStatements :=
    Consulting.eq_ok_of_toOption (by decide +kernel)
  have reported : (runSource contestWords 9 none ⟨[], []⟩ contest).bind reported? =
      some ⟨"InputExhausted", "No numeric input left", some 9⟩ := by
    rw [runSource, read]
    decide +kernel
  refine ⟨?_, read, (ordered contestStatements read).1⟩
  obtain ⟨result, ran, isReport⟩ := Option.bind_eq_some_iff.mp reported
  rw [eq_of_reported? isReport] at ran
  obtain ⟨tokens, token, cut, member, isLine, _, below⟩ := pointed _ _ _ _ ran (by decide)
  refine ⟨tokens, token, cut, member, ?_, below⟩
  rw [reported, show some 9 = some token.line from isLine]

end Playhouse

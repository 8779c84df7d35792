/-
Module: Playhouse.Proofs.ReadingLines
Purpose: The lines of all that is read: statements, questions and faults stand on lines of
  tokens, and statements stand in the order of their lines.
Main exports: Statement.LinesIn, ReadFault.LineIn, readExpression_lines,
  Reading.part_lines, Reading.linesIn_of_passage, Reading.lineIn_of_stopsAt,
  Reading.Paced, Reading.paced_of_passage
-/
import Playhouse.Proofs.Outline
import Playhouse.Proofs.TokenLines

namespace Playhouse

/-!
Nodes and faults take their lines from tokens.  The lemmas below say so for lines of any
kind: if all tokens stand on lines that are `allowed`, then so does everything made from
them.  Whoever needs to know where a line comes from chooses the lines of some tokens.
-/

/-! ### Lines of nodes -/

section

variable (allowed : Nat → Prop)

def TokensIn (tokens : List Token) : Prop :=
  ∀ token ∈ tokens, allowed token.line

def Expr.LinesIn : Expr → Prop
  | character _ line | number _ line | foreign _ line => allowed line
  | unary _ operand line => operand.LinesIn ∧ allowed line
  | binary _ lhs rhs line => lhs.LinesIn ∧ rhs.LinesIn ∧ allowed line

structure Question.LinesIn (question : Question) : Prop where
  lhs : question.lhs.LinesIn allowed
  rhs : question.rhs.LinesIn allowed
  line : allowed question.line

def Action.LinesIn : Action → Prop
  | push _ value | remark value => value.LinesIn allowed
  | assign _ line value => value.LinesIn allowed ∧ allowed line
  | jumpIf question _ line => question.LinesIn allowed ∧ allowed line
  | ask question => question.LinesIn allowed
  | _ => True

structure Statement.LinesIn (statement : Statement) : Prop where
  action : statement.action.LinesIn allowed
  line : allowed statement.line

/-- A fault of the text stands on an allowed line; a fault of the lexicon has no line. -/
def ReadFault.LineIn : ReadFault → Prop
  | lexicon _ => True
  | parse fault => allowed fault.line

end

section

variable {allowed : Nat → Prop} {vocabulary : Vocabulary} {tokens rest : List Token} {line : Nat}

theorem TokensIn.head {token : Token} (tokensIn : TokensIn allowed (token :: rest)) :
    allowed token.line :=
  tokensIn token List.mem_cons_self

theorem TokensIn.tail {token : Token} (tokensIn : TokensIn allowed (token :: rest)) :
    TokensIn allowed rest :=
  fun other member => tokensIn other (List.mem_cons_of_mem token member)

theorem TokensIn.cons {token : Token} (headIn : allowed token.line)
    (tailIn : TokensIn allowed rest) : TokensIn allowed (token :: rest) := by
  intro other member
  rcases List.mem_cons.mp member with rfl | later
  · exact headIn
  · exact tailIn other later

theorem tokensIn_nil : TokensIn allowed [] :=
  fun _ member => (List.not_mem_nil member).elim

theorem TokensIn.left (tokensIn : TokensIn allowed (tokens ++ rest)) : TokensIn allowed tokens :=
  fun token member => tokensIn token (List.mem_append_left rest member)

theorem TokensIn.right (tokensIn : TokensIn allowed (tokens ++ rest)) : TokensIn allowed rest :=
  fun token member => tokensIn token (List.mem_append_right tokens member)

theorem TokensIn.suffix (tokensIn : TokensIn allowed tokens) (isSuffix : rest <:+ tokens) :
    TokensIn allowed rest :=
  fun token member => tokensIn token (isSuffix.mem member)

/-! ### Expressions -/

theorem categoryOf_lines (word : String) (categories : List Category) :
    (vocabulary.categoryOf word categories).Ensures (fun _ => True) (ReadFault.LineIn allowed) :=
  categoryOf_ensures word fun _ _ _ _ => trivial

theorem expectEnd_lines (tokensIn : TokensIn allowed tokens) :
    (Consulting.ofExcept (expectEnd tokens)).Ensures (fun _ => True)
      (ReadFault.LineIn allowed) := by
  cases tokens with
  | nil => exact Consulting.ensures_pure trivial
  | cons token rest => exact Consulting.ensures_fail tokensIn.head

theorem addressee_lines (company : Company) (lineIn : allowed line) :
    (Consulting.ofExcept (company.addressee line)).Ensures company.IsListener
      (ReadFault.LineIn allowed) :=
  addressee_ensures fun _ => lineIn

/-- A numeral stands on the line of one of its words. -/
theorem readNumeral_lines (word : String) (factor : Int) (lineIn : allowed line)
    (restIn : TokensIn allowed rest) :
    (readNumeral vocabulary word line factor rest).Ensures (Expr.LinesIn allowed)
      (ReadFault.LineIn allowed) := by
  induction word, line, factor, rest using readNumeral.induct with
  | case1 word line factor second secondLine afterSecond afterPair afterNoun afterOther =>
      rw [readNumeral]
      refine Consulting.ensures_bind (categoryOf_lines _ _) fun pair _ => ?_
      cases pair with
      | some category =>
          dsimp only
          split
          · exact afterPair restIn.tail.head restIn.tail.tail
          · exact Consulting.ensures_bind (expectEnd_lines restIn.tail) fun _ _ =>
              Consulting.ensures_pure lineIn
      | none =>
          refine Consulting.ensures_bind (categoryOf_lines _ _) fun single _ => ?_
          cases single with
          | some category => exact afterNoun restIn.head restIn.tail
          | none => exact afterOther restIn.head restIn.tail
  | case2 word line factor remaining noWord =>
      rw [readNumeral]
      · refine Consulting.ensures_bind (categoryOf_lines _ _) fun category _ => ?_
        exact Consulting.ensures_bind (expectEnd_lines restIn) fun _ _ =>
          Consulting.ensures_pure lineIn
      · exact noWord

/-- An expression stands on the lines of its tokens; one that is missing is missed on the
line where its sentence ends. -/
theorem readExpression_lines (company : Company) {endLine : Nat} (factor : Int)
    (endIn : allowed endLine) (tokensIn : TokensIn allowed tokens) :
    (readExpression vocabulary company endLine factor tokens).Ensures (Expr.LinesIn allowed)
      (ReadFault.LineIn allowed) := by
  induction factor, tokens using readExpression.induct with
  | case1 factor =>
      rw [readExpression]
      exact Consulting.ensures_fail endIn
  | case2 factor line rest | case3 factor line rest =>
      rw [readExpression]
      refine Consulting.ensures_bind (expectEnd_lines tokensIn.tail) fun _ _ => ?_
      exact Consulting.ensures_bind (addressee_lines company tokensIn.head) fun _ _ =>
        Consulting.ensures_pure tokensIn.head
  | case4 factor line rest | case5 factor line rest =>
      rw [readExpression]
      exact Consulting.ensures_bind (expectEnd_lines tokensIn.tail) fun _ _ =>
        Consulting.ensures_pure tokensIn.head
  | case6 factor line rest name =>
      rw [readExpression]
      refine Consulting.ensures_bind (expectEnd_lines tokensIn.tail) fun _ _ => ?_
      split
      · exact Consulting.ensures_pure tokensIn.head
      · exact Consulting.ensures_fail tokensIn.head
  | case7 factor line rest operation inner =>
      rw [readExpression]
      exact Consulting.ensures_bind (inner tokensIn.tail) fun operand operandIn =>
        Consulting.ensures_pure ⟨operandIn, tokensIn.head⟩
  | case8 factor line rest operation noSplit =>
      rw [readExpression]
      split
      · exact Consulting.ensures_fail tokensIn.head
      · rename_i found
        rw [noSplit] at found
        cases found
  | case9 factor line rest operation operands isSplit left right =>
      rw [readExpression]
      split
      · exact Consulting.ensures_fail tokensIn.head
      · rename_i others found
        obtain rfl : others = operands := Option.some.inj (found.symm.trans isSplit)
        obtain ⟨conjunctionLine, rfl⟩ := eq_append_of_splitOperands isSplit
        refine Consulting.ensures_bind (left tokensIn.tail.left) fun lhs lhsIn => ?_
        exact Consulting.ensures_bind (right tokensIn.tail.right.tail) fun rhs rhsIn =>
          Consulting.ensures_pure ⟨lhsIn, rhsIn, tokensIn.head⟩
  | case10 factor line rest inner | case11 factor line rest inner
  | case12 factor line rest inner =>
      rw [readExpression]
      exact inner tokensIn.tail
  | case13 factor line rest word =>
      rw [readExpression]
      exact readNumeral_lines word factor tokensIn.head tokensIn.tail
  | case14 factor line rest other =>
      rw [readExpression]
      · exact Consulting.ensures_fail tokensIn.head
      all_goals assumption

/-! ### Sentences and questions -/

structure Sentence.LinesIn (allowed : Nat → Prop) (sentence : Sentence) : Prop where
  words : TokensIn allowed sentence.words
  endLine : allowed sentence.endLine

structure Query.LinesIn (allowed : Nat → Prop) (query : Query) : Prop where
  lhs : TokensIn allowed query.lhs
  rhs : TokensIn allowed query.rhs
  endLine : allowed query.endLine

theorem readSentence_lines (startIn : allowed line) (tokensIn : TokensIn allowed tokens) :
    (Consulting.ofExcept (readSentence line tokens)).Ensures (Sentence.LinesIn allowed)
      (ReadFault.LineIn allowed) := by
  induction tokens with
  | nil => exact Consulting.ensures_fail startIn
  | cons token rest inductionHypothesis =>
      unfold readSentence
      split
      · exact Consulting.ensures_pure ⟨tokensIn_nil, tokensIn.head⟩
      · refine Consulting.ensures_ofExcept_bind (inductionHypothesis tokensIn.tail) ?_
        intro sentence sentenceIn
        exact Consulting.ensures_pure ⟨.cons tokensIn.head sentenceIn.words, sentenceIn.endLine⟩
      · exact Consulting.ensures_fail tokensIn.head

theorem readRightSide_lines (comparison : Comparison) (begun : Bool) (startIn : allowed line)
    (tokensIn : TokensIn allowed tokens) :
    (Consulting.ofExcept (readRightSide line comparison begun tokens)).Ensures
      (Query.LinesIn allowed) (ReadFault.LineIn allowed) := by
  induction tokens generalizing begun with
  | nil => exact Consulting.ensures_fail startIn
  | cons token rest inductionHypothesis =>
      unfold readRightSide
      split
      · exact Consulting.ensures_fail tokensIn.head
      · split
        · exact Consulting.ensures_pure ⟨tokensIn_nil, tokensIn_nil, tokensIn.head⟩
        · exact Consulting.ensures_fail tokensIn.head
      · refine Consulting.ensures_ofExcept_bind (inductionHypothesis true tokensIn.tail) ?_
        intro query queryIn
        exact Consulting.ensures_pure
          ⟨queryIn.lhs, .cons tokensIn.head queryIn.rhs, queryIn.endLine⟩
      · exact Consulting.ensures_fail tokensIn.head

theorem readLeftSide_lines (begun : Bool) (startIn : allowed line)
    (tokensIn : TokensIn allowed tokens) :
    (Consulting.ofExcept (readLeftSide line begun tokens)).Ensures (Query.LinesIn allowed)
      (ReadFault.LineIn allowed) := by
  induction tokens generalizing begun with
  | nil => exact Consulting.ensures_fail startIn
  | cons token rest inductionHypothesis =>
      unfold readLeftSide
      split
      · split
        · exact readRightSide_lines _ false startIn tokensIn.tail
        · exact Consulting.ensures_fail tokensIn.head
      · exact Consulting.ensures_fail tokensIn.head
      · refine Consulting.ensures_ofExcept_bind (inductionHypothesis true tokensIn.tail) ?_
        intro query queryIn
        exact Consulting.ensures_pure
          ⟨.cons tokensIn.head queryIn.lhs, queryIn.rhs, queryIn.endLine⟩
      · exact Consulting.ensures_fail tokensIn.head

end

/-! ### Parts -/

namespace Reading

/-- What a part yields on allowed lines: its statement and the question that waits. -/
structure YieldsIn (allowed : Nat → Prop) (yielded : Option Statement × Reading) : Prop where
  statement : ∀ made ∈ yielded.1, made.LinesIn allowed
  question : ∀ asked ∈ yielded.2.question, asked.LinesIn allowed

section

variable {allowed : Nat → Prop} {vocabulary : Vocabulary} {reading : Reading} {token : Token}
  {rest : List Token} {line : Nat}

theorem silent_lines (questionIn : ∀ asked ∈ reading.question, asked.LinesIn allowed) :
    (silent reading).Ensures (YieldsIn allowed) (ReadFault.LineIn allowed) :=
  Consulting.ensures_pure ⟨(fun _ isMade => nomatch isMade), questionIn⟩

theorem stating_lines {action : Action} (actionIn : action.LinesIn allowed)
    (lineIn : allowed line)
    (questionIn : ∀ asked ∈ reading.question, asked.LinesIn allowed) :
    (stating action line reading).Ensures (YieldsIn allowed) (ReadFault.LineIn allowed) := by
  refine Consulting.ensures_pure ⟨?_, questionIn⟩
  rintro _ ⟨⟩
  exact ⟨actionIn, lineIn⟩

variable (questionIn : ∀ asked ∈ reading.question, asked.LinesIn allowed)

include questionIn

theorem readTitle_lines (tokensIn : TokensIn allowed (token :: rest)) :
    (reading.readTitle (token :: rest)).Ensures (YieldsIn allowed)
      (ReadFault.LineIn allowed) := by
  unfold readTitle
  split
  · exact silent_lines questionIn
  · apply Consulting.ensures_fail
    rw [List.getLast?_eq_some_getLast (List.cons_ne_nil token rest)]
    exact tokensIn _ (List.getLast_mem _)

theorem readDeclaration_lines (headIn : allowed token.line) :
    (reading.readDeclaration token rest).Ensures (YieldsIn allowed)
      (ReadFault.LineIn allowed) := by
  unfold readDeclaration
  split
  · split
    · exact stating_lines trivial headIn questionIn
    · exact Consulting.ensures_fail headIn
  · exact Consulting.ensures_fail headIn

theorem readAct_lines (headIn : allowed token.line) :
    (reading.readAct token rest).Ensures (YieldsIn allowed) (ReadFault.LineIn allowed) := by
  unfold readAct
  split
  · exact silent_lines questionIn
  · exact Consulting.ensures_fail headIn

theorem readScene_lines (headIn : allowed token.line) :
    (reading.readScene token rest).Ensures (YieldsIn allowed) (ReadFault.LineIn allowed) := by
  unfold readScene
  split
  · exact stating_lines trivial headIn questionIn
  · exact Consulting.ensures_fail headIn

theorem readDirection_lines (headIn : allowed token.line) :
    (reading.readDirection token rest).Ensures (YieldsIn allowed)
      (ReadFault.LineIn allowed) := by
  unfold readDirection
  split
  · split
    · exact silent_lines questionIn
    · exact Consulting.ensures_fail headIn
  · exact silent_lines questionIn
  · split
    · exact silent_lines questionIn
    · exact Consulting.ensures_fail headIn
  · exact Consulting.ensures_fail headIn

theorem readSpeaker_lines (headIn : allowed token.line) :
    (reading.readSpeaker token rest).Ensures (YieldsIn allowed) (ReadFault.LineIn allowed) := by
  unfold readSpeaker
  split
  · exact Consulting.ensures_fail headIn
  · split
    · split
      · exact silent_lines questionIn
      · exact Consulting.ensures_fail headIn
    · exact Consulting.ensures_fail headIn

/-! ### Sentences of a speech -/

theorem readAddress_lines {action : String → Action}
    (plain : ∀ name, (action name).LinesIn allowed) (lineIn : allowed line) :
    (reading.readAddress line rest action).Ensures (YieldsIn allowed)
      (ReadFault.LineIn allowed) :=
  Consulting.ensures_bind (addressee_lines _ lineIn) fun name _ =>
    stating_lines (plain name) lineIn questionIn

theorem readPush_lines (lineIn : allowed line) (restIn : TokensIn allowed rest) :
    (readPush vocabulary reading line rest).Ensures (YieldsIn allowed)
      (ReadFault.LineIn allowed) := by
  refine Consulting.ensures_bind (readSentence_lines lineIn restIn) fun sentence said => ?_
  refine Consulting.ensures_bind (readExpression_lines _ 1 said.endLine said.words) ?_
  intro value valueIn
  exact Consulting.ensures_bind (addressee_lines _ lineIn) fun name _ =>
    stating_lines valueIn lineIn questionIn

theorem readConditionalJump_lines (affirmed : Bool) (target : String) (lineIn : allowed line) :
    (reading.readConditionalJump affirmed target line rest).Ensures (YieldsIn allowed)
      (ReadFault.LineIn allowed) := by
  unfold readConditionalJump
  split
  · exact Consulting.ensures_fail lineIn
  · rename_i question asked
    obtain ⟨lhsIn, rhsIn, askedIn⟩ := questionIn question asked
    have testIn : (if affirmed then question else question.negated).LinesIn allowed := by
      cases affirmed
      · exact ⟨lhsIn, rhsIn, askedIn⟩
      · exact ⟨lhsIn, rhsIn, askedIn⟩
    exact stating_lines ⟨testIn, lineIn⟩ lineIn (fun _ isAsked => nomatch isAsked)

omit questionIn in
theorem afterIntroduction_lines (restIn : TokensIn allowed rest) :
    (Consulting.ofExcept (afterIntroduction rest)).Ensures (TokensIn allowed)
      (ReadFault.LineIn allowed) := by
  unfold afterIntroduction
  split
  · split
    · exact Consulting.ensures_pure restIn.tail.tail
    · exact Consulting.ensures_fail restIn.tail.head
  · exact Consulting.ensures_pure restIn.tail
  · exact Consulting.ensures_pure restIn

theorem readAssignment_lines (lineIn : allowed line) (restIn : TokensIn allowed rest) :
    (readAssignment vocabulary reading line rest).Ensures (YieldsIn allowed)
      (ReadFault.LineIn allowed) := by
  refine Consulting.ensures_bind (addressee_lines _ lineIn) fun name _ => ?_
  refine Consulting.ensures_bind (afterIntroduction_lines restIn) fun tokens tokensIn => ?_
  refine Consulting.ensures_bind (readSentence_lines lineIn tokensIn) fun sentence said => ?_
  refine Consulting.ensures_bind (readExpression_lines _ 1 said.endLine said.words) ?_
  intro value valueIn
  exact stating_lines ⟨valueIn, lineIn⟩ lineIn questionIn

omit questionIn in
theorem readQuestion_lines (lineIn : allowed line) (restIn : TokensIn allowed rest) :
    (readQuestion vocabulary reading line rest).Ensures (YieldsIn allowed)
      (ReadFault.LineIn allowed) := by
  unfold readQuestion
  split
  · exact Consulting.ensures_fail lineIn
  · refine Consulting.ensures_bind (readLeftSide_lines false lineIn restIn) fun query queried => ?_
    refine Consulting.ensures_bind (readExpression_lines _ 1 queried.endLine queried.lhs) ?_
    intro lhs lhsIn
    refine Consulting.ensures_bind (readExpression_lines _ 1 queried.endLine queried.rhs) ?_
    intro rhs rhsIn
    apply silent_lines
    rintro _ ⟨⟩
    exact ⟨lhsIn, rhsIn, lineIn⟩

theorem readDialogue_lines (tokensIn : TokensIn allowed (token :: rest)) :
    (readDialogue vocabulary reading token rest).Ensures (YieldsIn allowed)
      (ReadFault.LineIn allowed) := by
  have headIn := tokensIn.head
  unfold readDialogue
  split
  case h_6 => exact readPush_lines questionIn headIn tokensIn.tail
  case h_7 => exact stating_lines trivial headIn questionIn
  case h_8 => exact readConditionalJump_lines questionIn _ _ headIn
  case h_9 => exact readAssignment_lines questionIn headIn tokensIn.tail
  case h_10 => exact readQuestion_lines headIn tokensIn.tail
  case h_11 => exact Consulting.ensures_fail headIn
  all_goals exact readAddress_lines questionIn (fun _ => trivial) headIn

/-- A part takes all its lines from tokens that are left and from the question that
waits. -/
theorem part_lines (tokensIn : TokensIn allowed reading.rest) :
    (part vocabulary reading).Ensures (YieldsIn allowed) (ReadFault.LineIn allowed) := by
  unfold part
  split
  · exact silent_lines questionIn
  · rename_i token rest here
    rw [here] at tokensIn
    split
    case h_1 => exact silent_lines questionIn
    case h_2 => exact readTitle_lines questionIn tokensIn
    case h_3 => exact readDeclaration_lines questionIn tokensIn.head
    case h_4 => exact readAct_lines questionIn tokensIn.head
    case h_5 => exact readScene_lines questionIn tokensIn.head
    case h_6 => exact readDirection_lines questionIn tokensIn.head
    case h_7 => exact readSpeaker_lines questionIn tokensIn.head
    case h_8 => exact readDialogue_lines questionIn tokensIn

end

/-! ### Whole readings -/

section

variable {allowed : Nat → Prop} {next : NextStates} {vocabulary : Vocabulary}
  {start before after reading : Reading} {told : List Statement} {statement : Option Statement}
  {tokens : List Token} {fault : ReadFault}

/-- A reading all of whose lines are allowed, those told and those still before it. -/
structure LinesIn (allowed : Nat → Prop) (told : List Statement) (reading : Reading) : Prop where
  rest : TokensIn allowed reading.rest
  question : ∀ asked ∈ reading.question, asked.LinesIn allowed
  told : ∀ statement ∈ told, statement.LinesIn allowed

theorem LinesIn.turn (linesIn : LinesIn allowed told before)
    (turned : Turn next vocabulary before statement after) :
    LinesIn allowed (told ++ statement.toList) after := by
  obtain @⟨middle, transition, unfinished, read, advanced⟩ := turned
  obtain ⟨target, rfl, _⟩ := advance_follows advanced
  have yields := (part_lines linesIn.question linesIn.rest).ok read
  refine ⟨linesIn.rest.suffix (reads_of_part unfinished read).suffix, yields.question, ?_⟩
  intro made member
  rcases List.mem_append.mp member with earlier | isMade
  · exact linesIn.told made earlier
  · exact yields.statement made (Option.mem_toList.mp isMade)

/-- Every statement told on a passage stands on lines of the tokens. -/
theorem linesIn_of_passage (tokensIn : TokensIn allowed tokens)
    (passed : Passage next vocabulary (ofTokens tokens) told reading) :
    LinesIn allowed told reading := by
  induction passed with
  | here => exact ⟨tokensIn, (fun _ isAsked => nomatch isAsked), fun _ member => nomatch member⟩
  | turn passed turned inductionHypothesis => exact inductionHypothesis.turn turned

theorem line_of_nextState {state : State} {token : Token} {fault : ParseFault}
    (failed : nextState next state token = .error fault) : fault.line = token.line := by
  unfold nextState at failed
  split at failed
  · cases failed
    rfl
  · cases failed
  · cases failed
    rfl

/-- A reading that stops does so on a line of the tokens. -/
theorem lineIn_of_stopsAt (linesIn : LinesIn allowed told reading)
    (stopped : StopsAt next vocabulary reading fault) : fault.LineIn allowed := by
  cases stopped with
  | part unfinished failed => exact (part_lines linesIn.question linesIn.rest).error failed
  | advance unfinished read failed =>
      obtain ⟨token, rest, here, unchosen⟩ := nextState_of_advance_error failed
      have restIn := linesIn.rest.suffix (reads_of_part unfinished read).suffix
      rw [here] at restIn
      rw [ReadFault.LineIn, line_of_nextState unchosen]
      exact restIn.head

end

/-! ### The order of lines -/

section

variable {next : NextStates} {vocabulary : Vocabulary} {before after reading : Reading}
  {told : List Statement} {statement : Option Statement} {token : Token}
  {tokens rest : List Token}

/-- A part starts with the token before it: on its line stand the statement and a question
that is asked.  A conditional jump tests the question that waits, negated or not. -/
theorem Reads.line_of_head (read : Reads vocabulary reading statement after)
    (here : reading.rest = token :: rest) :
    (∀ made ∈ statement, made.line = token.line ∧
      ∀ question tag line, made.action = .jumpIf question tag line →
        ∃ asked ∈ reading.question, asked.line = question.line) ∧
    ∀ asked ∈ after.question, asked ∈ reading.question ∨ asked.line = token.line := by
  cases read with
  | start | title | act | enter | exeunt | exit | speaker =>
      exact ⟨(fun _ isMade => nomatch isMade), fun _ isAsked => Or.inl isAsked⟩
  | declaration state isHere | scene state isHere | push state isHere | jump state isHere
  | assignment state isHere =>
      obtain ⟨rfl, _⟩ := List.cons.inj (here.symm.trans isHere)
      refine ⟨?_, fun _ isAsked => Or.inl isAsked⟩
      rintro _ ⟨⟩
      exact ⟨rfl, fun _ _ _ isJump => nomatch isJump⟩
  | @address kind action line tail name state isHere isAddress listens =>
      obtain ⟨rfl, _⟩ := List.cons.inj (here.symm.trans isHere)
      refine ⟨?_, fun _ isAsked => Or.inl isAsked⟩
      rintro _ ⟨⟩
      refine ⟨rfl, fun question tag jumpLine isJump => ?_⟩
      cases kind <;> cases isAddress <;> cases isJump
  | @conditionalJump affirmed target line tail question state isHere asked =>
      obtain ⟨rfl, _⟩ := List.cons.inj (here.symm.trans isHere)
      refine ⟨?_, fun _ isAsked => nomatch isAsked⟩
      rintro _ ⟨⟩
      refine ⟨rfl, fun tested tag jumpLine isJump => ⟨question, asked, ?_⟩⟩
      cases isJump
      cases affirmed <;> rfl
  | question state isHere =>
      obtain ⟨rfl, _⟩ := List.cons.inj (here.symm.trans isHere)
      refine ⟨(fun _ isMade => nomatch isMade), ?_⟩
      rintro _ ⟨⟩
      exact Or.inr rfl

/-- A reading in the order of lines: the statements told and the question that waits stand
before the tokens that are left, and every conditional jump behind its question. -/
structure Paced (told : List Statement) (reading : Reading) : Prop where
  ahead : InLineOrder reading.rest
  inOrder : told.Pairwise fun statement later => statement.line ≤ later.line
  behind : ∀ statement ∈ told, ∀ token ∈ reading.rest, statement.line ≤ token.line
  asked : ∀ question ∈ reading.question, ∀ token ∈ reading.rest, question.line ≤ token.line
  answered : ∀ statement ∈ told, ∀ question tag line,
    statement.action = .jumpIf question tag line → question.line ≤ statement.line

theorem paced_ofTokens (inOrder : InLineOrder tokens) : Paced [] (ofTokens tokens) where
  ahead := inOrder
  inOrder := .nil
  behind _ member := nomatch member
  asked _ isAsked := nomatch isAsked
  answered _ member := nomatch member

theorem Paced.turn (paced : Paced told before)
    (turned : Turn next vocabulary before statement after) :
    Paced (told ++ statement.toList) after := by
  obtain @⟨middle, transition, unfinished, read, advanced⟩ := turned
  obtain ⟨target, rfl, _⟩ := advance_follows advanced
  have reads := reads_of_part unfinished read
  obtain ⟨token, rest, here⟩ := List.exists_cons_of_ne_nil unfinished
  obtain ⟨made, asked⟩ := reads.line_of_head here
  -- The first token comes before all that are left.
  have first : ∀ later ∈ middle.rest, token.line ≤ later.line := by
    intro later member
    have ahead := paced.ahead
    rw [here] at ahead
    rcases List.mem_cons.mp (here ▸ reads.suffix.mem member) with rfl | behind
    · exact Nat.le_refl _
    · exact List.rel_of_pairwise_cons ahead behind
  have present : token ∈ before.rest := by
    rw [here]
    exact List.mem_cons_self
  constructor
  · exact paced.ahead.sublist reads.suffix.sublist
  · refine List.pairwise_append.mpr ⟨paced.inOrder, ?_, ?_⟩
    · cases statement <;> simp
    · intro earlier isEarlier later isLater
      rw [(made later (Option.mem_toList.mp isLater)).1]
      exact paced.behind earlier isEarlier token present
  · intro earlier member later isLater
    rcases List.mem_append.mp member with isEarlier | isMade
    · exact paced.behind earlier isEarlier later (reads.suffix.mem isLater)
    · rw [(made earlier (Option.mem_toList.mp isMade)).1]
      exact first later isLater
  · intro question isAsked later isLater
    rcases asked question isAsked with waiting | sameLine
    · exact paced.asked question waiting later (reads.suffix.mem isLater)
    · rw [sameLine]
      exact first later isLater
  · intro jump member question tag line isJump
    rcases List.mem_append.mp member with isEarlier | isMade
    · exact paced.answered jump isEarlier question tag line isJump
    · obtain ⟨sameLine, tests⟩ := made jump (Option.mem_toList.mp isMade)
      obtain ⟨waiting, isWaiting, sameQuestion⟩ := tests question tag line isJump
      rw [sameLine, ← sameQuestion]
      exact paced.asked waiting isWaiting token present

/-- Statements told on a passage stand in the order of their lines. -/
theorem paced_of_passage (inOrder : InLineOrder tokens)
    (passed : Passage next vocabulary (ofTokens tokens) told reading) : Paced told reading := by
  induction passed with
  | here => exact paced_ofTokens inOrder
  | turn passed turned inductionHypothesis => exact inductionHypothesis.turn turned

end

end Reading

end Playhouse

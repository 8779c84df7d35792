/-
Module: Playhouse.Proofs.Sequel
Purpose: What follows in a play changes nothing in what has been read of it: statements
  stay in front, and a fault stays unless it was the want of further tokens.
Main exports: ParseCause.isUnfinished, Stands, Reading.stands_part, Reading.advance_followedBy,
  Reading.keeps_course, sequels_change_nothing
-/
import Playhouse.Proofs.Passage

namespace Playhouse

/-!
Every reader takes its tokens from the left and stops behind the mark that ends its
sentence.  With more tokens behind that mark it reads what it read before and refuses what
it refused before.  The one exception is a reader that ran out of tokens before it found
the mark: what it would have found is for the further tokens to say.
-/

/-! ### Results that stand -/

/-- Whether all that is wrong is that the tokens ended before the mark. -/
def ParseCause.isUnfinished : ParseCause → Bool
  | titleUnfinished | declarationUnfinished _ | questionUnfinished | sentenceUnfinished => true
  | _ => false

def ParseFault.isUnfinished (fault : ParseFault) : Bool :=
  fault.cause.isUnfinished

def ReadFault.isUnfinished : ReadFault → Bool
  | lexicon _ => false
  | parse fault => fault.isUnfinished

/-- A result that stands after further tokens: its value is the same but for what is left
to read, and its fault is the same unless it was the want of those tokens. -/
inductive Stands {α ε : Type} (isOpen : ε → Bool) (extend : α → α) :
    Except ε α → Except ε α → Prop where
  | ok (value : α) : Stands isOpen extend (.ok value) (.ok (extend value))
  | error (fault : ε) : Stands isOpen extend (.error fault) (.error fault)
  | unfinished {fault : ε} (wanting : isOpen fault = true) (result : Except ε α) :
      Stands isOpen extend (.error fault) result

section

variable {α β : Type} {extend : α → α} {extendLater : β → β}

/-- What does not look at the tokens left to read stands. -/
theorem stands_id {ε : Type} {isOpen : ε → Bool} (result : Except ε α) :
    Stands isOpen id result result := by
  cases result with
  | ok value => exact .ok value
  | error fault => exact .error fault

theorem Stands.bind {ε : Type} {isOpen : ε → Bool} {first firstLonger : Except ε α}
    {second secondLonger : α → Except ε β} (stands : Stands isOpen extend first firstLonger)
    (secondStands : ∀ value,
      Stands isOpen extendLater (second value) (secondLonger (extend value))) :
    Stands isOpen extendLater (first >>= second) (firstLonger >>= secondLonger) := by
  cases stands with
  | ok value => exact secondStands value
  | error fault => exact .error fault
  | unfinished wanting => exact .unfinished wanting _

namespace Consulting

/-- A computation whose outcome stands after further tokens. -/
def Stands (extend : α → α) (computation longer : Consulting α) : Prop :=
  Playhouse.Stands ReadFault.isUnfinished extend computation.outcome longer.outcome

theorem stands_pure (value : α) : Stands extend (pure value) (pure (extend value)) :=
  .ok value

theorem stands_fail (cause : ParseCause) (line : Nat) :
    Stands extend (fail cause line) (fail cause line) :=
  .error _

theorem stands_ofExcept {result longer : Except ParseFault α}
    (stands : Playhouse.Stands ParseFault.isUnfinished extend result longer) :
    Stands extend (ofExcept result) (ofExcept longer) := by
  cases stands with
  | ok value => exact stands_pure value
  | error fault => exact stands_fail fault.cause fault.line
  | @unfinished fault wanting =>
      have stillWanting : (ReadFault.parse fault).isUnfinished = true := wanting
      exact .unfinished stillWanting _

theorem stands_bind {first firstLonger : Consulting α} {second secondLonger : α → Consulting β}
    (stands : Stands extend first firstLonger)
    (secondStands : ∀ value,
      Stands extendLater (second value) (secondLonger (extend value))) :
    Stands extendLater (first >>= second) (firstLonger >>= secondLonger) := by
  unfold Stands at stands ⊢
  rw [outcome_bind, outcome_bind]
  generalize first.outcome = result at stands ⊢
  generalize firstLonger.outcome = longer at stands ⊢
  cases stands with
  | ok value => exact secondStands value
  | error fault => exact .error fault
  | unfinished wanting => exact .unfinished wanting _

/-- What follows a computation that does not look at the tokens left to read. -/
theorem stands_then {first : Consulting α} {second secondLonger : α → Consulting β}
    (secondStands : ∀ value, Stands extendLater (second value) (secondLonger value)) :
    Stands extendLater (first >>= second) (first >>= secondLonger) :=
  stands_bind (stands_id first.outcome) secondStands

end Consulting

end

open Consulting

/-! ### Sentences and questions -/

variable (more : List Token)

theorem afterPunctuation?_append {tokens rest : List Token}
    (found : afterPunctuation? tokens = some rest) :
    afterPunctuation? (tokens ++ more) = some (rest ++ more) := by
  induction tokens with
  | nil => cases found
  | cons token others inductionHypothesis =>
      rw [List.cons_append, afterPunctuation?]
      rw [afterPunctuation?] at found
      split at found
      · rename_i isMark
        cases found
        rw [if_pos isMark]
      · rename_i noMark
        rw [if_neg noMark]
        exact inductionHypothesis found

/-- A sentence with more tokens behind it. -/
def Sentence.followedBy (sentence : Sentence) : Sentence :=
  { sentence with rest := sentence.rest ++ more }

/-- A question with more tokens behind it. -/
def Query.followedBy (query : Query) : Query :=
  { query with rest := query.rest ++ more }

theorem stands_readSentence (startLine : Nat) (tokens : List Token) :
    Stands ParseFault.isUnfinished (Sentence.followedBy more) (readSentence startLine tokens)
      (readSentence startLine (tokens ++ more)) := by
  induction tokens with
  | nil => exact .unfinished rfl _
  | cons token rest inductionHypothesis =>
      rw [List.cons_append, readSentence, readSentence]
      split
      · exact .ok _
      · exact inductionHypothesis.bind fun sentence => .ok _
      · exact .error _

theorem stands_readRightSide (startLine : Nat) (comparison : Comparison) (begun : Bool)
    (tokens : List Token) :
    Stands ParseFault.isUnfinished (Query.followedBy more)
      (readRightSide startLine comparison begun tokens)
      (readRightSide startLine comparison begun (tokens ++ more)) := by
  induction tokens generalizing begun with
  | nil => exact .unfinished rfl _
  | cons token rest inductionHypothesis =>
      rw [List.cons_append, readRightSide, readRightSide]
      split
      · exact .error _
      · split
        · exact .ok _
        · exact .error _
      · exact (inductionHypothesis true).bind fun query => .ok _
      · exact .error _

theorem stands_readLeftSide (startLine : Nat) (begun : Bool) (tokens : List Token) :
    Stands ParseFault.isUnfinished (Query.followedBy more) (readLeftSide startLine begun tokens)
      (readLeftSide startLine begun (tokens ++ more)) := by
  induction tokens generalizing begun with
  | nil => exact .unfinished rfl _
  | cons token rest inductionHypothesis =>
      rw [List.cons_append, readLeftSide, readLeftSide]
      split
      · split
        · exact stands_readRightSide more startLine _ false rest
        · exact .error _
      · exact .error _
      · exact (inductionHypothesis true).bind fun query => .ok _
      · exact .error _

namespace Reading

/-- An introduction stands once something behind it has been seen. -/
theorem stands_afterIntroduction {tokens : List Token}
    (begun : afterIntroduction tokens ≠ .ok []) :
    Stands ParseFault.isUnfinished (· ++ more) (afterIntroduction tokens)
      (afterIntroduction (tokens ++ more)) := by
  generalize introduced : afterIntroduction tokens = result at begun ⊢
  unfold afterIntroduction at introduced
  split at introduced
  · rename_i comparison line rest
    split at introduced
    · rename_i equal
      subst introduced equal
      exact .ok rest
    · rename_i unequal
      subst introduced
      rw [List.cons_append, List.cons_append, afterIntroduction, if_neg unequal]
      exact .error _
  · rename_i rest notCompared
    subst introduced
    cases rest with
    | nil => exact absurd rfl begun
    | cons token others =>
        rw [List.cons_append, List.cons_append, afterIntroduction]
        · exact .ok (token :: others)
        · intro comparison line behind compares
          cases compares
          exact notCompared _ _ _ rfl
  · rename_i notCompared notBe
    subst introduced
    cases tokens with
    | nil => exact absurd rfl begun
    | cons token others =>
        rw [List.cons_append, afterIntroduction]
        · exact .ok (token :: others)
        · intro beLine comparison line behind compares
          obtain ⟨rfl, -⟩ := List.cons.inj compares
          exact notBe _ _ rfl
        · intro beLine behind introduced
          cases introduced
          exact notBe _ _ rfl

/-! ### Parts -/

variable {vocabulary : Vocabulary} (reading : Reading)

/-- A reading with more tokens behind those that it has left. -/
def followedBy : Reading :=
  { reading with rest := reading.rest ++ more }

/-- What a part yields, with more tokens behind. -/
def yieldedBefore (yielded : Option Statement × Reading) : Option Statement × Reading :=
  (yielded.1, yielded.2.followedBy more)

/-- A part that stands after further tokens. -/
abbrev PartStands (part longer : Part) : Prop :=
  Consulting.Stands (yieldedBefore more) part longer

theorem stands_readTitle (tokens : List Token) :
    PartStands more (reading.readTitle tokens)
      ((reading.followedBy more).readTitle (tokens ++ more)) := by
  unfold readTitle
  cases found : afterPunctuation? tokens with
  | some rest =>
      rw [afterPunctuation?_append more found]
      exact stands_pure _
  | none => exact .unfinished rfl _

theorem stands_readDeclaration (token : Token) (rest : List Token) :
    PartStands more (reading.readDeclaration token rest)
      ((reading.followedBy more).readDeclaration token (rest ++ more)) := by
  unfold readDeclaration
  split
  · cases found : afterPunctuation? rest with
    | some after =>
        rw [afterPunctuation?_append more found]
        exact stands_pure _
    | none => exact .unfinished rfl _
  · exact stands_fail _ _

theorem stands_readAct (token : Token) (rest : List Token) :
    PartStands more (reading.readAct token rest)
      ((reading.followedBy more).readAct token (rest ++ more)) := by
  unfold readAct
  split
  · exact stands_pure _
  · exact stands_fail _ _

theorem stands_readScene (token : Token) (rest : List Token) :
    PartStands more (reading.readScene token rest)
      ((reading.followedBy more).readScene token (rest ++ more)) := by
  unfold readScene
  split
  · exact stands_pure _
  · exact stands_fail _ _

theorem stands_readDirection (token : Token) (rest : List Token) :
    PartStands more (reading.readDirection token rest)
      ((reading.followedBy more).readDirection token (rest ++ more)) := by
  have sameCompany : (reading.followedBy more).company = reading.company := rfl
  unfold readDirection
  rw [sameCompany]
  split
  · split
    · exact stands_pure _
    · exact stands_fail _ _
  · exact stands_pure _
  · split
    · exact stands_pure _
    · exact stands_fail _ _
  · exact stands_fail _ _

theorem stands_readSpeaker (token : Token) (rest : List Token) :
    PartStands more (reading.readSpeaker token rest)
      ((reading.followedBy more).readSpeaker token (rest ++ more)) := by
  have sameCompany : (reading.followedBy more).company = reading.company := rfl
  unfold readSpeaker
  rw [sameCompany]
  split
  · exact stands_fail _ _
  · split
    · split
      · exact stands_pure _
      · exact stands_fail _ _
    · exact stands_fail _ _

theorem stands_readAddress (line : Nat) (rest : List Token) (action : String → Action) :
    PartStands more (reading.readAddress line rest action)
      ((reading.followedBy more).readAddress line (rest ++ more) action) :=
  stands_then fun _ => stands_pure _

theorem stands_readPush (line : Nat) (rest : List Token) :
    PartStands more (readPush vocabulary reading line rest)
      (readPush vocabulary (reading.followedBy more) line (rest ++ more)) := by
  apply stands_bind (stands_ofExcept (stands_readSentence more line rest))
  intro sentence
  exact stands_then fun _ => stands_then fun _ => stands_pure _

theorem stands_readConditionalJump (affirmed : Bool) (target : String) (line : Nat)
    (rest : List Token) :
    PartStands more (reading.readConditionalJump affirmed target line rest)
      ((reading.followedBy more).readConditionalJump affirmed target line (rest ++ more)) := by
  have sameQuestion : (reading.followedBy more).question = reading.question := rfl
  unfold readConditionalJump
  rw [sameQuestion]
  split
  · exact stands_fail _ _
  · exact stands_pure _

/-- An introduced sentence stands.  Behind a bare introduction the sentence has not begun,
so that nothing is settled by the further tokens. -/
theorem stands_introduced {use useLonger : Sentence → Part} (line : Nat) (tokens : List Token)
    (stands : ∀ sentence, PartStands more (use sentence) (useLonger (sentence.followedBy more))) :
    PartStands more
      (do
        let words ← ofExcept (afterIntroduction tokens)
        let sentence ← ofExcept (readSentence line words)
        use sentence)
      (do
        let words ← ofExcept (afterIntroduction (tokens ++ more))
        let sentence ← ofExcept (readSentence line words)
        useLonger sentence) := by
  by_cases unbegun : afterIntroduction tokens = .ok []
  · rw [unbegun]
    exact .unfinished rfl _
  · apply stands_bind (stands_ofExcept (stands_afterIntroduction more unbegun))
    intro words
    exact stands_bind (stands_ofExcept (stands_readSentence more line words)) stands

theorem stands_readAssignment (line : Nat) (rest : List Token) :
    PartStands more (readAssignment vocabulary reading line rest)
      (readAssignment vocabulary (reading.followedBy more) line (rest ++ more)) := by
  apply stands_then
  intro name
  apply stands_introduced
  intro sentence
  exact stands_then fun _ => stands_pure _

theorem stands_readQuestion (line : Nat) (rest : List Token) :
    PartStands more (readQuestion vocabulary reading line rest)
      (readQuestion vocabulary (reading.followedBy more) line (rest ++ more)) := by
  have sameQuestion : (reading.followedBy more).question = reading.question := rfl
  unfold readQuestion
  rw [sameQuestion]
  split
  · exact stands_fail _ _
  · apply stands_bind (stands_ofExcept (stands_readLeftSide more line false rest))
    intro query
    exact stands_then fun _ => stands_then fun _ => stands_pure _

theorem stands_readDialogue (token : Token) (rest : List Token) :
    PartStands more (readDialogue vocabulary reading token rest)
      (readDialogue vocabulary (reading.followedBy more) token (rest ++ more)) := by
  unfold readDialogue
  split
  · exact reading.stands_readAddress more token.line rest _
  · exact reading.stands_readAddress more token.line rest _
  · exact reading.stands_readAddress more token.line rest _
  · exact reading.stands_readAddress more token.line rest _
  · exact reading.stands_readAddress more token.line rest _
  · exact reading.stands_readPush more token.line rest
  · exact stands_pure _
  · exact reading.stands_readConditionalJump more _ _ token.line rest
  · exact reading.stands_readAssignment more token.line rest
  · exact reading.stands_readQuestion more token.line rest
  · exact stands_fail _ _

/-- A part that has tokens to read stands. -/
theorem stands_part (vocabulary : Vocabulary) {reading : Reading}
    (unfinished : reading.rest ≠ []) :
    PartStands more (part vocabulary reading) (part vocabulary (reading.followedBy more)) := by
  obtain ⟨state, act, scene, company, question, tokens⟩ := reading
  cases tokens with
  | nil => exact absurd rfl unfinished
  | cons token rest =>
      cases state with
      | start => exact stands_pure _
      | title => exact stands_readTitle more _ (token :: rest)
      | characterDeclaration => exact stands_readDeclaration more _ token rest
      | act => exact stands_readAct more _ token rest
      | scene => exact stands_readScene more _ token rest
      | stage => exact stands_readDirection more _ token rest
      | characterSpeaking => exact stands_readSpeaker more _ token rest
      | dialogue => exact stands_readDialogue more _ token rest

/-! ### Courses -/

/-- The decision on the next part is made by the first token left. -/
theorem advance_followedBy (next : NextStates) {reading : Reading}
    (unfinished : reading.rest ≠ []) :
    advance next (reading.followedBy more) =
      (advance next reading).map fun advanced => (advanced.1.followedBy more, advanced.2) := by
  obtain ⟨state, act, scene, company, question, tokens⟩ := reading
  cases tokens with
  | nil => exact absurd rfl unfinished
  | cons token rest =>
      simp only [advance, followedBy, List.cons_append]
      split
      · rfl
      · rfl
      · split
        · rfl
        · cases nextState next state token <;> rfl

/-- What is told of a play that goes on: no less than was told before, or a fault; and a
fault that was found before, unless it was the want of more. -/
inductive Keeps : Except ReadFault (List Statement) → Except ReadFault (List Statement) → Prop
  where
  | told (before later : List Statement) : Keeps (.ok before) (.ok (before ++ later))
  | broken (before : List Statement) (fault : ReadFault) : Keeps (.ok before) (.error fault)
  | error (fault : ReadFault) : Keeps (.error fault) (.error fault)
  | unfinished {fault : ReadFault} (wanting : fault.isUnfinished = true)
      (result : Except ReadFault (List Statement)) : Keeps (.error fault) result

/-- What has been told before stays in front. -/
theorem Keeps.cons {before longer : Except ReadFault (List Statement)}
    (keeps : Keeps before longer) (told : List Statement) :
    Keeps (before.map (told ++ ·)) (longer.map (told ++ ·)) := by
  cases keeps with
  | told before later =>
      have kept := Keeps.told (told ++ before) later
      rw [List.append_assoc] at kept
      exact kept
  | broken before fault => exact .broken _ fault
  | error fault => exact .error fault
  | unfinished wanting => exact .unfinished wanting _

theorem keeps_of_nil (result : Except ReadFault (List Statement)) : Keeps (.ok []) result := by
  cases result with
  | ok later => exact .told [] later
  | error fault => exact .broken [] fault

theorem followedBy_unfinished {reading : Reading} (unfinished : reading.rest ≠ []) :
    (reading.followedBy more).rest ≠ [] :=
  List.append_ne_nil_of_left_ne_nil unfinished more

/-- A part that succeeds does so with more tokens behind. -/
theorem part_followedBy {vocabulary : Vocabulary} {reading middle : Reading}
    {statement : Option Statement} (unfinished : reading.rest ≠ [])
    (read : (part vocabulary reading).outcome = .ok (statement, middle)) :
    (part vocabulary (reading.followedBy more)).outcome =
      .ok (statement, middle.followedBy more) := by
  have stands := stands_part more vocabulary unfinished
  rw [PartStands, Consulting.Stands, read] at stands
  generalize (part vocabulary (reading.followedBy more)).outcome = longer at stands ⊢
  cases stands
  rfl

/-- The end of a course is where a longer one may go on. -/
theorem keeps_last (next : NextStates) {vocabulary : Vocabulary} {reading middle : Reading}
    {statement : Option Statement} (unfinished : reading.rest ≠ [])
    (read : (part vocabulary reading).outcome = .ok (statement, middle)) :
    Keeps (.ok statement.toList) ((reading.followedBy more).course next vocabulary).outcome := by
  have longer := followedBy_unfinished more unfinished
  have longerRead := part_followedBy more unfinished read
  cases decided : advance next (middle.followedBy more) with
  | error fault =>
      rw [course_unfollowed longer longerRead decided]
      exact .broken _ _
  | ok advanced =>
      obtain ⟨after, transition⟩ := advanced
      rw [course_turned longer longerRead decided, outcome_cons]
      have kept := (keeps_of_nil (after.course next vocabulary).outcome).cons statement.toList
      rw [Except.map, List.append_nil] at kept
      exact kept

/-- A course with more tokens behind keeps what the course told. -/
theorem keeps_course (next : NextStates) (vocabulary : Vocabulary) (reading : Reading) :
    Keeps (reading.course next vocabulary).outcome
      ((reading.followedBy more).course next vocabulary).outcome := by
  -- Both courses take the same turns as long as the shorter one has tokens left.
  induction reading using courseInduction next vocabulary with
  | finished reading finished =>
      rw [course_finished finished]
      exact keeps_of_nil _
  | failed reading fault unfinished failed =>
      have longer := followedBy_unfinished more unfinished
      have stands := stands_part more vocabulary unfinished
      rw [course_failed unfinished failed]
      rw [PartStands, Consulting.Stands, failed] at stands
      generalize longerOutcome : (part vocabulary (reading.followedBy more)).outcome = outcome
        at stands
      cases stands with
      | error =>
          rw [course_failed longer longerOutcome]
          exact .error fault
      | unfinished wanting => exact .unfinished wanting _
  | unfollowed reading statement middle fault unfinished read failed =>
      have left : middle.rest ≠ [] := by
        intro finished
        rw [advance_finished finished] at failed
        cases failed
      have longerFailed := advance_followedBy more next left
      rw [failed] at longerFailed
      rw [course_unfollowed unfinished read failed,
        course_unfollowed (followedBy_unfinished more unfinished)
          (part_followedBy more unfinished read) longerFailed]
      exact .error _
  | turned reading statement middle after transition unfinished read advanced further =>
      rw [course_turned unfinished read advanced, outcome_cons]
      by_cases finished : middle.rest = []
      · have ended : after.rest = [] := (advance_rest advanced).trans finished
        rw [course_finished ended]
        have kept := keeps_last more next unfinished read
        rw [← List.append_nil statement.toList] at kept
        exact kept
      · have longerAdvanced := advance_followedBy more next finished
        rw [advanced] at longerAdvanced
        rw [course_turned (followedBy_unfinished more unfinished)
          (part_followedBy more unfinished read) longerAdvanced, outcome_cons]
        exact further.cons statement.toList

end Reading

/-- What follows changes nothing in what has been read.  A play that is understood is still
understood in the same way if it goes on, with its statements in front, unless what
follows is at fault.  A play that is not understood stays so, with the same fault on the
same line, unless its tokens ended in front of the mark of a title, a declaration, a
question or a sentence. -/
theorem sequels_change_nothing (vocabulary : Vocabulary) (tokens more : List Token) :
    (∀ statements, readTokens vocabulary tokens = .ok statements →
      (∃ fault, readTokens vocabulary (tokens ++ more) = .error fault) ∨
        ∃ later, readTokens vocabulary (tokens ++ more) = .ok (statements ++ later)) ∧
    ∀ fault, readTokens vocabulary tokens = .error fault → fault.isUnfinished = false →
      readTokens vocabulary (tokens ++ more) = .error fault := by
  have keeps : Reading.Keeps (readTokens vocabulary tokens)
      (readTokens vocabulary (tokens ++ more)) :=
    Reading.keeps_course more NextStates.standard vocabulary (Reading.ofTokens tokens)
  constructor
  · intro statements understood
    rw [understood] at keeps
    generalize readTokens vocabulary (tokens ++ more) = longer at keeps ⊢
    cases keeps with
    | told before later => exact Or.inr ⟨later, rfl⟩
    | broken before fault => exact Or.inl ⟨fault, rfl⟩
  · intro fault failed settled
    rw [failed] at keeps
    generalize readTokens vocabulary (tokens ++ more) = longer at keeps ⊢
    cases keeps with
    | error => rfl
    | unfinished wanting => exact absurd (settled.symm.trans wanting) Bool.false_ne_true

/-- The tokens of a play up to the first speech, which is Puck's. -/
def firstSpeech : List Token :=
  [⟨.lexeme .punctuation, 1⟩, ⟨.lexeme (.character "Ajax"), 2⟩, ⟨.lexeme .punctuation, 2⟩,
    ⟨.lexeme (.character "Puck"), 3⟩, ⟨.lexeme .punctuation, 3⟩, ⟨.act "I" "a", 4⟩,
    ⟨.scene "I" "a", 5⟩, ⟨.enter ["Ajax", "Puck"], 6⟩, ⟨.speaking "Puck", 7⟩]

/-- What Puck says next comes behind what has been told.  If he answers a question that
nobody asked, nothing that he says later makes up for it. -/
theorem sequels_change_nothing_firstSpeech :
    let told : List Statement := [⟨.declare "Ajax", 2⟩, ⟨.declare "Puck", 3⟩, ⟨.scene "I.I", 5⟩]
    let answered := firstSpeech ++ [⟨.conditionalJump true "I", 7⟩]
    readTokens ⟨[]⟩ firstSpeech = .ok told ∧
    ((∃ fault, readTokens ⟨[]⟩ (firstSpeech ++ [⟨.printNumber, 7⟩]) = .error fault) ∨
      ∃ later, readTokens ⟨[]⟩ (firstSpeech ++ [⟨.printNumber, 7⟩]) = .ok (told ++ later)) ∧
    readTokens ⟨[]⟩ answered = .error (.parse ⟨.questionMissing, 7⟩) ∧
    readTokens ⟨[]⟩ (answered ++ [⟨.printNumber, 8⟩]) = .error (.parse ⟨.questionMissing, 7⟩) := by
  intro told answered
  have understood : readTokens ⟨[]⟩ firstSpeech = .ok told := by cbv
  have refused : readTokens ⟨[]⟩ answered = .error (.parse ⟨.questionMissing, 7⟩) := by cbv
  refine ⟨understood, ?_, refused, ?_⟩
  · exact (sequels_change_nothing ⟨[]⟩ firstSpeech [⟨.printNumber, 7⟩]).1 told understood
  · exact (sequels_change_nothing ⟨[]⟩ answered [⟨.printNumber, 8⟩]).2 _ refused rfl

end Playhouse

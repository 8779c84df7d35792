/-
Module: Playhouse.Proofs.Faults
Purpose: How one part of a reading can fail.
Main exports: ParseCause.isOrdinary, Reading.IsPartFault, Reading.part_ensures
-/
import Playhouse.Proofs.Speech
import Playhouse.Script.Reading

namespace Playhouse

/-- Whether a cause lies in the tokens of a part.  The others are a choice that
the table of parts leaves open and the want of a listener. -/
def ParseCause.isOrdinary : ParseCause → Bool
  | ambiguous _ _ _ | listenerMissing => false
  | _ => true

theorem isOrdinary_of_shapeless {cause : ParseCause}
    (shapeless : cause.kind = "ExpressionViolation") : cause.isOrdinary := by
  cases cause with
  | ambiguous token choices state => simp [ParseCause.kind] at shapeless
  | listenerMissing => simp [ParseCause.kind] at shapeless
  | _ => rfl

/-! ### Sentences and questions -/

theorem isOrdinary_of_readSentence {startLine : Nat} {tokens : List Token} {fault : ParseFault}
    (failed : readSentence startLine tokens = .error fault) : fault.cause.isOrdinary := by
  induction tokens with
  | nil =>
      cases failed
      rfl
  | cons token rest inductionHypothesis =>
      unfold readSentence at failed
      split at failed
      · cases failed
      · cases inner : readSentence startLine rest with
        | ok sentence => simp [inner, bind, Except.bind, pure, Except.pure] at failed
        | error innerFault =>
            rw [inner] at failed
            cases failed
            exact inductionHypothesis inner
      · cases failed
        rfl

theorem isOrdinary_of_readRightSide {startLine : Nat} {comparison : Comparison} {begun : Bool}
    {tokens : List Token} {fault : ParseFault}
    (failed : readRightSide startLine comparison begun tokens = .error fault) :
    fault.cause.isOrdinary := by
  induction tokens generalizing begun with
  | nil =>
      cases failed
      rfl
  | cons token rest inductionHypothesis =>
      unfold readRightSide at failed
      split at failed
      · cases failed
        rfl
      · split at failed
        · cases failed
        · cases failed
          rfl
      · cases inner : readRightSide startLine comparison true rest with
        | ok query => simp [inner, bind, Except.bind, pure, Except.pure] at failed
        | error innerFault =>
            rw [inner] at failed
            cases failed
            exact inductionHypothesis inner
      · cases failed
        rfl

theorem isOrdinary_of_readLeftSide {startLine : Nat} {begun : Bool} {tokens : List Token}
    {fault : ParseFault} (failed : readLeftSide startLine begun tokens = .error fault) :
    fault.cause.isOrdinary := by
  induction tokens generalizing begun with
  | nil =>
      cases failed
      rfl
  | cons token rest inductionHypothesis =>
      unfold readLeftSide at failed
      split at failed
      · split at failed
        · exact isOrdinary_of_readRightSide failed
        · cases failed
          rfl
      · cases failed
        rfl
      · cases inner : readLeftSide startLine true rest with
        | ok query => simp [inner, bind, Except.bind, pure, Except.pure] at failed
        | error innerFault =>
            rw [inner] at failed
            cases failed
            exact inductionHypothesis inner
      · cases failed
        rfl

namespace Reading

theorem isOrdinary_of_afterIntroduction {tokens : List Token} {fault : ParseFault}
    (failed : afterIntroduction tokens = .error fault) : fault.cause.isOrdinary := by
  unfold afterIntroduction at failed
  split at failed
  · split at failed
    · cases failed
    · cases failed
      rfl
  · cases failed
  · cases failed

/-! ### Parts -/

/-- A fault of a part: its cause is ordinary, or a speech has no listener or asks
for a word list that cannot be fetched. -/
def IsPartFault (vocabulary : Vocabulary) (reading : Reading) : ReadFault → Prop
  | .lexicon fault => reading.state = .dialogue ∧ vocabulary.LacksNouns fault
  | .parse fault =>
      fault.cause.isOrdinary ∨
        fault.cause = .listenerMissing ∧ reading.state = .dialogue ∧
          ∀ name, ¬ reading.company.IsListener name

section

variable {vocabulary : Vocabulary} {reading : Reading}

/-- The phrases of a speech fail as the speech may fail. -/
theorem phraseFault_rules (state : reading.state = .dialogue) :
    PhraseRules vocabulary reading.company (fun _ _ => True)
      (IsPartFault vocabulary reading) where
  listener _ _ _ := trivial
  speaker _ _ := trivial
  character _ _ := trivial
  unary _ _ _ := trivial
  binary _ _ _ _ _ := trivial
  possessive _ _ _ := trivial
  numeral word line rest := by
    have ensured : (readNumeral vocabulary word line 1 rest).Ensures _
        (IsPartFault vocabulary reading) :=
      readNumeral_ensures (fun _ lacks => ⟨state, lacks⟩) (fun _ _ => Or.inl rfl) word line 1 rest
    exact ⟨fun _ => trivial, ensured.error⟩
  shapeless _ _ isShape := Or.inl (isOrdinary_of_shapeless isShape)
  undeclared _ _ := Or.inl rfl
  unheard _ unheard := Or.inr ⟨rfl, state, unheard⟩

theorem ensures_phrase (state : reading.state = .dialogue) (endLine : Nat)
    (tokens : List Token) :
    (readExpression vocabulary reading.company endLine 1 tokens).Ensures (fun _ => True)
      (IsPartFault vocabulary reading) :=
  (phraseFault_rules state).ensures endLine rfl tokens

theorem ensures_addressee (state : reading.state = .dialogue) (line : Nat) :
    (Consulting.ofExcept (reading.company.addressee line)).Ensures reading.company.IsListener
      (IsPartFault vocabulary reading) :=
  addressee_ensures fun unheard => Or.inr ⟨rfl, state, unheard⟩

theorem ensures_ordinary {α : Type} {result : Except ParseFault α}
    (ordinary : ∀ fault, result = .error fault → fault.cause.isOrdinary) :
    (Consulting.ofExcept result).Ensures (fun _ => True) (IsPartFault vocabulary reading) :=
  Consulting.ensures_ofExcept (fun _ _ => trivial) fun fault failed =>
    Or.inl (ordinary fault failed)

theorem readDirection_ensures (token : Token) (rest : List Token) :
    (reading.readDirection token rest).Ensures (fun _ => True)
      (IsPartFault vocabulary reading) := by
  unfold readDirection
  split
  · split
    · exact Consulting.ensures_pure trivial
    · exact Consulting.ensures_fail (Or.inl rfl)
  · exact Consulting.ensures_pure trivial
  · split
    · exact Consulting.ensures_pure trivial
    · exact Consulting.ensures_fail (Or.inl rfl)
  · exact Consulting.ensures_fail (Or.inl rfl)

theorem readSpeaker_ensures (token : Token) (rest : List Token) :
    (reading.readSpeaker token rest).Ensures (fun _ => True)
      (IsPartFault vocabulary reading) := by
  unfold readSpeaker
  split
  · exact Consulting.ensures_fail (Or.inl rfl)
  · split
    · split
      · exact Consulting.ensures_pure trivial
      · exact Consulting.ensures_fail (Or.inl rfl)
    · exact Consulting.ensures_fail (Or.inl rfl)

theorem readAddress_ensures (state : reading.state = .dialogue) (line : Nat)
    (rest : List Token) (action : String → Action) :
    (reading.readAddress line rest action).Ensures (fun _ => True)
      (IsPartFault vocabulary reading) :=
  Consulting.ensures_bind (ensures_addressee state line) fun _ _ =>
    Consulting.ensures_pure trivial

theorem readPush_ensures (state : reading.state = .dialogue) (line : Nat) (rest : List Token) :
    (readPush vocabulary reading line rest).Ensures (fun _ => True)
      (IsPartFault vocabulary reading) := by
  refine Consulting.ensures_bind (ensures_ordinary fun _ => isOrdinary_of_readSentence) ?_
  intro sentence _
  refine Consulting.ensures_bind (ensures_phrase state _ _) ?_
  intro value _
  exact Consulting.ensures_bind (ensures_addressee state line) fun _ _ =>
    Consulting.ensures_pure trivial

theorem readConditionalJump_ensures (affirmed : Bool) (target : String) (line : Nat)
    (rest : List Token) :
    (reading.readConditionalJump affirmed target line rest).Ensures (fun _ => True)
      (IsPartFault vocabulary reading) := by
  unfold readConditionalJump
  split
  · exact Consulting.ensures_fail (Or.inl rfl)
  · exact Consulting.ensures_pure trivial

theorem readAssignment_ensures (state : reading.state = .dialogue) (line : Nat)
    (rest : List Token) :
    (readAssignment vocabulary reading line rest).Ensures (fun _ => True)
      (IsPartFault vocabulary reading) := by
  refine Consulting.ensures_bind (ensures_addressee state line) ?_
  intro name _
  refine Consulting.ensures_bind (ensures_ordinary fun _ => isOrdinary_of_afterIntroduction) ?_
  intro tokens _
  refine Consulting.ensures_bind (ensures_ordinary fun _ => isOrdinary_of_readSentence) ?_
  intro sentence _
  exact Consulting.ensures_bind (ensures_phrase state _ _) fun _ _ =>
    Consulting.ensures_pure trivial

theorem readQuestion_ensures (state : reading.state = .dialogue) (line : Nat)
    (rest : List Token) :
    (readQuestion vocabulary reading line rest).Ensures (fun _ => True)
      (IsPartFault vocabulary reading) := by
  unfold readQuestion
  split
  · exact Consulting.ensures_fail (Or.inl rfl)
  · refine Consulting.ensures_bind (ensures_ordinary fun _ => isOrdinary_of_readLeftSide) ?_
    intro query _
    refine Consulting.ensures_bind (ensures_phrase state _ _) ?_
    intro lhs _
    exact Consulting.ensures_bind (ensures_phrase state _ _) fun _ _ =>
      Consulting.ensures_pure trivial

theorem readDialogue_ensures (state : reading.state = .dialogue) (token : Token)
    (rest : List Token) :
    (readDialogue vocabulary reading token rest).Ensures (fun _ => True)
      (IsPartFault vocabulary reading) := by
  unfold readDialogue
  split
  case h_6 => exact readPush_ensures state _ _
  case h_7 => exact Consulting.ensures_pure trivial
  case h_8 => exact readConditionalJump_ensures _ _ _ _
  case h_9 => exact readAssignment_ensures state _ _
  case h_10 => exact readQuestion_ensures state _ _
  case h_11 => exact Consulting.ensures_fail (Or.inl rfl)
  all_goals exact readAddress_ensures state _ _ _

/-- Whatever goes wrong in a part is a fault of that part. -/
theorem part_ensures (vocabulary : Vocabulary) (reading : Reading) :
    (part vocabulary reading).Ensures (fun _ => True) (IsPartFault vocabulary reading) := by
  unfold part
  split
  · exact Consulting.ensures_pure trivial
  · split
    case h_1 => exact Consulting.ensures_pure trivial
    case h_2 =>
      unfold readTitle
      split
      · exact Consulting.ensures_pure trivial
      · exact Consulting.ensures_fail (Or.inl rfl)
    case h_3 =>
      unfold readDeclaration
      split
      · split
        · exact Consulting.ensures_pure trivial
        · exact Consulting.ensures_fail (Or.inl rfl)
      · exact Consulting.ensures_fail (Or.inl rfl)
    case h_4 =>
      unfold readAct
      split
      · exact Consulting.ensures_pure trivial
      · exact Consulting.ensures_fail (Or.inl rfl)
    case h_5 =>
      unfold readScene
      split
      · exact Consulting.ensures_pure trivial
      · exact Consulting.ensures_fail (Or.inl rfl)
    case h_6 => exact readDirection_ensures _ _
    case h_7 => exact readSpeaker_ensures _ _
    case h_8 => exact readDialogue_ensures (by assumption) _ _

end

end Reading

end Playhouse

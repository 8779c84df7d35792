/-
Module: Playhouse.Script.Progress
Purpose: Every part of a reading moves forward.
Main exports: Reading.Leaves, Reading.leaves_part, Reading.advance_rest, Reading.measure,
  Reading.measure_lt
-/
import Playhouse.Script.Reading

namespace Playhouse.Reading

/-!
Every part but the start takes at least one token, and the start is over once
the next part has been decided on.  The number of tokens left, counted twice,
together with one for the start therefore falls with every part.
-/

/-- A part that leaves fewer than `bound` tokens when it succeeds. -/
def Leaves (bound : Nat) (part : Part) : Prop :=
  ∀ result, part.outcome = .ok result → result.2.rest.length < bound

theorem leaves_fail (bound : Nat) (cause : ParseCause) (line : Nat) :
    Leaves bound (Consulting.fail cause line) := by
  intro result succeeded
  simp at succeeded

theorem leaves_silent {bound : Nat} {after : Reading} (fewer : after.rest.length < bound) :
    Leaves bound (silent after) := by
  intro result succeeded
  simp only [silent, Consulting.outcome_pure, Except.ok.injEq] at succeeded
  subst succeeded
  exact fewer

theorem leaves_stating {bound : Nat} {action : Action} {line : Nat} {after : Reading}
    (fewer : after.rest.length < bound) : Leaves bound (stating action line after) := by
  intro result succeeded
  simp only [stating, Consulting.outcome_pure, Except.ok.injEq] at succeeded
  subst succeeded
  exact fewer

theorem leaves_bind {α : Type} {bound : Nat} {first : Consulting α} {second : α → Part}
    (fewer : ∀ value, first.outcome = .ok value → Leaves bound (second value)) :
    Leaves bound (first >>= second) := by
  intro result succeeded
  obtain ⟨value, firstSucceeded, secondSucceeded⟩ :=
    (Consulting.outcome_bind_eq_ok first second result).mp succeeded
  exact fewer value firstSucceeded result secondSucceeded

theorem outcome_ofExcept_eq_ok {α : Type} {result : Except ParseFault α} {value : α}
    (succeeded : (Consulting.ofExcept result).outcome = .ok value) : result = .ok value := by
  cases result with
  | error fault => cases succeeded
  | ok other =>
      cases succeeded
      rfl

theorem leaves_readTitle (reading : Reading) (tokens : List Token) :
    Leaves tokens.length (reading.readTitle tokens) := by
  unfold readTitle
  split
  · exact leaves_silent (afterPunctuation?_length (by assumption))
  · exact leaves_fail _ _ _

theorem leaves_readDeclaration (reading : Reading) (token : Token) (rest : List Token) :
    Leaves (rest.length + 1) (reading.readDeclaration token rest) := by
  unfold readDeclaration
  split
  · split
    · rename_i found
      exact leaves_stating (Nat.lt_succ_of_lt (afterPunctuation?_length found))
    · exact leaves_fail _ _ _
  · exact leaves_fail _ _ _

theorem leaves_readAct (reading : Reading) (token : Token) (rest : List Token) :
    Leaves (rest.length + 1) (reading.readAct token rest) := by
  unfold readAct
  split
  · exact leaves_silent (Nat.lt_succ_self _)
  · exact leaves_fail _ _ _

theorem leaves_readScene (reading : Reading) (token : Token) (rest : List Token) :
    Leaves (rest.length + 1) (reading.readScene token rest) := by
  unfold readScene
  split
  · exact leaves_stating (Nat.lt_succ_self _)
  · exact leaves_fail _ _ _

theorem leaves_readDirection (reading : Reading) (token : Token) (rest : List Token) :
    Leaves (rest.length + 1) (reading.readDirection token rest) := by
  unfold readDirection
  split
  · split
    · exact leaves_silent (Nat.lt_succ_self _)
    · exact leaves_fail _ _ _
  · exact leaves_silent (Nat.lt_succ_self _)
  · split
    · exact leaves_silent (Nat.lt_succ_self _)
    · exact leaves_fail _ _ _
  · exact leaves_fail _ _ _

theorem leaves_readSpeaker (reading : Reading) (token : Token) (rest : List Token) :
    Leaves (rest.length + 1) (reading.readSpeaker token rest) := by
  unfold readSpeaker
  split
  · exact leaves_fail _ _ _
  · split
    · split
      · exact leaves_silent (Nat.lt_succ_self _)
      · exact leaves_fail _ _ _
    · exact leaves_fail _ _ _

theorem leaves_readAddress (reading : Reading) (line : Nat) (rest : List Token)
    (action : String → Action) :
    Leaves (rest.length + 1) (reading.readAddress line rest action) := by
  unfold readAddress
  exact leaves_bind fun _ _ => leaves_stating (Nat.lt_succ_self _)

theorem leaves_readPush (vocabulary : Vocabulary) (reading : Reading) (line : Nat)
    (rest : List Token) : Leaves (rest.length + 1) (readPush vocabulary reading line rest) := by
  unfold readPush
  refine leaves_bind fun sentence read => leaves_bind fun _ _ => leaves_bind fun _ _ => ?_
  exact leaves_stating
    (Nat.lt_succ_of_lt (readSentence_length (outcome_ofExcept_eq_ok read)))

theorem leaves_readConditionalJump (reading : Reading) (affirmed : Bool) (target : String)
    (line : Nat) (rest : List Token) :
    Leaves (rest.length + 1) (reading.readConditionalJump affirmed target line rest) := by
  unfold readConditionalJump
  split
  · exact leaves_fail _ _ _
  · exact leaves_stating (Nat.lt_succ_self _)

theorem afterIntroduction_length {tokens rest : List Token}
    (read : afterIntroduction tokens = .ok rest) : rest.length ≤ tokens.length := by
  unfold afterIntroduction at read
  split at read
  · split at read
    · cases read
      simp only [List.length_cons]
      omega
    · simp at read
  · cases read
    simp only [List.length_cons]
    omega
  · cases read
    exact Nat.le_refl _

theorem leaves_readAssignment (vocabulary : Vocabulary) (reading : Reading) (line : Nat)
    (rest : List Token) :
    Leaves (rest.length + 1) (readAssignment vocabulary reading line rest) := by
  unfold readAssignment
  refine leaves_bind fun _ _ => leaves_bind fun tokens introduced =>
    leaves_bind fun sentence read => leaves_bind fun _ _ => leaves_stating ?_
  have shorter := afterIntroduction_length (outcome_ofExcept_eq_ok introduced)
  have shorterStill := readSentence_length (outcome_ofExcept_eq_ok read)
  exact Nat.lt_succ_of_lt (Nat.lt_of_lt_of_le shorterStill shorter)

theorem leaves_readQuestion (vocabulary : Vocabulary) (reading : Reading) (line : Nat)
    (rest : List Token) :
    Leaves (rest.length + 1) (readQuestion vocabulary reading line rest) := by
  unfold readQuestion
  split
  · exact leaves_fail _ _ _
  · refine leaves_bind fun query read => leaves_bind fun _ _ => leaves_bind fun _ _ => ?_
    exact leaves_silent
      (Nat.lt_succ_of_lt (readLeftSide_length (outcome_ofExcept_eq_ok read)))

theorem leaves_readDialogue (vocabulary : Vocabulary) (reading : Reading) (token : Token)
    (rest : List Token) :
    Leaves (rest.length + 1) (readDialogue vocabulary reading token rest) := by
  unfold readDialogue
  split
  · exact leaves_readAddress _ _ _ _
  · exact leaves_readAddress _ _ _ _
  · exact leaves_readAddress _ _ _ _
  · exact leaves_readAddress _ _ _ _
  · exact leaves_readAddress _ _ _ _
  · exact leaves_readPush _ _ _ _
  · exact leaves_stating (Nat.lt_succ_self _)
  · exact leaves_readConditionalJump _ _ _ _ _
  · exact leaves_readAssignment _ _ _ _
  · exact leaves_readQuestion _ _ _ _
  · exact leaves_fail _ _ _

/-- The start takes no token and changes nothing. -/
theorem part_start (vocabulary : Vocabulary) {reading : Reading}
    (atStart : reading.state = .start) : part vocabulary reading = silent reading := by
  unfold part
  split
  · rfl
  · rw [atStart]

/-- Every other part takes at least one token. -/
theorem leaves_part (vocabulary : Vocabulary) {reading : Reading}
    (begun : reading.state ≠ .start) (unfinished : reading.rest ≠ []) :
    Leaves reading.rest.length (part vocabulary reading) := by
  unfold part
  split
  · contradiction
  · rename_i token rest restEq
    rw [restEq]
    split
    · contradiction
    · exact leaves_readTitle _ _
    · exact leaves_readDeclaration _ _ _
    · exact leaves_readAct _ _ _
    · exact leaves_readScene _ _ _
    · exact leaves_readDirection _ _ _
    · exact leaves_readSpeaker _ _ _
    · exact leaves_readDialogue _ _ _ _

/-- Deciding on the next part takes no token. -/
theorem advance_rest {next : NextStates} {reading after : Reading}
    {transition : Option Transition} (advanced : advance next reading = .ok (after, transition)) :
    after.rest = reading.rest := by
  unfold advance at advanced
  split at advanced
  · cases advanced
    rfl
  · rename_i token _ _
    split at advanced
    · cases advanced
      rfl
    · cases advanced
      rfl
    · split at advanced
      · cases advanced
        rfl
      · cases chosen : nextState next reading.state token with
        | error fault => simp [chosen, bind, Except.bind] at advanced
        | ok target =>
            simp only [chosen, bind, Except.bind, pure, Except.pure, Except.ok.injEq,
              Prod.mk.injEq] at advanced
            rw [← advanced.1]

/-- A token never opens the start. -/
theorem start_not_mem_states (kind : TokenKind) : State.start ∉ kind.states := by
  cases kind <;> simp [TokenKind.states]

/-- With tokens left, the start is over. -/
theorem advance_state_ne_start {next : NextStates} {reading after : Reading}
    {transition : Option Transition} (unfinished : reading.rest ≠ [])
    (advanced : advance next reading = .ok (after, transition)) : after.state ≠ .start := by
  unfold advance at advanced
  split at advanced
  · contradiction
  · rename_i token _ _
    split at advanced
    · cases advanced
      simp
    · cases advanced
      simp
    · rename_i notStart _
      split at advanced
      · cases advanced
        exact fun atStart => notStart atStart
      · cases chosen : nextState next reading.state token with
        | error fault => simp [chosen, bind, Except.bind] at advanced
        | ok target =>
            simp only [chosen, bind, Except.bind, pure, Except.pure, Except.ok.injEq,
              Prod.mk.injEq] at advanced
            rw [← advanced.1]
            intro atStart
            unfold nextState at chosen
            split at chosen
            · simp at chosen
            · rename_i only onlyEq
              simp only [Except.ok.injEq] at chosen
              subst chosen
              have member : only ∈ [only] := List.mem_singleton_self only
              rw [← onlyEq] at member
              simp only at atStart
              rw [atStart] at member
              exact start_not_mem_states _ (List.mem_filter.mp member).1
            · simp at chosen

/-- A measure that every part lowers: the number of tokens left, then whether the
start is still ahead. -/
def measure (reading : Reading) : Nat :=
  2 * reading.rest.length + if reading.state = .start then 1 else 0

theorem measure_lt {vocabulary : Vocabulary} {next : NextStates} {reading middle after : Reading}
    {statement : Option Statement} {transition : Option Transition}
    (unfinished : reading.rest ≠ [])
    (read : (part vocabulary reading).outcome = .ok (statement, middle))
    (advanced : advance next middle = .ok (after, transition)) :
    after.measure < reading.measure := by
  have sameRest := advance_rest advanced
  by_cases atStart : reading.state = .start
  · rw [part_start vocabulary atStart] at read
    simp only [silent, Consulting.outcome_pure, Except.ok.injEq, Prod.mk.injEq] at read
    obtain ⟨_, rfl⟩ := read
    have notStart := advance_state_ne_start unfinished advanced
    simp [measure, sameRest, notStart, atStart]
  · have fewer := leaves_part vocabulary atStart unfinished _ read
    simp only [measure, sameRest, atStart]
    split <;> simp only [] at fewer ⊢ <;> omega

end Playhouse.Reading

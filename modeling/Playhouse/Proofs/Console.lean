/-
Module: Playhouse.Proofs.Console
Purpose: A performance that reads from a stream goes as one with prepared input, provided
  that the stream says what was prepared.
Main exports: House.withInput, Provider.AgreeOn, House.execute_alike, Production.runFrom_alike,
  Ending.Alike, Console.nextNumber_line, streams_tell_what_was_prepared
-/
import Playhouse.Proofs.Decimal
import Playhouse.Proofs.StepLimit

namespace Playhouse

open Text

/-!
Two sources of input may be of different kinds and word their faults differently.  They
agree as long as one and the other give the same numbers and characters and give out
together.  Performances with such sources keep the same house up to the input that is left.
-/

variable {σ τ : Type}

/-! ### Sources that agree -/

namespace Provider

/-- Two sources give the same next number, or neither has one. -/
inductive NumbersAgree (related : σ → τ → Prop) :
    Except InputFault Int × σ → Except InputFault Int × τ → Prop where
  | given {input : σ} {other : τ} (number : Int) (stay : related input other) :
      NumbersAgree related (.ok number, input) (.ok number, other)
  | missing (fault otherFault : InputFault) (input : σ) (other : τ) :
      NumbersAgree related (.error fault, input) (.error otherFault, other)

/-- Two sources agree on all that an action reads, as long as they are related. -/
def AgreeOn (first : Provider σ) (second : Provider τ) (related : σ → τ → Prop) : Action → Prop
  | .scanNumber _ => ∀ input other, related input other →
      NumbersAgree related (first.nextNumber input) (second.nextNumber other)
  | .scanCharacter _ => ∀ input other, related input other →
      (first.nextCharacter input).1 = (second.nextCharacter other).1 ∧
        related (first.nextCharacter input).2 (second.nextCharacter other).2
  | _ => True

end Provider

/-! ### Statements -/

namespace House

/-- A house with another input. -/
def withInput (house : House σ) (input : τ) : House τ :=
  ⟨house.store, house.memories, house.steps, house.printed, input⟩

/-- The same effect with two sources of input.  Only the wording of a fault of the input may
differ, and then there is nothing more to read. -/
inductive EffectsAlike (related : σ → τ → Prop) : Effect σ → Effect τ → Prop where
  | went {house : House σ} {input : τ} (target : Option Nat) (stay : related house.input input) :
      EffectsAlike related (.ok target, house) (.ok target, house.withInput input)
  | failed (mishap : Mishap) (house : House σ) (input : τ) :
      EffectsAlike related (.error mishap, house) (.error mishap, house.withInput input)
  | unread (fault otherFault : InputFault) (line : Nat) (house : House σ) (input : τ) :
      EffectsAlike related (.error ⟨.input fault, line⟩, house)
        (.error ⟨.input otherFault, line⟩, house.withInput input)

variable {related : σ → τ → Prop} {house : House σ} {input : τ}

theorem withValue_alike {value : Except Mishap Int} {use : Int → Effect σ}
    {otherUse : Int → Effect τ}
    (alike : ∀ number, EffectsAlike related (use number) (otherUse number)) :
    EffectsAlike related (house.withValue value use)
      ((house.withInput input).withValue value otherUse) := by
  cases value with
  | error mishap => exact .failed mishap house input
  | ok number => exact alike number

theorem jump_alike (labels : Labels) (tag : String) (line : Nat)
    (stay : related house.input input) :
    EffectsAlike related (jump labels house tag line)
      (jump labels (house.withInput input) tag line) := by
  unfold jump
  cases labels.get? tag with
  | none => exact .failed _ house input
  | some position => exact .went (some position) stay

theorem proceed_alike (after : House σ) (stay : related after.input input) :
    EffectsAlike related (proceed after) (proceed (after.withInput input)) :=
  .went none stay

/-- Whether a piece is taken as text does not depend on the input. -/
theorem hand_alike (piece : Piece) (line : Nat) (stay : related house.input input) :
    EffectsAlike related (hand .text house piece line)
      (hand .text (house.withInput input) piece line) := by
  unfold hand Sink.text
  dsimp only
  cases piece.text with
  | error refusal => exact .failed _ house input
  | ok text => exact proceed_alike (house.print text) stay

/-- A statement has the same effect with two sources that agree on what it reads. -/
theorem execute_alike {first : Provider σ} {second : Provider τ} {statement : Statement}
    (labels : Labels) (agree : first.AgreeOn second related statement.action)
    (house : House σ) (stay : related house.input input) :
    EffectsAlike related (execute first .text labels statement house)
      (execute second .text labels statement (house.withInput input)) := by
  obtain ⟨action, line⟩ := statement
  cases action with
  | scene | ask | remark => exact proceed_alike house stay
  | declare name => exact proceed_alike (house.declare name) stay
  | scanNumber name =>
      have agreed := agree house.input (house.withInput input).input stay
      unfold execute scanNumber
      dsimp only
      generalize first.nextNumber house.input = read at agreed ⊢
      generalize second.nextNumber (house.withInput input).input = otherRead at agreed ⊢
      cases agreed with
      | @given input other number stay =>
          exact proceed_alike ({ house with input := input }.assign (some name) number) stay
      | missing fault otherFault input other =>
          exact .unread fault otherFault line { house with input := input } other
  | scanCharacter name =>
      obtain ⟨same, stay⟩ := agree house.input (house.withInput input).input stay
      unfold execute scanCharacter
      dsimp only
      generalize first.nextCharacter house.input = read at same stay ⊢
      generalize second.nextCharacter (house.withInput input).input = otherRead at same stay ⊢
      obtain ⟨character, input⟩ := read
      obtain ⟨_, other⟩ := otherRead
      subst same
      cases character with
      | none => exact proceed_alike ({ house with input := input }.assign (some name) (-1)) stay
      | some character =>
          exact proceed_alike ({ house with input := input }.assign (some name) character.toNat)
            stay
  | printCharacter name =>
      apply withValue_alike
      intro value
      split
      · exact hand_alike _ line stay
      · exact .failed _ house input
  | printNumber name =>
      apply withValue_alike
      intro value
      exact hand_alike _ line stay
  | push name value =>
      apply withValue_alike
      intro number
      exact proceed_alike
        { house with
          memories := house.memories.put name (number :: (house.memories.get? name).getD []) } stay
  | pop name =>
      unfold execute pop
      dsimp only [withInput]
      split
      · rename_i number others remembered
        exact proceed_alike
          ({ house with memories := house.memories.put name others }.assign (some name) number) stay
      · exact .failed _ house input
  | assign target targetLine value =>
      apply withValue_alike
      intro number
      exact proceed_alike (house.assign target number) stay
  | jump tag => exact jump_alike labels tag line stay
  | jumpIf question tag jumpLine =>
      apply withValue_alike
      intro lhs
      apply withValue_alike
      intro rhs
      split
      · exact jump_alike labels tag jumpLine stay
      · exact proceed_alike house stay

end House

/-! ### Performances -/

/-- The same outcome, but for the wording of a fault of the input. -/
inductive SameOutcome : Except Mishap Unit → Except Mishap Unit → Prop where
  | same (outcome : Except Mishap Unit) : SameOutcome outcome outcome
  | unread (fault otherFault : InputFault) (line : Nat) :
      SameOutcome (.error ⟨.input fault, line⟩) (.error ⟨.input otherFault, line⟩)

theorem SameOutcome.of_input {outcome : Except Mishap Unit} {fault : InputFault} {line : Nat}
    (same : SameOutcome outcome (.error ⟨.input fault, line⟩)) :
    ∃ otherFault, outcome = .error ⟨.input otherFault, line⟩ := by
  cases same with
  | same => exact ⟨fault, rfl⟩
  | unread otherFault => exact ⟨otherFault, rfl⟩

/-- Two performances that ended alike: in the same way, after the same number of steps, with
the same text printed and the same numbers and stacks for everybody. -/
structure Ending.Alike (first : Ending σ) (second : Ending τ) : Prop where
  outcome : SameOutcome first.outcome second.outcome
  printed : first.house.printed = second.house.printed
  store : first.house.store = second.house.store
  memories : first.house.memories = second.house.memories
  steps : first.house.steps = second.house.steps

theorem Ending.alike_withInput {outcome other : Except Mishap Unit}
    (same : SameOutcome outcome other) (house : House σ) (input : τ) :
    Alike (⟨outcome, house⟩ : Ending σ) ⟨other, house.withInput input⟩ :=
  ⟨same, rfl, rfl, rfl, rfl⟩

/-- Two steps that lead to the same. -/
inductive Progress.Alike (related : σ → τ → Prop) : Progress σ → Progress τ → Prop where
  | ended {first : Ending σ} {second : Ending τ} (alike : first.Alike second) :
      Alike related (.ended first) (.ended second)
  | went {house : House σ} {input : τ} (statement : Statement) (target : Option Nat)
      (position : Nat) (stay : related house.input input) :
      Alike related (.went statement target ⟨position, house⟩)
        (.went statement target ⟨position, house.withInput input⟩)

theorem Progress.ofEffect_alike {related : σ → τ → Prop} {effect : House.Effect σ}
    {other : House.Effect τ} (alike : House.EffectsAlike related effect other)
    (statement : Statement) (position : Nat) :
    Alike related (ofEffect statement position effect) (ofEffect statement position other) := by
  cases alike with
  | went target stay => exact .went statement target _ stay
  | failed mishap house input => exact .ended (Ending.alike_withInput (.same _) house input)
  | unread fault otherFault line house input =>
      exact .ended (Ending.alike_withInput (.unread fault otherFault line) house input)

namespace Production

variable {first : Provider σ} {second : Provider τ} {related : σ → τ → Prop}
  {statements : List Statement}

/-- One step with two sources that agree on what the statements read. -/
theorem step_alike (limit : Option Int)
    (agree : ∀ statement ∈ statements, first.AgreeOn second related statement.action)
    (position : Nat) (house : House σ) (input : τ) (stay : related house.input input) :
    Progress.Alike related ((ofStatements first limit statements).step ⟨position, house⟩)
      ((ofStatements second limit statements).step ⟨position, house.withInput input⟩) := by
  cases here : statements[position]? with
  | none =>
      simp only [step, ofStatements, List.getElem?_toArray, here]
      exact .ended (Ending.alike_withInput (.same _) house input)
  | some statement =>
      have found : statements.toArray[position]? = some statement :=
        List.getElem?_toArray.trans here
      by_cases within : ∀ bound, limit = some bound → (house.steps : Int) + 1 ≤ bound
      · have agreed := agree statement (List.mem_of_getElem? here)
        rw [step_of_within found within, step_of_within found within]
        exact Progress.ofEffect_alike (House.execute_alike (Labels.ofStatements statements) agreed
          { house with steps := house.steps + 1 } stay) statement position
      · obtain ⟨bound, limited, exceeded⟩ :
            ∃ bound, limit = some bound ∧ bound < (house.steps : Int) + 1 := by
          simpa only [Classical.not_forall, Int.not_le, exists_prop] using within
        rw [step_of_exceeded found limited exceeded, step_of_exceeded found limited exceeded]
        exact .ended (Ending.alike_withInput (.same _)
          { house with steps := house.steps + 1 } input)

/-- A whole performance with two sources that agree on what the statements read: with the
same patience both end alike, or neither ends. -/
theorem runFrom_alike (limit : Option Int)
    (agree : ∀ statement ∈ statements, first.AgreeOn second related statement.action)
    (patience position : Nat) (house : House σ) (input : τ) (stay : related house.input input) :
    Option.Rel Ending.Alike
      ((ofStatements first limit statements).runFrom patience ⟨position, house⟩)
      ((ofStatements second limit statements).runFrom patience
        ⟨position, house.withInput input⟩) := by
  induction patience generalizing position house input with
  | zero => exact .none
  | succ patience inductionHypothesis =>
      have stepped := step_alike limit agree position house input stay
      rw [runFrom, runFrom]
      generalize (ofStatements first limit statements).step ⟨position, house⟩ = progress
        at stepped ⊢
      generalize (ofStatements second limit statements).step ⟨position, house.withInput input⟩ =
        other at stepped ⊢
      cases stepped with
      | ended alike => exact .some alike
      | went statement target position stay => exact inductionHypothesis position _ _ stay

end Production

/-! ### Streams -/

/-- The first line of a stream ends with its first line feed. -/
theorem takeLine_line {text : List Char} (noFeed : ∀ c ∈ text, c ≠ '\n') (rest : List Char) :
    takeLine (text ++ '\n' :: rest) = (text ++ ['\n'], rest) := by
  induction text with
  | nil => rfl
  | cons c text inductionHypothesis =>
      have further := inductionHypothesis fun other member =>
        noFeed other (List.mem_cons_of_mem c member)
      have isOther : (c == '\n') = false := by simpa using noFeed c List.mem_cons_self
      simp [takeLine, isOther, further]

/-- A number on a line of its own. -/
def numeralLine (number : Int) : List Char :=
  numeral number ++ ['\n']

namespace Console

/-- A stream that begins with a number on a line of its own gives this number. -/
theorem nextNumber_line {number : Int}
    (short : (naturalNumeral number.natAbs).length ≤ digitLimit) (rest : List Char) :
    nextNumber ⟨numeralLine number ++ rest⟩ = (.ok number, ⟨rest⟩) := by
  have noBlank (c : Char) (member : c ∈ numeral number) : isBlank c = false :=
    isBlank_of_mem_numeral member
  have noFeed (c : Char) (member : c ∈ numeral number) : c ≠ '\n' := by
    rintro rfl
    exact absurd (noBlank _ member) (by decide)
  have taken : takeLine (numeralLine number ++ rest) = (numeral number ++ ['\n'], rest) := by
    rw [numeralLine, List.append_assoc]
    exact takeLine_line noFeed rest
  unfold nextNumber
  rw [taken]
  split
  · rename_i empty
    simp at empty
  · rename_i isLine
    cases isLine
    rw [strip_line noBlank, readInteger_numeral short]

/-- A stream with the numbers that were prepared, a line for each. -/
def TellsNumbers (console : Console) (prompter : Prompter) : Prop :=
  console.stream = prompter.numbers.flatMap numeralLine ∧
    ∀ number ∈ prompter.numbers, (naturalNumeral number.natAbs).length ≤ digitLimit

/-- A stream with the characters that were prepared. -/
def TellsCharacters (console : Console) (prompter : Prompter) : Prop :=
  console.stream = prompter.characters

theorem agreeOn_numbers (name : String) :
    provider.AgreeOn Prompter.provider TellsNumbers (.scanNumber name) := by
  rintro ⟨stream⟩ ⟨numbers, characters⟩ ⟨isStream, short⟩
  cases numbers with
  | nil =>
      cases isStream
      exact .missing _ _ _ _
  | cons number rest =>
      have isShort := short number List.mem_cons_self
      have restShort (other : Int) (member : other ∈ rest) :
          (naturalNumeral other.natAbs).length ≤ digitLimit :=
        short other (List.mem_cons_of_mem number member)
      obtain rfl : stream = numeralLine number ++ rest.flatMap numeralLine := isStream
      have told : provider.nextNumber ⟨numeralLine number ++ rest.flatMap numeralLine⟩ =
          (.ok number, ⟨rest.flatMap numeralLine⟩) := nextNumber_line isShort _
      rw [told]
      exact .given number ⟨rfl, restShort⟩

theorem agreeOn_characters (name : String) :
    provider.AgreeOn Prompter.provider TellsCharacters (.scanCharacter name) := by
  rintro ⟨stream⟩ ⟨numbers, characters⟩ rfl
  cases stream with
  | nil => exact ⟨rfl, rfl⟩
  | cons character rest => exact ⟨rfl, rfl⟩

end Console

/-- **A stream that tells what was prepared serves as well.**  If no statement reads a
character, then a performance goes alike with prepared numbers of at most 4300 digits and with
a stream on which each of them stands on a line of its own.  If no statement reads a number,
then it goes alike with prepared characters and with a stream of these characters.  Under
every limit both performances go on for ever, or both end: in the same way, after the same
number of steps, with the same text printed and the same numbers and stacks.  Where the input
gives out, they word it differently. -/
theorem streams_tell_what_was_prepared (limit : Option Int) (statements : List Statement)
    (patience : Nat) (numbers : List Int) (characters : List Char) :
    ((∀ statement ∈ statements, ∀ name, statement.action ≠ .scanCharacter name) →
      (∀ number ∈ numbers, (naturalNumeral number.natAbs).length ≤ 4300) →
      Option.Rel Ending.Alike
        ((Production.ofStatements Console.provider limit statements).run patience
          ⟨numbers.flatMap numeralLine⟩)
        ((Production.ofStatements Prompter.provider limit statements).run patience
          ⟨numbers, characters⟩)) ∧
    ((∀ statement ∈ statements, ∀ name, statement.action ≠ .scanNumber name) →
      Option.Rel Ending.Alike
        ((Production.ofStatements Console.provider limit statements).run patience ⟨characters⟩)
        ((Production.ofStatements Prompter.provider limit statements).run patience
          ⟨numbers, characters⟩)) := by
  constructor
  · intro noCharacter short
    have agree (statement) (member : statement ∈ statements) :
        Console.provider.AgreeOn Prompter.provider Console.TellsNumbers statement.action := by
      cases isAction : statement.action with
      | scanNumber name => exact Console.agreeOn_numbers name
      | scanCharacter name => exact absurd isAction (noCharacter statement member name)
      | _ => trivial
    exact Production.runFrom_alike limit agree patience 0 (House.opening [] _)
      ⟨numbers, characters⟩ ⟨rfl, short⟩
  · intro noNumber
    have agree (statement) (member : statement ∈ statements) :
        Console.provider.AgreeOn Prompter.provider Console.TellsCharacters statement.action := by
      cases isAction : statement.action with
      | scanNumber name => exact absurd isAction (noNumber statement member name)
      | scanCharacter name => exact Console.agreeOn_characters name
      | _ => trivial
    exact Production.runFrom_alike limit agree patience 0 (House.opening [] _)
      ⟨numbers, characters⟩ rfl

/-- Ajax remembers every number that he hears. -/
def collection : List Statement :=
  [⟨.declare "Ajax", 1⟩, ⟨.scene "I", 2⟩, ⟨.scanNumber "Ajax", 3⟩,
    ⟨.push "Ajax" (.character (some "Ajax") 4), 4⟩, ⟨.jump "I", 5⟩]

/-- Puck says a character that he reads, and reads on. -/
def recital : List Statement :=
  [⟨.declare "Puck", 1⟩, ⟨.scanCharacter "Puck", 2⟩, ⟨.printCharacter "Puck", 3⟩,
    ⟨.scanCharacter "Puck", 4⟩]

/-- Ajax hears a number of two digits and a negative one, and then there is nothing to hear:
both performances stop at the same statement for want of a number, with the same numbers
remembered.  Puck reads a line feed and then the end, from either source. -/
theorem streams_tell_what_was_prepared_collection :
    (∃ (fromStream : Ending Console) (prepared : Ending Prompter) (fault : InputFault),
      (Production.ofStatements Console.provider none collection).run 20 ⟨"72\n-5\n".toList⟩ =
        some fromStream ∧
      (Production.ofStatements Prompter.provider none collection).run 20 ⟨[72, -5], []⟩ =
        some prepared ∧
      fromStream.Alike prepared ∧
      prepared.outcome = .error ⟨.input .noNumberLeft, 3⟩ ∧
      fromStream.outcome = .error ⟨.input fault, 3⟩ ∧
      fromStream.house.memories = [("Ajax", [-5, 72])]) ∧
    ∃ (fromStream : Ending Console) (prepared : Ending Prompter),
      (Production.ofStatements Console.provider (some 4) recital).run 5 ⟨['\n']⟩ =
        some fromStream ∧
      (Production.ofStatements Prompter.provider (some 4) recital).run 5 ⟨[], ['\n']⟩ =
        some prepared ∧
      fromStream.Alike prepared ∧
      prepared.isCutShort = false ∧
      fromStream.house.output = [10] ∧
      fromStream.house.store = [(some "Puck", -1)] := by
  constructor
  · have told := (streams_tell_what_was_prepared none collection 20 [72, -5] []).1
      (by simp [collection]) (by decide)
    have isStream : [72, -5].flatMap numeralLine = "72\n-5\n".toList := by decide
    have prepared :
        (Production.ofStatements Prompter.provider none collection).run 20 ⟨[72, -5], []⟩ =
          some ⟨.error ⟨.input .noNumberLeft, 3⟩,
            ⟨[(some "Ajax", -5)], [("Ajax", [-5, 72])], 11, [], ⟨[], []⟩⟩⟩ := by
      cbv
    rw [isStream, prepared] at told
    generalize (Production.ofStatements Console.provider none collection).run 20 _ = run
      at told ⊢
    cases told with
    | @some fromStream _ alike =>
        obtain ⟨fault, isFault⟩ := alike.outcome.of_input
        exact ⟨fromStream, _, fault, rfl, prepared, alike, rfl, isFault, alike.memories⟩
  · have told := (streams_tell_what_was_prepared (some 4) recital 5 [] ['\n']).2
      (by simp [recital])
    have fromStream := Production.run_of_limit
      (rfl : (Production.ofStatements Console.provider (some 4) recital).limit = some 4)
      (by decide : (4 : Int).toNat < 5) ⟨['\n']⟩
    have prepared := Production.run_of_limit
      (rfl : (Production.ofStatements Prompter.provider (some 4) recital).limit = some 4)
      (by decide : (4 : Int).toNat < 5) ⟨[], ['\n']⟩
    rw [fromStream, prepared] at told
    cases told with
    | some alike =>
        exact ⟨_, _, fromStream, prepared, alike, by decide +kernel, by decide +kernel,
          by decide +kernel⟩

end Playhouse

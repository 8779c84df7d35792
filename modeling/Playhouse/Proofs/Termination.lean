/-
Module: Playhouse.Proofs.Termination
Purpose: Every reading comes to an end, token by token, and fails only for a fault of
  the play or for want of a list.
Main exports: ReadFault.IsOfPlay, ReadFault.IsOfLists, NextStates.Contradicts, Reading.MovesOn,
  Reading.isChain_course, Reading.course_final, readings_come_to_an_end
-/
import Mathlib.Data.List.Chain
import Playhouse.Diagnostic
import Playhouse.Lexicon
import Playhouse.Proofs.Outline

namespace Playhouse

/-!
The loop over the parts of a play is bounded by its tokens: the start takes none and is
left at once, and every other part takes at least one.  What a part does not take it
leaves as it found it, so that a reading never has more before it than the play has.
-/

/-! ### Faults of a play -/

/-- The families of faults that a play can have. -/
def playFaults : List String :=
  ["GrammarViolation", "StructuralViolation", "ExpressionViolation"]

/-- A fault that the play is to blame for, or the want of a list of nouns, which is
reported as such.  A table of parts that contradicts itself is neither. -/
def ReadFault.IsOfPlay (vocabulary : Vocabulary) : ReadFault → Prop
  | .lexicon fault => vocabulary.LacksNouns fault ∧
      fault.failure = .diagnosed ⟨"LexiconError", fault.message, none⟩
  | .parse fault => fault.cause.kind ∈ playFaults

/-- A fault that comes from elsewhere: the file of a list of nouns is no text, or its path
can belong to no file.  Such a fault is not reported. -/
def ReadFault.IsOfLists (vocabulary : Vocabulary) (fault : ReadFault) : Prop :=
  ∃ missing breakdown, vocabulary.LacksNouns missing ∧ missing.breakdown? = some breakdown ∧
    fault = .lexicon missing ∧ fault.failure = .broken breakdown

/-- A fault for which the play is to blame, or a list of nouns. -/
def ReadFault.IsAccountedFor (vocabulary : Vocabulary) (fault : ReadFault) : Prop :=
  fault.IsOfPlay vocabulary ∨ fault.IsOfLists vocabulary

/-- A list of nouns that cannot be had is reported, unless the fault comes from
elsewhere. -/
theorem isAccountedFor_of_lacksNouns {vocabulary : Vocabulary} {fault : LexiconFault}
    (lacks : vocabulary.LacksNouns fault) :
    (ReadFault.lexicon fault).IsAccountedFor vocabulary := by
  cases broken : fault.breakdown? with
  | none =>
      refine Or.inl ⟨lacks, ?_⟩
      simp only [LexiconFault.failure, LexiconFault.diagnostic, LexiconFault.kind, broken,
        Option.map_none, Option.getD_none]
  | some breakdown =>
      refine Or.inr ⟨fault, breakdown, lacks, broken, rfl, ?_⟩
      simp only [ReadFault.failure, LexiconFault.failure, broken]

/-- A table of parts contradicts itself if after some part a token may open two
others. -/
def NextStates.Contradicts (next : NextStates) : Prop :=
  ∃ (state : State) (kind : TokenKind) (first second : State), first ≠ second ∧
    first ∈ kind.states ∧ first ∈ next state ∧ second ∈ kind.states ∧ second ∈ next state

/-- A token opens one part, unless it is a word or a mark, which may open any of
three. -/
theorem states_cases (kind : TokenKind) :
    (∃ only, kind.states = [only]) ∨
      kind.states = [.dialogue, .characterDeclaration, .title] := by
  cases kind with
  | lexeme content | other character => exact Or.inr rfl
  | _ => exact Or.inl ⟨_, rfl⟩

/-- Of those three, every row of the standard table names at most one. -/
theorem standard_leaves_one (state : State) :
    ∃ only, ∀ target ∈ [State.dialogue, .characterDeclaration, .title],
      target ∈ NextStates.standard state → target = only := by
  cases state with
  | start => exact ⟨.title, by decide⟩
  | title | characterDeclaration => exact ⟨.characterDeclaration, by decide⟩
  | act | scene | stage | characterSpeaking | dialogue => exact ⟨.dialogue, by decide⟩

/-- The standard table does not contradict itself. -/
theorem not_contradicts_standard : ¬ NextStates.standard.Contradicts := by
  rintro ⟨state, kind, first, second, apart, firstOpens, firstListed, secondOpens, secondListed⟩
  rcases states_cases kind with ⟨only, opensOne⟩ | opensThree
  · rw [opensOne, List.mem_singleton] at firstOpens secondOpens
    exact apart (firstOpens.trans secondOpens.symm)
  · rw [opensThree] at firstOpens secondOpens
    obtain ⟨only, isOnly⟩ := standard_leaves_one state
    have firstIs := isOnly first firstOpens firstListed
    have secondIs := isOnly second secondOpens secondListed
    exact apart (firstIs.trans secondIs.symm)

theorem kind_of_isOrdinary {cause : ParseCause} (ordinary : cause.isOrdinary) :
    cause.kind ∈ playFaults := by
  cases cause with
  | ambiguous token choices state => cases ordinary
  | listenerMissing => cases ordinary
  | _ => simp [ParseCause.kind, playFaults]

namespace Reading

variable {next : NextStates} {vocabulary : Vocabulary} {reading after : Reading}
  {statement : Option Statement}

/-- Whatever goes wrong in a part is a fault of the play, or of a list of nouns. -/
theorem isAccountedFor_of_isPartFault {fault : ReadFault}
    (isFault : IsPartFault vocabulary reading fault) : fault.IsAccountedFor vocabulary := by
  cases fault with
  | lexicon fault => exact isAccountedFor_of_lacksNouns isFault.2
  | parse fault =>
      rcases isFault with ordinary | ⟨unheard, _⟩
      · exact Or.inl (kind_of_isOrdinary ordinary)
      · exact Or.inl (by simp [ReadFault.IsOfPlay, unheard, ParseCause.kind, playFaults])

/-- No part may follow because the play is wrong, or because the table is. -/
theorem isOfPlay_of_nextState {state : State} {token : Token} {fault : ParseFault}
    (failed : nextState next state token = .error fault) :
    (ReadFault.parse fault).IsOfPlay vocabulary ∨
      fault.cause.kind = "AmbiguousTransition" ∧ next.Contradicts := by
  unfold nextState at failed
  split at failed
  · cases failed
    exact Or.inl (by simp [ReadFault.IsOfPlay, ParseCause.kind, playFaults])
  · cases failed
  · rename_i choices noneOpens notOne
    cases failed
    refine Or.inr ⟨rfl, ?_⟩
    -- Two choices are left, and no token names a part twice.
    obtain ⟨first, second, others, several⟩ :
        ∃ first second others,
          token.kind.states.filter (next state).contains = first :: second :: others := by
      cases left : token.kind.states.filter (next state).contains with
      | nil => exact absurd left noneOpens
      | cons first behind =>
          cases behind with
          | nil => exact absurd left (notOne first)
          | cons second others => exact ⟨first, second, others, rfl⟩
    have distinct : token.kind.states.Nodup := by
      rcases states_cases token.kind with ⟨only, opensOne⟩ | opensThree
      · simp [opensOne]
      · simp [opensThree]
    have apart : first ≠ second := by
      have stillDistinct := distinct.filter (next state).contains
      rw [several] at stillDistinct
      intro same
      simp [same] at stillDistinct
    have isChoice choice (member : choice ∈ first :: second :: others) :
        choice ∈ token.kind.states ∧ choice ∈ next state := by
      rw [← several] at member
      obtain ⟨opens, listed⟩ := List.mem_filter.mp member
      exact ⟨opens, List.contains_iff_mem.mp listed⟩
    obtain ⟨firstOpens, firstListed⟩ := isChoice first (by simp)
    obtain ⟨secondOpens, secondListed⟩ := isChoice second (by simp)
    exact ⟨state, token.kind, first, second, apart, firstOpens, firstListed, secondOpens,
      secondListed⟩

theorem StopsAt.unfinished {fault : ReadFault} (stopped : StopsAt next vocabulary reading fault) :
    reading.rest ≠ [] := by
  cases stopped with
  | part unfinished | advance unfinished => exact unfinished

/-- A reading that can go no further is stopped by the play, by a list of nouns, or by the
table. -/
theorem isAccountedFor_of_stopsAt {fault : ReadFault}
    (stopped : StopsAt next vocabulary reading fault) :
    fault.IsAccountedFor vocabulary ∨
      fault.diagnostic.kind = "AmbiguousTransition" ∧ next.Contradicts := by
  cases stopped with
  | part unfinished failed =>
      exact Or.inl
        (isAccountedFor_of_isPartFault ((part_ensures vocabulary reading).error failed))
  | advance unfinished read failed =>
      obtain ⟨token, rest, _, unfollowed⟩ := nextState_of_advance_error failed
      exact (isOfPlay_of_nextState unfollowed).imp_left Or.inl

/-! ### Moving on -/

/-- How a reading moves on while tokens are before it: the start takes none and is over,
any other part takes at least one, and what is left is an end of what was there. -/
structure MovesOn (before after : Reading) : Prop where
  unfinished : before.rest ≠ []
  begun : after.state ≠ .start
  suffix : after.rest <:+ before.rest
  start : before.state = .start → after.rest = before.rest
  takes : before.state ≠ .start → after.rest.length < before.rest.length

/-- Whatever the reading, a part that succeeds leaves an end of its tokens, and behind the
start a shorter one. -/
theorem part_within (vocabulary : Vocabulary) (reading : Reading) :
    match (part vocabulary reading).outcome with
    | .ok (_, after) => after.rest <:+ reading.rest ∧
        (reading.rest = [] ∨ reading.state = .start ∨ after.rest.length < reading.rest.length)
    | .error fault => fault.IsAccountedFor vocabulary := by
  split
  · rename_i statement after read
    by_cases finished : reading.rest = []
    · have same : part vocabulary reading = silent reading := by
        unfold part
        rw [finished]
      rw [same] at read
      obtain ⟨_, rfl⟩ := silent_eq_ok read
      exact ⟨List.suffix_rfl, Or.inl finished⟩
    · refine ⟨(reads_of_part finished read).suffix, Or.inr ?_⟩
      by_cases atStart : reading.state = .start
      · exact Or.inl atStart
      · exact Or.inr (leaves_part vocabulary atStart finished _ read)
  · rename_i fault failed
    exact isAccountedFor_of_isPartFault ((part_ensures vocabulary reading).error failed)

theorem Turn.movesOn (turn : Turn next vocabulary reading statement after) :
    MovesOn reading after := by
  obtain @⟨middle, transition, unfinished, read, advanced⟩ := turn
  have sameRest := advance_rest advanced
  have suffix : middle.rest <:+ reading.rest := (reads_of_part unfinished read).suffix
  have atStart (state : reading.state = .start) : middle.rest = reading.rest := by
    rw [part_start vocabulary state] at read
    obtain ⟨_, rfl⟩ := silent_eq_ok read
    rfl
  refine ⟨unfinished, ?_, ?_, ?_, ?_⟩
  · by_cases finished : middle.rest = []
    · -- At the end of the tokens the part stays what it was, and the start takes none.
      rw [advance_finished finished] at advanced
      cases advanced
      rw [(reads_of_part unfinished read).state]
      intro state
      exact unfinished ((atStart state).symm.trans finished)
    · exact advance_state_ne_start finished advanced
  · rw [sameRest]
    exact suffix
  · intro state
    rw [sameRest, atStart state]
  · intro begun
    rw [sameRest]
    exact leaves_part vocabulary begun unfinished _ read

/-! ### The whole course -/

/-- After a turn a course goes on with the readings of the rest. -/
theorem readings_turned {middle : Reading} {transition : Option Transition}
    (unfinished : reading.rest ≠ [])
    (read : (part vocabulary reading).outcome = .ok (statement, middle))
    (advanced : advance next middle = .ok (after, transition)) :
    (reading.course next vocabulary).readings reading =
      reading :: (after.course next vocabulary).readings after := by
  rw [course_turned unfinished read advanced]
  rfl

theorem final_cons (start : Reading) (beat : Beat) (course : Course) :
    (Course.cons beat course).final start = course.final beat.reading := by
  unfold Course.final Course.cons
  rw [List.getLast?_cons]
  cases course.beats.getLast? <;> rfl

/-- Every reading of a course moves on from the one before it. -/
theorem isChain_course (next : NextStates) (vocabulary : Vocabulary) (reading : Reading) :
    ((reading.course next vocabulary).readings reading).IsChain MovesOn := by
  induction reading using courseInduction next vocabulary with
  | finished reading finished =>
      rw [course_finished finished]
      exact List.isChain_singleton reading
  | failed reading fault unfinished failed =>
      rw [course_failed unfinished failed]
      exact List.isChain_singleton reading
  | unfollowed reading statement middle fault unfinished read failed =>
      rw [course_unfollowed unfinished read failed]
      exact List.isChain_singleton reading
  | turned reading statement middle after transition unfinished read advanced further =>
      rw [readings_turned unfinished read advanced]
      exact List.isChain_cons_cons.mpr ⟨Turn.movesOn ⟨unfinished, read, advanced⟩, further⟩

/-- A course ends with its tokens, or at a reading that can go no further. -/
theorem course_final (next : NextStates) (vocabulary : Vocabulary) (reading : Reading) :
    match (reading.course next vocabulary).failure with
    | none => ((reading.course next vocabulary).final reading).rest = []
    | some (fault, _) =>
        StopsAt next vocabulary ((reading.course next vocabulary).final reading) fault := by
  induction reading using courseInduction next vocabulary with
  | finished reading finished =>
      rw [course_finished finished]
      exact finished
  | failed reading fault unfinished failed =>
      rw [course_failed unfinished failed]
      exact .part unfinished failed
  | unfollowed reading statement middle fault unfinished read failed =>
      rw [course_unfollowed unfinished read failed]
      exact .advance unfinished read failed
  | turned reading statement middle after transition unfinished read advanced further =>
      rw [course_turned unfinished read advanced, final_cons]
      exact further

/-- A play that is not understood has a reading that can go no further. -/
theorem stopsAt_of_readTokens {tokens : List Token} {fault : ReadFault}
    (failed : readTokens vocabulary tokens = .error fault) :
    ∃ told final, Passage NextStates.standard vocabulary (ofTokens tokens) told final ∧
      StopsAt NextStates.standard vocabulary final fault := by
  have begun : Passage NextStates.standard vocabulary (ofTokens tokens) [] (ofTokens tokens) :=
    .here
  obtain ⟨final, passed, ended⟩ := course_passage begun
  unfold readTokens Course.outcome at failed
  split at failed
  · rename_i stopped
    cases failed
    rw [stopped] at ended
    exact ⟨_, final, passed, ended⟩
  · cases failed

/-- A course has no more parts than tokens, the start apart. -/
theorem length_course (next : NextStates) (vocabulary : Vocabulary) (reading : Reading) :
    (reading.course next vocabulary).beats.length ≤
      reading.rest.length + if reading.state = .start then 1 else 0 := by
  induction reading using courseInduction next vocabulary with
  | finished reading finished =>
      rw [course_finished finished]
      exact Nat.zero_le _
  | failed reading fault unfinished failed =>
      rw [course_failed unfinished failed]
      exact Nat.zero_le _
  | unfollowed reading statement middle fault unfinished read failed =>
      rw [course_unfollowed unfinished read failed]
      exact Nat.zero_le _
  | turned reading statement middle after transition unfinished read advanced further =>
      have movesOn : MovesOn reading after := Turn.movesOn ⟨unfinished, read, advanced⟩
      rw [if_neg movesOn.begun, Nat.add_zero] at further
      have counted : (reading.course next vocabulary).beats.length =
          (after.course next vocabulary).beats.length + 1 := by
        rw [course_turned unfinished read advanced]
        rfl
      by_cases atStart : reading.state = .start
      · have same := movesOn.start atStart
        rw [if_pos atStart, counted, ← same]
        omega
      · have fewer := movesOn.takes atStart
        rw [if_neg atStart, counted]
        omega

theorem suffix_of_passage {tokens : List Token} {told : List Statement}
    (passed : Passage next vocabulary (ofTokens tokens) told reading) :
    reading.rest <:+ tokens := by
  induction passed with
  | here => exact List.suffix_rfl
  | turn passed turned inductionHypothesis => exact turned.movesOn.suffix.trans inductionHypothesis

end Reading

/-- Whatever the table of parts and the words, the reading of a play comes to an end.
Its start takes no token, and every later part takes at least one, so that there are no
more parts than tokens and the start.  At every moment what is left is an end of the
tokens.  No part begins without a token before it, and none, in whatever state it is
begun, takes more than there are.  The reading ends with the tokens, or it stops before
their end: for a fault of the play, for want of a list of nouns, or because the table
contradicts itself.  The standard table does not, and with it the last cause never
arises.  Every fault is reported, but for one: the file of a list of nouns is no text, or
its path can belong to no file. -/
theorem readings_come_to_an_end (next : NextStates) (vocabulary : Vocabulary)
    (tokens : List Token) :
    let start := Reading.ofTokens tokens
    let course := start.course next vocabulary
    (course.readings start).IsChain Reading.MovesOn ∧
    course.beats.length ≤ tokens.length + 1 ∧
    (∀ reading ∈ course.readings start, reading.rest <:+ tokens) ∧
    (∀ reading, match (Reading.part vocabulary reading).outcome with
      | .ok (_, after) => after.rest <:+ reading.rest ∧
          (reading.rest = [] ∨ reading.state = .start ∨ after.rest.length < reading.rest.length)
      | .error fault => fault.IsAccountedFor vocabulary) ∧
    (match course.failure with
      | none => (course.final start).rest = []
      | some (fault, _) => (course.final start).rest ≠ [] ∧
          (fault.IsAccountedFor vocabulary ∨
            fault.diagnostic.kind = "AmbiguousTransition" ∧ next.Contradicts)) ∧
    (match readTokens vocabulary tokens with
      | .ok _ => True
      | .error fault => fault.IsAccountedFor vocabulary) := by
  intro start course
  refine ⟨Reading.isChain_course next vocabulary start, ?_, ?_, ?_, ?_, ?_⟩
  · exact Reading.length_course next vocabulary start
  · intro reading member
    obtain ⟨told, passed⟩ := passage_of_mem_readings member
    exact Reading.suffix_of_passage passed
  · exact Reading.part_within vocabulary
  · have ended := Reading.course_final next vocabulary start
    split
    · rename_i unfailed
      rw [unfailed] at ended
      exact ended
    · rename_i fault consulted failed
      rw [failed] at ended
      exact ⟨ended.unfinished, Reading.isAccountedFor_of_stopsAt ended⟩
  · split
    · trivial
    · rename_i fault failed
      obtain ⟨told, final, _, stopped⟩ := Reading.stopsAt_of_readTokens failed
      rcases Reading.isAccountedFor_of_stopsAt stopped with accounted | ⟨_, contradicts⟩
      · exact accounted
      · exact absurd contradicts not_contradicts_standard

/-- A table by which every part may follow every other. -/
def looseTable : NextStates := fun _ => State.all

/-- A character declared, and then a verb, which opens no part after a declaration. -/
def interruption : List Token :=
  [⟨.lexeme .punctuation, 1⟩, ⟨.lexeme (.character "Ajax"), 2⟩, ⟨.lexeme .punctuation, 2⟩,
    ⟨.lexeme .be, 3⟩]

/-- By the loose table the verb may open three parts: the declaration before it is not
completed, and the table is to blame.  By the standard table the play is. -/
theorem readings_come_to_an_end_interruption :
    let start := Reading.ofTokens interruption
    let course := start.course looseTable ⟨[]⟩
    (course.final start).rest = interruption.drop 1 ∧
    (course.final start).rest <:+ interruption ∧
    course.beats.length ≤ 5 ∧
    course.failure.map (fun failure => failure.1.diagnostic.kind) = some "AmbiguousTransition" ∧
    looseTable.Contradicts ∧
    ∃ fault, readTokens ⟨[]⟩ interruption = .error fault ∧ fault.IsAccountedFor ⟨[]⟩ := by
  intro start course
  have stopped :
      course.failure.map (fun failure => failure.1.diagnostic.kind) =
        some "AmbiguousTransition" := by decide +kernel
  have last : (course.final start).rest = interruption.drop 1 := by decide +kernel
  have member : course.final start ∈ course.readings start := by decide +kernel
  have refused : (readTokens ⟨[]⟩ interruption).toOption = none := by decide +kernel
  obtain ⟨_, counted, within, _, failed, standard⟩ :=
    readings_come_to_an_end looseTable ⟨[]⟩ interruption
  refine ⟨last, within _ member, counted, stopped, ?_, ?_⟩
  · split at failed
    · rename_i unfailed
      simp only [course, start, unfailed] at stopped
      cases stopped
    · rename_i fault consulted isFailure
      have isAmbiguous : fault.diagnostic.kind = "AmbiguousTransition" := by
        simpa only [course, start, isFailure, Option.map_some, Option.some.injEq] using stopped
      rcases failed.2 with accounted | ⟨_, contradicts⟩
      · cases fault with
        | lexicon fault =>
            -- Every list of this vocabulary can be had.
            rcases accounted with ⟨⟨_, _, absent⟩, _⟩ | ⟨_, _, ⟨_, _, absent⟩, _⟩
            · cases absent
            · cases absent
        | parse fault =>
            rcases accounted with isOfPlay | ⟨_, _, _, _, isLexicon, _⟩
            · rw [ReadFault.IsOfPlay, show fault.cause.kind = _ from isAmbiguous] at isOfPlay
              exact absurd isOfPlay (by decide)
            · cases isLexicon
      · exact contradicts
  · cases read : readTokens ⟨[]⟩ interruption with
    | ok statements =>
        rw [read] at refused
        cases refused
    | error fault =>
        rw [read] at standard
        exact ⟨fault, rfl, standard⟩

/-- Ajax calls Puck a hero. -/
def flattery : List Token :=
  [⟨.lexeme .punctuation, 1⟩, ⟨.lexeme (.character "Ajax"), 2⟩, ⟨.lexeme .punctuation, 2⟩,
    ⟨.lexeme (.character "Puck"), 3⟩, ⟨.lexeme .punctuation, 3⟩, ⟨.act "I" "a", 4⟩,
    ⟨.scene "I" "a", 5⟩, ⟨.enter ["Ajax", "Puck"], 6⟩, ⟨.speaking "Ajax", 7⟩,
    ⟨.lexeme .secondPerson, 7⟩, ⟨.lexeme .be, 7⟩, ⟨.lexeme (.other "hero"), 7⟩,
    ⟨.lexeme .punctuation, 7⟩]

/-- A directory whose list of positive nouns holds one word in a code that is not read. -/
def garbledLists : Shelf :=
  .directory "lists" fun category =>
    match category, undecodable? [0x68, 0xe9, 0x72, 0x6f, 0x73, 0x0a] with
    | .positiveNoun, some complaint => .error (.undecodable complaint)
    | _, _ => .ok ""

/-- The failure of a reading, if it fails. -/
def readingFailure? (vocabulary : Vocabulary) (tokens : List Token) : Option Failure :=
  match readTokens vocabulary tokens with
  | .ok _ => none
  | .error fault => some fault.failure

/-- A list of nouns that is no text ends a reading with a failure that is not reported. -/
theorem garbled_list_goes_unreported :
    readingFailure? (Lexicon.ofShelf garbledLists).vocabulary flattery =
        some (.broken ⟨"UnicodeDecodeError", "\x27utf-8\x27 codec can\x27t decode byte 0xe9 " ++
          "in position 1: invalid continuation byte"⟩) ∧
      ∀ fault, readTokens (Lexicon.ofShelf garbledLists).vocabulary flattery = .error fault →
        ¬ fault.IsOfPlay (Lexicon.ofShelf garbledLists).vocabulary := by
  have broken : readingFailure? (Lexicon.ofShelf garbledLists).vocabulary flattery =
      some (.broken ⟨"UnicodeDecodeError", "\x27utf-8\x27 codec can\x27t decode byte 0xe9 " ++
        "in position 1: invalid continuation byte"⟩) := by decide +kernel
  refine ⟨broken, fun fault failed isOfPlay => ?_⟩
  simp only [readingFailure?, failed, Option.some.injEq] at broken
  cases fault with
  | lexicon fault => exact Failure.noConfusion (isOfPlay.2.symm.trans broken)
  | parse fault => cases broken

end Playhouse

/-
Module: Playhouse.Proofs.JumpSentences
Purpose: The sentences that send a play to another scene: their targets are numerals in whatever
  case, and in whatever case such a sentence is written, it is one.
Main exports: forall_mem_of_renders, Aims, Aims.unique, aims_of_jump, aims_of_conditional,
  TokenKind.target?, TokenKind.aimedAt, Rule.Jumps, Rule.jumps_of_makes, Rule.Jumps.attempt,
  attempt_of_sameLetters
-/
import Playhouse.Proofs.Directions
import Playhouse.Proofs.Headings

namespace Playhouse

open Text
open Pattern

/-! ### Sentences with a target -/

/-- Characters within a sentence: neither a mark that ends it nor a colon. -/
def isInner (c : Char) : Bool :=
  !(isEndMark c || c == ':')

theorem ignoresCase_isInner : IgnoresCase isInner := by
  have stops : IgnoresCase fun c => isEndMark c || c == ':' := by
    apply ignoresCase_of_lone
    intro c isStop
    simp only [isEndMark, Bool.or_eq_true, beq_iff_eq] at isStop
    rcases isStop with ((rfl | rfl) | rfl) | rfl <;> decide
  intro c d same
  exact stops.not same

theorem isInner_of_isBlank {c : Char} (blank : isBlank c) : isInner c := by
  have blanks : ∀ point ∈ blankPoints, isInner (Char.ofNat point) := by decide +kernel
  have inner := blanks c.toNat (mem_blankPoints blank)
  rwa [Char.ofNat_toNat] at inner

theorem isInner_of_isNameLetter {c : Char} (named : isNameLetter c || c == ' ' || c == '\t') :
    isInner c := by
  cases inner : isInner c with
  | true => rfl
  | false =>
      simp only [isInner, isEndMark, Bool.not_eq_false', Bool.or_eq_true, beq_iff_eq] at inner
      rcases inner with ((rfl | rfl) | rfl) | rfl <;> cases named

/-- Where case makes no difference, what renders a word of a kind is of the kind, if white space
is. -/
theorem forall_mem_of_renders {kind : Char → Bool} (ignores : IgnoresCase kind)
    (blankKind : ∀ c, isBlank c → kind c) {word text : List Char} (renders : Renders true word text)
    (each : ∀ c ∈ word, kind c) : ∀ c ∈ text, kind c := by
  induction renders with
  | nil => exact each
  | letter noSpace same rest inductionHypothesis =>
      obtain ⟨firstKind, restKind⟩ := List.forall_mem_cons.mp each
      exact List.forall_mem_cons.mpr ⟨ignores same ▸ firstKind, inductionHypothesis restKind⟩
  | space someBlank blank rest inductionHypothesis =>
      obtain ⟨-, restKind⟩ := List.forall_mem_cons.mp each
      exact List.forall_mem_append.mpr
        ⟨fun c member => blankKind c (blank c member), inductionHypothesis restKind⟩

theorem isInner_of_renders {word text : List Char} (renders : Renders true word text)
    (inner : ∀ c ∈ word, isInner c) : ∀ c ∈ text, isInner c :=
  forall_mem_of_renders ignoresCase_isInner (fun _ => isInner_of_isBlank) renders inner

/-- A numeral in whatever case. -/
def IsRomanInAnyCase (text : List Char) : Prop :=
  ∃ numeral, IsRoman numeral ∧ SameLetters numeral text

namespace IsRomanInAnyCase

variable {text : List Char}

theorem ne_nil (anyCase : IsRomanInAnyCase text) : text ≠ [] := by
  obtain ⟨numeral, isRoman, same⟩ := anyCase
  rintro rfl
  cases same
  exact isRoman.ne_nil rfl

theorem forall_mem {kind : Char → Bool} (ignores : IgnoresCase kind)
    (capitals : romanLetters.all kind) (anyCase : IsRomanInAnyCase text) :
    ∀ c ∈ text, kind c := by
  obtain ⟨numeral, isRoman, same⟩ := anyCase
  apply ignores.forall_mem same
  exact fun c member => List.all_eq_true.mp capitals c (isRoman.inCapitals c member)

theorem isInner (anyCase : IsRomanInAnyCase text) : ∀ c ∈ text, Playhouse.isInner c :=
  anyCase.forall_mem ignoresCase_isInner (by decide)

theorem noBlank (anyCase : IsRomanInAnyCase text) : ∀ c ∈ text, isBlank c = false := by
  intro c member
  simpa using anyCase.forall_mem ignoresCase_isBlank.not (by decide) c member

end IsRomanInAnyCase

/-- A sentence that names its target: it is the last word in front of the mark that ends the
sentence. -/
structure Aims (text target : List Char) : Prop where
  shape : ∃ front gap close ending, text = front ++ (gap ++ (target ++ close)) ++ [ending] ∧
    IsGap gap ∧ IsSpace close ∧ isEndMark ending ∧ ∀ c ∈ front, isInner c
  anyCase : IsRomanInAnyCase target

/-- Words in front of a sentence with a target. -/
theorem Aims.behind {text target : List Char} (aims : Aims text target) {words : List Char}
    (inner : ∀ c ∈ words, isInner c) : Aims (words ++ text) target := by
  obtain ⟨⟨front, gap, close, ending, rfl, isGap, closes, ends, frontInner⟩, anyCase⟩ := aims
  refine ⟨⟨words ++ front, gap, close, ending, by simp, isGap, closes, ends, ?_⟩, anyCase⟩
  exact List.forall_mem_append.mpr ⟨inner, frontInner⟩

/-- A sentence with a target ends with its first mark, and its target is its last word. -/
theorem Aims.inner {text target : List Char} (aims : Aims text target) :
    ∃ body ending, text = body ++ [ending] ∧ (∀ c ∈ body, isInner c) ∧ isEndMark ending ∧
      (wordsOf body).getLast? = some target := by
  obtain ⟨⟨front, gap, close, ending, rfl, isGap, closes, ends, frontInner⟩, anyCase⟩ := aims
  refine ⟨_, ending, rfl, ?_, ends, ?_⟩
  · simp only [List.forall_mem_append]
    exact ⟨frontInner, fun c member => isInner_of_isBlank (isGap.2 c member), anyCase.isInner,
      fun c member => isInner_of_isBlank (closes c member)⟩
  · rw [wordsOf_append_blanks isGap.1 isGap.2, wordsOf_append_space closes,
      wordsOf_word anyCase.ne_nil anyCase.noBlank, List.getLast?_append]
    rfl

/-- A text begins with one sentence with a target at most. -/
theorem Aims.unique {text other target targetOther behind behindOther : List Char}
    (aims : Aims text target) (aimsOther : Aims other targetOther)
    (same : text ++ behind = other ++ behindOther) : other = text ∧ targetOther = target := by
  obtain ⟨body, ending, rfl, inner, ends, isLast⟩ := aims.inner
  obtain ⟨bodyOther, endingOther, rfl, innerOther, endsOther, isLastOther⟩ := aimsOther.inner
  have stops {c : Char} (ends : isEndMark c) : isInner c = false := by simp [isInner, ends]
  simp only [List.append_assoc, List.singleton_append] at same
  obtain ⟨rfl, rfl, -⟩ := append_cons_inj_of_span isInner same inner innerOther (stops ends)
    (stops endsOther)
  exact ⟨rfl, Option.some.inj (isLastOther.symm.trans isLast)⟩

/-! ### The patterns of jumps -/

/-- The letters of numerals, in whatever case, stand within a sentence and within a word. -/
theorem isInner_of_romanLetter {c : Char} (isLetter : anyLetterKind true romanLetters c) :
    isInner c ∧ isBlank c = false := by
  obtain ⟨letter, member, same⟩ := List.any_eq_true.mp isLetter
  have capitals : romanLetters.all fun letter => isInner letter && !isBlank letter := by decide
  obtain ⟨inner, noBlank⟩ : isInner letter ∧ isBlank letter = false := by
    simpa using List.all_eq_true.mp capitals letter member
  exact ⟨(ignoresCase_isInner same).symm.trans inner, (ignoresCase_isBlank same).symm.trans noBlank⟩

section

variable {places : Category → Meaning} {before : Option Char} {text behind : List Char}
  {kept : List (List Char)}

/-- A choice of words without an end. -/
theorem isInner_of_choice {words : List String} (someWord : words ≠ [])
    (inner : ∀ word ∈ words, word.toList.all isInner)
    (fits : (choice (words.map (phrase true))).Fits places before text behind kept) :
    (∀ c ∈ text, isInner c) ∧ kept = [] := by
  obtain ⟨pattern, isPattern, patternFits⟩ := (fits_choice (by simpa using someWord)).mp fits
  obtain ⟨word, isWord, rfl⟩ := List.mem_map.mp isPattern
  obtain ⟨renders, noneKept⟩ := fits_phrase.mp patternFits
  exact ⟨isInner_of_renders renders (List.all_eq_true.mp (inner word isWord)), noneKept⟩

/-- The words of a jump in front of its target. -/
theorem isInner_of_jumpWords
    (fits : (choice (["let us", "we must", "we shall"].map (phrase true)) ++ someBlanks ++
      choice (["proceed", "return"].map (phrase true)) ++ someBlanks ++
      phrase true "to scene").Fits places before text behind kept) :
    (∀ c ∈ text, isInner c) ∧ kept = [] := by
  obtain ⟨_, object, _, _, rfl, rfl, ⟨_, _, _, _, rfl, rfl, ⟨_, verb, _, _, rfl, rfl,
    ⟨subject, _, _, _, rfl, rfl, subjectFits, gapFits⟩, verbFits⟩, alsoGapFits⟩, objectFits⟩ := fits
  obtain ⟨subjectInner, rfl⟩ := isInner_of_choice (by simp) (by decide) subjectFits
  obtain ⟨verbInner, rfl⟩ := isInner_of_choice (by simp) (by decide) verbFits
  obtain ⟨renders, rfl⟩ := fits_phrase.mp objectFits
  obtain ⟨isGap, rfl⟩ := fits_someBlanks.mp gapFits
  obtain ⟨isAlsoGap, rfl⟩ := fits_someBlanks.mp alsoGapFits
  refine ⟨?_, rfl⟩
  simp only [List.forall_mem_append]
  exact ⟨⟨⟨⟨subjectInner, fun c member => isInner_of_isBlank (isGap.2 c member)⟩, verbInner⟩,
    fun c member => isInner_of_isBlank (isAlsoGap.2 c member)⟩,
    isInner_of_renders renders (List.all_eq_true.mp (by decide))⟩

/-- A jump keeps its target. -/
theorem aims_of_jump (fits : Rule.jumpPhrase.Fits places before text behind kept) :
    ∃ target, kept = [target] ∧ Aims text target := by
  obtain ⟨_, _, _, _, rfl, rfl, ⟨_, close, _, _, rfl, rfl, ⟨_, target, _, _, rfl, rfl,
    ⟨front, gap, _, _, rfl, rfl, frontFits, gapFits⟩, _, numeralFits, rfl⟩, closeFits⟩,
    markFits⟩ := fits
  obtain ⟨⟨ending, rfl, ends⟩, rfl⟩ := fits_mark.mp markFits
  obtain ⟨closes, rfl⟩ := fits_blanks.mp closeFits
  obtain ⟨isGap, rfl⟩ := fits_someBlanks.mp gapFits
  obtain ⟨frontInner, rfl⟩ := isInner_of_jumpWords frontFits
  obtain ⟨begins, ⟨number, small, spelling⟩, rfl⟩ := fits_roman.mp numeralFits
  have positive : 0 < number := by
    apply Nat.pos_of_ne_zero
    rintro rfl
    -- Without a numeral, white space or the end of the sentence would have to be a letter of one.
    cases spelling
    cases close with
    | nil =>
        have inner := (isInner_of_romanLetter begins).1
        simp [isInner, ends] at inner
    | cons c others =>
        have noBlank := (isInner_of_romanLetter begins).2
        rw [closes c List.mem_cons_self] at noBlank
        cases noBlank
  refine ⟨target, rfl, ⟨front, gap, close, ending, by simp, isGap, closes, ends, frontInner⟩, ?_⟩
  exact ⟨romanNumeral number, ⟨number, positive, small, rfl⟩, spelling⟩

/-- So does a conditional jump. -/
theorem aims_of_conditional {condition : String}
    (inner : condition.toList.all isInner)
    (fits : (Rule.conditionalPhrase condition).Fits places before text behind kept) :
    ∃ target, kept = [target] ∧ Aims text target := by
  obtain ⟨_, jump, _, _, rfl, rfl, ⟨words, space, _, _, rfl, rfl, wordsFit, spaceFits⟩,
    jumpFits⟩ := fits
  obtain ⟨renders, rfl⟩ := fits_phrase.mp wordsFit
  obtain ⟨isSpace, rfl⟩ := fits_blanks.mp spaceFits
  obtain ⟨target, rfl, aims⟩ := aims_of_jump jumpFits
  refine ⟨target, rfl, aims.behind ?_⟩
  exact List.forall_mem_append.mpr
    ⟨isInner_of_renders renders (List.all_eq_true.mp inner),
      fun c member => isInner_of_isBlank (isSpace c member)⟩

end

/-! ### The rules for jumps -/

/-- Where a token sends the play, if it is a jump. -/
def TokenKind.target? : TokenKind → Option String
  | jump target | conditionalJump _ target => some target
  | _ => none

/-- The same jump to another place. -/
def TokenKind.aimedAt (target : String) : TokenKind → TokenKind
  | jump _ => jump target
  | conditionalJump affirmed _ => conditionalJump affirmed target
  | kind => kind

namespace Rule

/-- The patterns of the sentences that jump, and the tokens made of their targets. -/
inductive Jumps : Pattern Category → (String → TokenKind) → Prop where
  | ifSo : Jumps (conditionalPhrase "If so,") (.conditionalJump true)
  | ifNot : Jumps (conditionalPhrase "If not,") (.conditionalJump false)
  | always : Jumps jumpPhrase .jump

/-- The rule for a sentence that jumps. -/
def jumping (pattern : Pattern Category) (make : String → TokenKind) : Rule :=
  plain pattern fun found => some (make (String.ofList (nthGroup 0 found)))

/-- The rules in front of those for jumps. -/
def beforeJumps : List Rule :=
  structural ++ commands ++ operations

/-- None of them makes a token with a target. -/
theorem target?_of_beforeJumps {rule : Rule} (member : rule ∈ beforeJumps) {found : Found}
    {kind : TokenKind} (built : rule.build found = some kind) : kind.target? = none := by
  simp only [beforeJumps, structural, commands, operations, List.mem_append, List.mem_cons,
    List.not_mem_nil, or_false] at member
  rcases member with ((rfl | rfl | rfl | rfl | rfl | rfl | rfl | rfl | rfl) |
    (rfl | rfl | rfl | rfl)) | (rfl | rfl) <;> cases built <;> rfl

namespace Jumps

variable {pattern : Pattern Category} {make : String → TokenKind}

theorem target?_eq (jumps : Jumps pattern make) (target : String) :
    (make target).target? = some target := by
  cases jumps <;> rfl

theorem aimedAt_eq (jumps : Jumps pattern make) (target other : String) :
    (make target).aimedAt other = make other := by
  cases jumps <;> rfl

theorem slots_eq_nil (jumps : Jumps pattern make) : pattern.slots = [] := by
  cases jumps <;> rfl

/-- They keep their target. -/
theorem aims (jumps : Jumps pattern make) {places : Category → Meaning} {before : Option Char}
    {text behind : List Char} {kept : List (List Char)}
    (fits : pattern.Fits places before text behind kept) :
    ∃ target, kept = [target] ∧ Aims text target := by
  cases jumps with
  | ifSo | ifNot => exact aims_of_conditional (by decide) fits
  | always => exact aims_of_jump fits

/-- They make no difference between the cases of a letter. -/
theorem caseless (jumps : Jumps pattern make) : pattern.Caseless := by
  have words (words : List String) :
      (choice (words.map (phrase true)) : Pattern Category).Caseless := by
    apply caseless_choice
    rw [List.forall_mem_map]
    exact fun word _ => caseless_phrase word
  have jump : jumpPhrase.Caseless :=
    ⟨⟨⟨⟨⟨⟨⟨⟨words _, ignoresCase_isBlank⟩, words _⟩, ignoresCase_isBlank⟩, caseless_phrase _⟩,
      ignoresCase_isBlank⟩, caseless_roman⟩, ignoresCase_isBlank⟩, ignoresCase_isEndMark⟩
  cases jumps with
  | ifSo | ifNot => exact ⟨⟨caseless_phrase _, ignoresCase_isBlank⟩, jump⟩
  | always => exact jump

end Jumps

/-- A token with a target is made of a sentence that jumps, and the target is what is kept of the
sentence. -/
theorem jumps_of_makes {text behind : List Char} {groups : List (List Char)}
    {pattern : Pattern Category} {kind : TokenKind} (made : Makes ⟨text, groups⟩ pattern kind)
    {target : String} (aimed : kind.target? = some target) {places : Category → Meaning}
    {before : Option Char} (fits : pattern.Fits places before text behind groups) :
    ∃ make, Jumps pattern make ∧ kind = make target ∧ groups = [target.toList] ∧
      Aims text target.toList := by
  have isJump : ∃ make, Jumps pattern make ∧
      kind = make (String.ofList (nthGroup 0 ⟨text, groups⟩)) := by
    cases made with
    | ifSo => exact ⟨_, .ifSo, rfl⟩
    | ifNot => exact ⟨_, .ifNot, rfl⟩
    | jump => exact ⟨_, .always, rfl⟩
    | order isOrder =>
        simp only [List.mem_cons, List.not_mem_nil, or_false] at isOrder
        rcases isOrder with rfl | rfl | rfl | rfl | rfl | rfl <;> cases aimed
    | act | scene | enterTwo | enterOne | exitTwo | exitOne | exitAll | speaking | lexeme =>
        cases aimed
  obtain ⟨make, jumps, rfl⟩ := isJump
  obtain ⟨kept, rfl, aims⟩ := jumps.aims fits
  obtain rfl : String.ofList kept = target :=
    Option.some.inj ((jumps.target?_eq _).symm.trans aimed)
  exact ⟨make, jumps, rfl, by rw [String.toList_ofList], by rwa [String.toList_ofList]⟩

/-! ### The rules in front of them -/

/-- The words with which sentences that jump begin. -/
def jumpOpenings : List String :=
  ["If so,", "If not,", "let us", "we must", "we shall"]

theorem jumpOpenings_begin :
    ∀ word ∈ jumpOpenings, word.toList.head?.any fun next => !isBlank next := by
  decide

section

variable (vocabulary : Vocabulary)

/-- Headings and directions begin with other words. -/
theorem structural_avoids :
    ∀ rule ∈ (structural.drop 1).take 7, rule.Avoids vocabulary jumpOpenings := by
  simp only [structural, List.drop_succ_cons, List.drop_zero, List.take_succ_cons, List.take_zero,
    List.forall_mem_cons]
  exact ⟨⟨_, opens_heading _ "Act", by decide⟩, ⟨_, opens_heading _ "Scene", by decide⟩,
    ⟨_, opens_directionForTwo _ _, by decide⟩, ⟨_, opens_directionForOne _ _, by decide⟩,
    ⟨_, opens_directionForTwo _ _, by decide⟩, ⟨_, opens_directionForOne _ _, by decide⟩,
    ⟨_, ((((opens_literal "[").append _).append _).append _).append _, by decide⟩, by simp⟩

/-- So do commands. -/
theorem commands_avoid : ∀ rule ∈ commands, rule.Avoids vocabulary jumpOpenings := by
  simp only [commands, List.forall_mem_cons]
  exact ⟨⟨_, opens_command _ "Listen to" _, by decide⟩, ⟨_, opens_command _ "Open" _, by decide⟩,
    ⟨_, opens_command _ "Speak" _, by decide⟩, ⟨_, opens_command _ "Open" _, by decide⟩, by simp⟩

/-- And so do phrases for arithmetic. -/
theorem operations_avoid : ∀ rule ∈ operations, rule.Avoids vocabulary jumpOpenings := by
  have unary (places : Category → Meaning) :
      Opens places (choice [phrase true "the square of", phrase true "the cube of",
        phrase true "twice" ++ edge, phrase true "the square root of"])
        ["the square of", "the cube of", "twice", "the square root of"] := by
    apply opens_choice (by simp)
    simp only [List.forall_mem_cons]
    exact ⟨(opens_phrase _).mono (by simp), (opens_phrase _).mono (by simp),
      ((opens_phrase _).append _).mono (by simp), (opens_phrase _).mono (by simp), by simp⟩
  simp only [operations, List.forall_mem_cons]
  exact ⟨⟨_, opens_phrases (by simp), by decide⟩, ⟨_, unary _, by decide⟩, by simp⟩

variable {vocabulary} {before : Option Char} {behind : List Char}

/-- No speaker is announced in front of a sentence with a target. -/
theorem refuses_speech {build : Found → Option TokenKind} {text target : List Char}
    (aims : Aims text target) :
    (vocabulary.fill (plain (speechName ++ blanks ++ literal false ":") build)).Refuses before
      (text ++ behind) := by
  apply refuses_of_no_fit (isReady_of_noSlots rfl)
  intro found rest kept isText fits
  obtain ⟨_, _, _, _, rfl, rfl, ⟨name, space, _, _, rfl, rfl, nameFits, spaceFits⟩,
    colonFits⟩ := fits
  obtain ⟨rfl, rfl⟩ := fits_literal.mp colonFits
  obtain ⟨isSpace, rfl⟩ := fits_blanks.mp spaceFits
  obtain ⟨body, ending, rfl, inner, ends, -⟩ := aims.inner
  have nameInner : ∀ c ∈ name, isInner c := by
    obtain ⟨_, ⟨_, others, _, _, rfl, rfl, ⟨⟨c, rfl, isLetter⟩, rfl⟩, repeats, rfl⟩,
      rfl⟩ := nameFits
    have first : isInner c := isInner_of_isNameLetter (by simp [isLetter])
    exact List.forall_mem_cons.mpr
      ⟨first, fun d member => isInner_of_isNameLetter (repeats.kind d member)⟩
  have announced : ∀ c ∈ name ++ space, isInner c :=
    List.forall_mem_append.mpr
      ⟨nameInner, fun c member => isInner_of_isBlank (isSpace c member)⟩
  -- The colon would have to be the mark that ends the sentence.
  have same : body ++ ending :: behind = (name ++ space) ++ ':' :: rest := by simpa using isText
  obtain ⟨-, rfl, -⟩ := append_cons_inj_of_span isInner same inner announced
    (by simp [isInner, ends]) (by decide)
  cases ends

/-- The rules in front of those for jumps refuse a sentence that jumps. -/
theorem refuses_beforeJumps (ready : ∀ rule ∈ beforeJumps, (vocabulary.fill rule).IsReady)
    {word : String} (isOpening : word ∈ jumpOpenings) {opening others target : List Char}
    (renders : Renders true word.toList opening) (aims : Aims (opening ++ others) target) :
    ∀ rule ∈ beforeJumps,
      (vocabulary.fill rule).Refuses before (opening ++ (others ++ behind)) := by
  have isSplit : structural = plain someBlanks skip :: ((structural.drop 1).take 7 ++
      [plain (speechName ++ blanks ++ literal false ":") fun found =>
        some (.speaking (normalizeName (nthGroup 0 found)))]) := rfl
  intro rule member
  have refuses (avoids : rule.Avoids vocabulary jumpOpenings) :=
    avoids.refuses (ready rule member) isOpening renders before (others ++ behind)
  rcases List.mem_append.mp member with inFront | operation
  · rcases List.mem_append.mp inFront with structuralRule | command
    · rw [isSplit, List.mem_cons, List.mem_append, List.mem_singleton] at structuralRule
      rcases structuralRule with rfl | inner | rfl
      · obtain ⟨c, letters, rfl, noBlank⟩ := exists_head_of_renders renders
          (jumpOpenings_begin word isOpening)
        exact refuses_someBlanks vocabulary noBlank before _
      · exact refuses (structural_avoids vocabulary rule inner)
      · rw [← List.append_assoc]
        exact refuses_speech aims
    · exact refuses (commands_avoid vocabulary rule command)
  · exact refuses (operations_avoid vocabulary rule operation)

/-- Behind them, a rule for jumps finds the whole sentence. -/
theorem Jumps.attempt_of_split {pattern : Pattern Category} {make : String → TokenKind}
    (jumps : Jumps pattern make) (ready : ∀ rule ∈ beforeJumps, (vocabulary.fill rule).IsReady)
    {between later : List Rule}
    (isSplit : table = beforeJumps ++ between ++ jumping pattern make :: later)
    {words : List String} (opens : Opens (vocabulary.meaning false) pattern words)
    (areOpenings : ∀ word ∈ words, word ∈ jumpOpenings)
    (betweenAvoid : ∀ rule ∈ between, rule.pattern.slots = [] ∧ rule.Avoids vocabulary words)
    {text target : List Char}
    (fits : pattern.Fits (vocabulary.meaning false) before text behind [target]) :
    ∃ tried, attempt before (text ++ behind) 0 (table.map vocabulary.fill) =
      .found text (some (make (String.ofList target))) tried := by
  obtain ⟨target, isTarget, aims⟩ := jumps.aims fits
  cases isTarget
  obtain ⟨word, isWord, opening, others, rfl, renders⟩ := opens _ _ _ _ fits
  have earlierRefuse : ∀ filled ∈ (beforeJumps ++ between).map vocabulary.fill,
      filled.Refuses before (opening ++ others ++ behind) := by
    rw [List.forall_mem_map, List.forall_mem_append, List.append_assoc]
    refine ⟨refuses_beforeJumps ready (areOpenings word isWord) renders aims, ?_⟩
    intro rule member
    obtain ⟨noSlots, avoids⟩ := betweenAvoid rule member
    exact avoids.refuses (isReady_of_noSlots noSlots) isWord renders before _
  have found : ∃ found, (vocabulary.fill (jumping pattern make)).Finds before
      (opening ++ others ++ behind) found := by
    apply exists_finds (isReady_of_noSlots jumps.slots_eq_nil)
    · intro kept emptyFits
      obtain ⟨_, -, aimsEmpty⟩ := jumps.aims emptyFits
      obtain ⟨body, ending, isEmpty, -⟩ := aimsEmpty.inner
      simp at isEmpty
    · exact fits
  obtain ⟨⟨text, groups⟩, finds⟩ := found
  obtain ⟨rest, isRest, foundFits⟩ := fits_of_finds finds
  obtain ⟨other, rfl, aimsOther⟩ := jumps.aims foundFits
  obtain ⟨rfl, rfl⟩ := aims.unique aimsOther isRest
  rw [isSplit, List.map_append, List.map_cons]
  exact ⟨_, attempt_of_earlier earlierRefuse finds⟩

/-- A sentence that jumps is found as a whole. -/
theorem Jumps.attempt {pattern : Pattern Category} {make : String → TokenKind}
    (jumps : Jumps pattern make) (ready : ∀ rule ∈ beforeJumps, (vocabulary.fill rule).IsReady)
    {text target : List Char}
    (fits : pattern.Fits (vocabulary.meaning false) before text behind [target]) :
    ∃ tried, Playhouse.attempt before (text ++ behind) 0 (table.map vocabulary.fill) =
      .found text (some (make (String.ofList target))) tried := by
  cases jumps with
  | ifSo =>
      have isSplit : table = beforeJumps ++ [] ++ jumping (conditionalPhrase "If so,") _ :: _ := rfl
      exact Jumps.ifSo.attempt_of_split ready isSplit (opens_conditionalPhrase _ _) (by decide)
        (by simp) fits
  | ifNot =>
      have isSplit : table =
          beforeJumps ++ Rule.jumps.take 1 ++ jumping (conditionalPhrase "If not,") _ :: _ := rfl
      apply Jumps.ifNot.attempt_of_split ready isSplit (opens_conditionalPhrase _ _) _ _ fits
      · decide
      · simp only [Rule.jumps, List.take_succ_cons, List.take_zero, List.forall_mem_cons]
        exact ⟨⟨rfl, _, opens_conditionalPhrase _ "If so,", by decide⟩, by simp⟩
  | always =>
      have isSplit : table = beforeJumps ++ Rule.jumps.take 3 ++ jumping jumpPhrase _ :: _ := rfl
      apply Jumps.always.attempt_of_split ready isSplit (opens_jumpPhrase _) _ _ fits
      · decide
      · simp only [Rule.jumps, List.take_succ_cons, List.take_zero, List.forall_mem_cons]
        exact ⟨⟨rfl, _, opens_conditionalPhrase _ "If so,", by decide⟩,
          ⟨rfl, _, opens_conditionalPhrase _ "If not,", by decide⟩,
          ⟨rfl, _, (opens_literal "and").append _, by decide⟩, by simp⟩

/-- Where a sentence that jumps is found, the rules in front of those for jumps have been tried in
vain. -/
theorem ready_of_target {rest text : List Char} {kind : TokenKind} {tried : Nat} {target : String}
    (found : Playhouse.attempt before rest 0 (table.map vocabulary.fill) =
      .found text (some kind) tried)
    (aimed : kind.target? = some target) :
    ∀ rule ∈ beforeJumps, (vocabulary.fill rule).IsReady := by
  have refused : ∀ filled ∈ beforeJumps.map vocabulary.fill, filled.Refuses before rest := by
    have isSplit : table.map vocabulary.fill = beforeJumps.map vocabulary.fill ++
        (jumps ++ comparisons ++ memories ++ classes ++ remainders).map vocabulary.fill := rfl
    rw [isSplit] at found
    rcases finds_or_refuse_of_attempt found with ⟨filled, isFilled, found, isBuilt⟩ | refuse
    · obtain ⟨rule, isRule, rfl⟩ := List.mem_map.mp isFilled
      rw [target?_of_beforeJumps isRule isBuilt.symm] at aimed
      cases aimed
    · exact refuse
  intro rule member
  obtain ⟨pattern, isPattern, -⟩ := refused _ (List.mem_map_of_mem member)
  exact ⟨pattern, isPattern⟩

end

end Rule

open Rule

/-- In whatever case a sentence that jumps is written, it is one, and its target is the same but
for case. -/
theorem attempt_of_sameLetters {vocabulary : Vocabulary} {before : Option Char}
    {sentence variant behind : List Char} {kind : TokenKind} {tried : Nat} {target : String}
    (found : attempt before (sentence ++ behind) 0 (table.map vocabulary.fill) =
      .found sentence (some kind) tried)
    (aimed : kind.target? = some target) (same : SameLetters sentence variant) :
    ∃ other tried, SameLetters target.toList other.toList ∧
      attempt before (variant ++ behind) 0 (table.map vocabulary.fill) =
        .found variant (some (kind.aimedAt other)) tried := by
  have ready := ready_of_target found aimed
  obtain ⟨earlier, filled, later, ⟨_, groups⟩, isSplit, -, finds, rfl, isBuilt, -⟩ :=
    rule_of_attempt found
  have isFilled : filled ∈ table.map vocabulary.fill := by simp [isSplit]
  obtain ⟨rule, isRule, rfl⟩ := List.mem_map.mp isFilled
  obtain ⟨rest, isRest, fits⟩ := fits_of_finds finds
  obtain rfl : behind = rest := List.append_cancel_left isRest
  obtain ⟨make, jumps, rfl, rfl, -⟩ :=
    jumps_of_makes (makes_of_build isRule isBuilt.symm) aimed fits
  obtain ⟨_, variantFits, sameKept⟩ := fits_of_sameLetters jumps.caseless fits
    (vocabulary.meaning false) before same (sameLetters_refl behind)
  obtain ⟨other, rfl, -⟩ := jumps.aims variantFits
  obtain ⟨tried, variantFound⟩ := jumps.attempt ready variantFits
  refine ⟨String.ofList other, tried, ?_, ?_⟩
  · rw [String.toList_ofList]
    cases sameKept with
    | cons sameTarget _ => exact sameTarget
  · rw [jumps.aimedAt_eq]
    exact variantFound

end Playhouse

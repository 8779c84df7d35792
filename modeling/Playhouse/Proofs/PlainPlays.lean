/-
Module: Playhouse.Proofs.PlainPlays
Purpose: The names and tags of a play are plain if the words of its vocabulary are, so that the
  play is known, but for its lines, by the transcripts of its statements.
Main exports: Text.isPlain_normalizeName, Vocabulary.HasPlainNames, isPlain_of_called,
  isPlain_of_mentioned, Reading.declared_of_passage, Action.isPlain_of_sayable,
  isPlain_of_readSource, transcripts_tell_nodes_apart
-/
import Playhouse.Proofs.JumpTargets
import Playhouse.Proofs.Naming
import Playhouse.Proofs.Rendering
import Playhouse.Proofs.Soundness
import Playhouse.Proofs.Transcripts

namespace Playhouse

open Text
open Pattern

/-! ### Plain names -/

namespace Text

theorem mem_lonePoints_of_isDivider {c : Char} (divides : isDivider c) :
    c.toNat ∈ lonePoints := by
  simp only [isDivider, Bool.or_eq_true, beq_iff_eq] at divides
  rcases divides with (rfl | rfl) | rfl <;> decide

theorem ignoresCase_isDivider : IgnoresCase isDivider :=
  ignoresCase_of_lone fun _ => mem_lonePoints_of_isDivider

theorem isDivider_of_isBlank {c : Char} (blank : isBlank c) : isDivider c = false := by
  have blanks : ∀ point ∈ blankPoints, isDivider (Char.ofNat point) = false := by decide +kernel
  have noDivider := blanks c.toNat (mem_blankPoints blank)
  rwa [Char.ofNat_toNat] at noDivider

/-- What renders plain text is plain. -/
theorem IsPlain.renders {word text : List Char} (plain : IsPlain word)
    (renders : Renders true word text) : IsPlain text := by
  have ofBlank (d : Char) (blank : isBlank d) : !isDivider d := by
    simp [isDivider_of_isBlank blank]
  have inWord (d : Char) (member : d ∈ word) : !isDivider d := by
    simp [plain d member]
  intro c member
  simpa using forall_mem_of_renders ignoresCase_isDivider.not ofBlank renders inWord c member

theorem isPlain_of_isLettered {raw : List Char} (lettered : IsLettered raw) : IsPlain raw := by
  intro c member
  rcases Bool.or_eq_true_iff.mp (lettered c member) with isLetter | blank
  · by_contra divides
    simp only [isDivider, Bool.not_eq_false, Bool.or_eq_true, beq_iff_eq] at divides
    rcases divides with (rfl | rfl) | rfl <;> cases isLetter
  · exact isDivider_of_isBlank blank

theorem isPlain_intercalate {words : List (List Char)} (plain : ∀ word ∈ words, IsPlain word) :
    IsPlain ([' '].intercalate words) := by
  induction words with
  | nil => simp [IsPlain]
  | cons word others inductionHypothesis =>
      obtain ⟨first, othersPlain⟩ := List.forall_mem_cons.mp plain
      cases others with
      | nil => simpa using first
      | cons next more =>
          have space : IsPlain [' '] := by decide
          rw [List.intercalate_cons_cons]
          exact (first.append space).append (inductionHypothesis othersPlain)

/-- The normal form of plain text is plain: title case brings in no comma and no bracket. -/
theorem isPlain_normalizeName {raw : List Char} (plain : IsPlain raw) :
    IsPlain (normalizeName raw).toList := by
  have words : ∀ word ∈ wordsOf raw, IsPlain word := by
    intro word member c inWord
    have noDivider : isDivider c = false :=
      forall_mem_of_mem_wordsFrom (fun d inRaw _ => plain d inRaw) (by simp) member c inWord
    exact noDivider
  rw [normalizeName, String.toList_ofList]
  intro c member
  by_contra divides
  have lone := mem_lonePoints_of_isDivider (Bool.not_eq_false _ ▸ divides)
  exact divides (isPlain_intercalate words c (mem_of_mem_titleFrom member lone))

end Text

/-! ### Names among the tokens -/

/-- No character of the vocabulary has a comma or a bracket in its name. -/
def Vocabulary.HasPlainNames (vocabulary : Vocabulary) : Prop :=
  ∀ list, vocabulary.list .character = .ok list → ∀ word ∈ list.words, IsPlain word.toList

/-- The characters of the library are spelled in letters. -/
theorem Vocabulary.hasPlainNames_bundled : Vocabulary.bundled.HasPlainNames := by
  have plainLetters : IsPlain letters := by decide
  obtain ⟨_, _, _, _, _, names⟩ := phrasebook
  intro list isList
  cases isList
  intro word isWord c member
  obtain ⟨spelled, -, -⟩ := names _ (List.mem_map_of_mem isWord)
  have inLetters := List.all_eq_true.mp (Bool.and_eq_true_iff.mp spelled).2 c member
  exact plainLetters c (List.contains_iff_mem.mp inLetters)

/-- What the words of a list find renders one of them, unless there are none. -/
theorem WordList.renders_of_fits {list : WordList} {caseless : Bool} {places : Empty → Meaning}
    {before : Option Char} {text behind : List Char} {kept : List (List Char)}
    (fits : (list.pattern caseless).Fits places before text behind kept) :
    text = [] ∨ ∃ word ∈ list.words, Renders caseless word.toList text := by
  obtain ⟨_, _, _, _, rfl, -, ⟨_, _, _, _, rfl, -, ⟨-, rfl, -⟩, _, inner, -⟩, -, rfl, -⟩ := fits
  rw [List.nil_append, List.append_nil]
  by_cases someWord : longestFirst list.words = []
  · rw [someWord] at inner
    exact Or.inl inner.1
  · obtain ⟨_, isPhrase, phraseFits⟩ := (fits_choice (mt List.map_eq_nil_iff.mp someWord)).mp inner
    obtain ⟨word, isWord, rfl⟩ := List.mem_map.mp isPhrase
    exact Or.inr ⟨word, mem_longestFirst.mp isWord, (fits_phrase.mp phraseFits).1⟩

section

variable {vocabulary : Vocabulary} {source : List Char} {step : Step} {name : String}

/-- Whoever enters, leaves or speaks has a plain name, whatever the words are. -/
theorem isPlain_of_called (member : step ∈ (scan Rule.table vocabulary source).steps)
    {kind : TokenKind} (isKind : step.kind = some kind) (carried : name ∈ kind.carried)
    (noWord : kind ≠ .lexeme (.character name)) : IsPlain name.toList := by
  obtain ⟨raw, -, rfl, isWord | lettered⟩ := raw_of_carried member isKind carried
  · exact absurd isWord noWord
  · exact isPlain_normalizeName (isPlain_of_isLettered lettered)

/-- So has everybody else who is named, if the characters of the vocabulary have. -/
theorem isPlain_of_mentioned (hasPlain : vocabulary.HasPlainNames)
    (member : step ∈ (scan Rule.table vocabulary source).steps)
    (mentions : step.kind = some (.lexeme (.character name))) : IsPlain name.toList := by
  obtain ⟨rfl, before, behind, kept, means⟩ := fits_of_character member mentions
  obtain ⟨list, had, fits⟩ := Vocabulary.exists_list_of_meaning means
  apply isPlain_normalizeName
  rcases WordList.renders_of_fits fits with isEmpty | ⟨word, isWord, renders⟩
  · rw [isEmpty]
    exact List.forall_mem_nil _
  · exact (hasPlain list had word isWord).renders renders

end

/-! ### Declarations -/

namespace Reading

variable {vocabulary : Vocabulary} {reading after : Reading} {tokens : List Token}
  {told : List Statement} {name : String}

/-- Somebody is declared by a token of the vocabulary's characters. -/
theorem Reads.declaredBy {made : Statement} (read : Reads vocabulary reading (some made) after)
    (declares : made.action.declared? = some name) :
    ∃ line, ⟨.lexeme (.character name), line⟩ ∈ reading.rest := by
  cases read with
  | declaration state here =>
      cases declares
      exact ⟨_, here ▸ List.mem_cons_self⟩
  | @address kind action line rest listener state here isAddress =>
      cases kind <;> cases isAddress <;> cases declares
  | scene | push | jump | conditionalJump | assignment => cases declares

/-- All who have been declared on a passage stand among its tokens. -/
theorem declared_of_passage
    (passed : Passage NextStates.standard vocabulary (ofTokens tokens) told reading) :
    ∀ name ∈ declaredNames told, ∃ line, ⟨.lexeme (.character name), line⟩ ∈ tokens := by
  induction passed with
  | here => simp [declaredNames]
  | @turn told middle after statement passed turned inductionHypothesis =>
      intro name declared
      rw [declaredNames_append] at declared
      rcases List.mem_append.mp declared with before | new
      · exact inductionHypothesis name before
      · obtain ⟨outline, -, plotted⟩ := plotted_of_passage passed
        obtain ⟨made, isMade, declares⟩ := List.mem_filterMap.mp new
        obtain rfl := Option.mem_toList.mp isMade
        obtain ⟨_, _, read, -⟩ := turned.reads
        obtain ⟨line, isHere⟩ := read.declaredBy declares
        exact ⟨line, plotted.suffix.mem isHere⟩

end Reading

/-! ### Statements -/

section

variable {declared : NameSet}

/-- Where only plain names are declared, what can be said is plain. -/
theorem Expr.isPlain_of_sayable (plain : ∀ name ∈ declared, Text.IsPlain name.toList)
    {expression : Expr} (sayable : expression.Sayable declared) : expression.IsPlain := by
  induction expression with
  | character name line =>
      obtain ⟨known, isDeclared, rfl⟩ := sayable
      exact ⟨known, rfl, plain known isDeclared⟩
  | number value line => trivial
  | unary operation operand line inductionHypothesis => exact inductionHypothesis sayable
  | binary operation lhs rhs line leftHypothesis rightHypothesis =>
      exact ⟨leftHypothesis sayable.1, rightHypothesis sayable.2⟩
  | foreign transcript line => exact sayable.elim

/-- So are the statements that are told, if their jumps lead to plain tags. -/
theorem Action.isPlain_of_sayable (plain : ∀ name ∈ declared, Text.IsPlain name.toList)
    {action : Action} (sayable : action.Sayable declared) (isTold : action.isTold)
    (leads : ∀ tag, action.destination? = some tag → Text.IsPlain tag.toList) : action.IsPlain := by
  cases action with
  | scene | declare | ask | remark => cases isTold
  | scanNumber name | scanCharacter name | printCharacter name | printNumber name | pop name =>
      exact plain name sayable
  | push name value => exact ⟨plain name sayable.1, Expr.isPlain_of_sayable plain sayable.2⟩
  | assign target line value =>
      obtain ⟨⟨known, isDeclared, rfl⟩, valueSayable⟩ := sayable
      exact ⟨⟨known, rfl, plain known isDeclared⟩, Expr.isPlain_of_sayable plain valueSayable⟩
  | jump tag => exact leads tag rfl
  | jumpIf question tag line =>
      exact ⟨⟨Expr.isPlain_of_sayable plain sayable.1, Expr.isPlain_of_sayable plain sayable.2⟩,
        leads tag rfl⟩

end

/-- A tag of two numerals is plain. -/
theorem isPlain_sceneTag {act number : String} (actAnyCase : IsRomanInAnyCase act.toList)
    (anyCase : IsRomanInAnyCase number.toList) : IsPlain (sceneTag act number).toList := by
  have numeral {text : List Char} (anyCase : IsRomanInAnyCase text) : IsPlain text := by
    intro c member
    simpa using anyCase.forall_mem ignoresCase_isDivider.not (by decide) c member
  have point : IsPlain ['.'] := by decide
  simpa [sceneTag] using (numeral actAnyCase).append (point.append (numeral anyCase))

/-! ### Plays -/

section

variable {vocabulary : Vocabulary} {source : String} {tokens : List Token}
  {statements : List Statement}

/-- All who are declared in a play have plain names, if the characters of the vocabulary have. -/
theorem isPlain_of_declared (hasPlain : vocabulary.HasPlainNames)
    (cut : tokenize vocabulary source = .ok tokens)
    (understood : readTokens vocabulary tokens = .ok statements) :
    ∀ name ∈ declaredNames statements, IsPlain name.toList := by
  intro name declared
  obtain ⟨_, -, passed⟩ := passage_of_readTokens understood
  obtain ⟨line, isToken⟩ := Reading.declared_of_passage passed name declared
  obtain ⟨step, isStep, isKind⟩ := exists_step_of_token cut isToken
  exact isPlain_of_mentioned hasPlain isStep isKind

/-- A play that is understood is plain throughout, if the characters of the vocabulary have plain
names. -/
theorem isPlain_of_readSource (hasPlain : vocabulary.HasPlainNames)
    (understood : readSource vocabulary source = .ok statements) :
    ∀ statement ∈ statements, statement.action.IsPlain := by
  have sayable := (wellSaid_of_readSource understood).sayable
  unfold readSource at understood
  split at understood
  · cases understood
  · rename_i tokens cut
    have names := isPlain_of_declared hasPlain cut understood
    obtain ⟨outline, rfl, framed, directed⟩ := directed_of_readTokens cut understood
    intro statement member
    rcases List.mem_append.mp member with declaration | inScenes
    · obtain ⟨character, isCharacter, rfl⟩ := List.mem_map.mp declaration
      exact names _ (sayable _ member)
    · obtain ⟨scene, isScene, inScene⟩ := List.mem_flatMap.mp inScenes
      obtain ⟨_, _, isAct⟩ := (framed scene isScene).act
      obtain ⟨_, isNumber⟩ := (framed scene isScene).number
      have act : IsRomanInAnyCase scene.act.toList :=
        ⟨_, isRoman_of_heading cut (Or.inl isAct), sameLetters_refl _⟩
      have number : IsRomanInAnyCase scene.number.toList :=
        ⟨_, isRoman_of_heading cut (Or.inr isNumber), sameLetters_refl _⟩
      rcases List.mem_cons.mp inScene with rfl | isInside
      · exact isPlain_sceneTag act number
      · apply Action.isPlain_of_sayable names (sayable statement member)
          ((framed scene isScene).told statement isInside)
        intro tag leads
        obtain ⟨token, isToken, target, aimed, rfl⟩ := directed scene isScene statement isInside tag
          leads
        exact isPlain_sceneTag act (isRomanInAnyCase_of_token cut isToken aimed)

end

/-- Nodes are told apart by their transcripts, and plays by what is printed of them.  Let the names
and tags of two nodes hold neither a comma nor a bracket, and let their names be names: if both have
the same transcript, nothing but their lines differs.  If the same is printed of two plays of such
nodes, in full, nothing but their lines differs either.  Whoever enters, leaves or speaks has such
a name, whatever the words are, and so has every character of the library.  And where all characters
of the words have such names, the plays that are understood are plays of such nodes. -/
theorem transcripts_tell_nodes_apart :
    (∀ (action other : Action) text, action.IsPlain → other.IsPlain →
      action.transcript = .ok text → other.transcript = .ok text →
        action.unlined = other.unlined) ∧
    (∀ (statements others : List Statement) output,
      (∀ statement ∈ statements, statement.action.IsPlain) →
      (∀ statement ∈ others, statement.action.IsPlain) →
      CommandLine.printStatements statements = (output, .code 0) →
      CommandLine.printStatements others = (output, .code 0) →
        statements.map Statement.unlined = others.map Statement.unlined) ∧
    (∀ vocabulary source, ∀ step ∈ (scan Rule.table vocabulary source).steps, ∀ kind,
      step.kind = some kind → ∀ name ∈ kind.carried,
        kind ≠ .lexeme (.character name) ∨ vocabulary.HasPlainNames → IsPlain name.toList) ∧
    (∀ word ∈ bundledWords .character, IsPlain (normalizeName word.toList).toList) ∧
    Vocabulary.bundled.HasPlainNames ∧
    ∀ (vocabulary otherVocabulary : Vocabulary) source other statements others output,
      vocabulary.HasPlainNames → otherVocabulary.HasPlainNames →
      readSource vocabulary source = .ok statements →
      readSource otherVocabulary other = .ok others →
      CommandLine.printStatements statements = (output, .code 0) →
      CommandLine.printStatements others = (output, .code 0) →
        statements.map Statement.unlined = others.map Statement.unlined := by
  refine ⟨?_, ?_, ?_, ?_, Vocabulary.hasPlainNames_bundled, ?_⟩
  · intro action other text plain alsoPlain wrote alsoWrote
    have same : text ++ [] = text ++ [] := rfl
    exact (Action.unlined_eq_of_transcript plain alsoPlain wrote alsoWrote same).1
  · intro statements others output plain alsoPlain printed alsoPrinted
    exact CommandLine.unlined_eq_of_printStatements plain alsoPlain printed alsoPrinted
  · intro vocabulary source step member kind isKind name carried known
    by_cases isWord : kind = .lexeme (.character name)
    · have hasPlain := known.resolve_left (not_not_intro isWord)
      exact isPlain_of_mentioned hasPlain member (isWord ▸ isKind)
    · exact isPlain_of_called member isKind carried isWord
  · intro word isWord
    exact isPlain_normalizeName (Vocabulary.hasPlainNames_bundled _ rfl word isWord)
  · intro vocabulary otherVocabulary source other statements others output hasPlain alsoHasPlain
      understood alsoUnderstood printed alsoPrinted
    have plain := isPlain_of_readSource hasPlain understood
    have alsoPlain := isPlain_of_readSource alsoHasPlain alsoUnderstood
    exact CommandLine.unlined_eq_of_printStatements plain alsoPlain printed alsoPrinted

/-- A play of one scene in which nothing happens. -/
def overture : String :=
  "P.\nPuck.\nAct I: a.\nScene I: b."

/-- The same, with the title and the only character on one line. -/
def crowdedOverture : String :=
  "P. Puck.\nAct I: a.\nScene I: b."

def overtureWords : Vocabulary :=
  ⟨[(.character, .ok (WordList.ofWords ["Puck"]))]⟩

/-- The statements of both, with the lines on which they stand. -/
def overtureStatements (declaration scene : Nat) : List Statement :=
  [⟨.declare "Puck", declaration⟩, ⟨.scene "I.I", scene⟩]

/-- A jump on some line, in full. -/
def jumpInFull (line : Nat) : String :=
  "JumpNode(line=" ++ toString line ++ ", tag=\x27I.I\x27)"

/-- An assignment on some line, of the sum of Puck and of a jump, which is no expression. -/
def strangeSum (line : Nat) : Action :=
  .assign (some "Ajax") line
    (.binary .add (.character (some "Puck") line)
      (.foreign (.ofTranscript "Jump(I.I)" (jumpInFull line)) line) line)

theorem isPlain_strangeSum (line : Nat) : (strangeSum line).IsPlain := by
  have jump : (Action.jump "I.I").IsPlain := by
    unfold Action.IsPlain
    decide
  have wrote : (Action.jump "I.I").transcript = .ok "Jump(I.I)".toList := rfl
  have noExpression (value : Expr) : Action.jump "I.I" ≠ .remark value := by
    intro isRemark
    cases isRemark
  have foreign := Action.isPlain_foreign jump noExpression wrote (jumpInFull line) line
  rw [String.ofList_toList] at foreign
  exact ⟨⟨"Ajax", rfl, by decide⟩, ⟨"Puck", rfl, by decide⟩, foreign⟩

/-- The strange sum on two lines, alone and as a play, the entrance of Puck, and two plays that are
printed alike. -/
theorem transcripts_tell_nodes_apart_overture :
    ((strangeSum 3).IsPlain ∧ (strangeSum 9).IsPlain ∧
      (strangeSum 3).transcript = (strangeSum 9).transcript ∧
      (strangeSum 3).unlined = (strangeSum 9).unlined ∧
      [⟨strangeSum 3, 3⟩].map Statement.unlined = [⟨strangeSum 9, 9⟩].map Statement.unlined) ∧
    (⟨"[Enter Puck and Ajax]".toList, 1, some (.enter ["Ajax", "Puck"]), 4⟩ ∈
        (scan Rule.table ⟨[]⟩ "[Enter Puck and Ajax]".toList).steps ∧ IsPlain "Puck".toList) ∧
    overtureWords.HasPlainNames ∧
      readSource overtureWords overture = .ok (overtureStatements 2 4) ∧
      readSource overtureWords crowdedOverture = .ok (overtureStatements 1 3) ∧
      CommandLine.printStatements (overtureStatements 2 4) =
        CommandLine.printStatements (overtureStatements 1 3) ∧
      (overtureStatements 2 4).map Statement.unlined =
        (overtureStatements 1 3).map Statement.unlined := by
  obtain ⟨text, wrote⟩ : ∃ text, ∀ line, (strangeSum line).transcript = .ok text := by
    obtain ⟨text, wrote⟩ : ∃ text, (strangeSum 0).transcript = .ok text := ⟨_, rfl⟩
    exact ⟨text, fun line => Eq.trans (by rfl) wrote⟩
  have alone (line : Nat) : CommandLine.printStatements [⟨strangeSum line, line⟩] =
      ((CommandLine.printStatements [⟨strangeSum 0, 0⟩]).1, .code 0) := rfl
  have plainAlone (line : Nat) : ∀ statement ∈ [(⟨strangeSum line, line⟩ : Statement)],
      statement.action.IsPlain := List.forall_mem_singleton.mpr (isPlain_strangeSum line)
  have entrance : ⟨"[Enter Puck and Ajax]".toList, 1, some (.enter ["Ajax", "Puck"]), 4⟩ ∈
      (scan Rule.table ⟨[]⟩ "[Enter Puck and Ajax]".toList).steps := by decide +kernel
  have hasPlain : overtureWords.HasPlainNames := by
    intro list isList
    cases isList
    decide
  have understood : readSource overtureWords overture = .ok (overtureStatements 2 4) :=
    Consulting.eq_ok_of_toOption (by decide +kernel)
  have alsoUnderstood : readSource overtureWords crowdedOverture =
      .ok (overtureStatements 1 3) :=
    Consulting.eq_ok_of_toOption (by decide +kernel)
  have printed (declaration scene : Nat) :
      CommandLine.printStatements (overtureStatements declaration scene) =
        ((CommandLine.printStatements (overtureStatements 0 0)).1, .code 0) := rfl
  obtain ⟨nodes, plays, called, -, -, understoodPlays⟩ := transcripts_tell_nodes_apart
  refine ⟨⟨isPlain_strangeSum 3, isPlain_strangeSum 9, (wrote 3).trans (wrote 9).symm, ?_, ?_⟩,
    ⟨entrance, ?_⟩, hasPlain, understood, alsoUnderstood, (printed 2 4).trans (printed 1 3).symm,
    ?_⟩
  · exact nodes _ _ _ (isPlain_strangeSum 3) (isPlain_strangeSum 9) (wrote 3) (wrote 9)
  · exact plays _ _ _ (plainAlone 3) (plainAlone 9) (alone 3) (alone 9)
  · refine called ⟨[]⟩ _ _ entrance _ rfl "Puck" (by simp [TokenKind.carried]) (Or.inl ?_)
    intro isWord
    cases isWord
  · exact understoodPlays _ _ _ _ _ _ _ hasPlain hasPlain understood alsoUnderstood
      (printed 2 4) (printed 1 3)

end Playhouse

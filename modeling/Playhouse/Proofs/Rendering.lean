/-
Module: Playhouse.Proofs.Rendering
Purpose: Expressions in English, and their way back through the rules for tokens
  and the reader of phrases.
Main exports: Expr.units, Expr.english, phrasebook, Taken, Spoken, tokenize_of_spoken,
  readExpression_english
-/
import Playhouse.Proofs.Recognition
import Playhouse.Proofs.Wording

namespace Playhouse

open Text Pattern

/-! ### Expressions in English -/

/-- The phrase for a binary operation, in front of its operands. -/
def BinaryOperation.english : BinaryOperation → String
  | add => "the sum of"
  | subtract => "the difference between"
  | multiply => "the product of"
  | divide => "the quotient between"
  | modulo => "the remainder of the quotient between"

/-- The phrase for a unary operation, in front of its operand. -/
def UnaryOperation.english : UnaryOperation → String
  | twice => "twice"
  | square => "the square of"
  | cube => "the cube of"
  | squareRoot => "the square root of"

/-- A name as it is listed: the first listed name of which it is the normal form. -/
def listedName (name : String) : String :=
  ((bundledWords .character).find? fun listed => normalizeName listed.toList == name).getD name

/-- The words and phrases for an expression.  Every number but zero is introduced by
an article. -/
def Expr.units : Expr → List String
  | character name _ => [listedName (name.getD "")]
  | number value _ => if value = 0 then numeralWords value else "a" :: numeralWords value
  | unary operation operand _ => operation.english :: operand.units
  | binary operation lhs rhs _ => operation.english :: (lhs.units ++ "and" :: rhs.units)
  | foreign _ _ => []

/-- An expression in English. -/
def Expr.english (expression : Expr) : String :=
  " ".intercalate expression.units

/-! ### The phrasebook -/

/-- The letters of which expressions consist, and the space. -/
def letters : List Char :=
  ['a', 'b', 'c', 'd', 'e', 'f', 'g', 'h', 'i', 'j', 'k', 'l', 'm', 'n', 'o', 'p', 'q', 'r', 's',
    't', 'u', 'v', 'w', 'x', 'y', 'z', 'A', 'B', 'C', 'D', 'E', 'F', 'G', 'H', 'I', 'J', 'K', 'L',
    'M', 'N', 'O', 'P', 'Q', 'R', 'S', 'T', 'U', 'V', 'W', 'X', 'Y', 'Z', ' ']

/-- The rules with the words that come with the library. -/
def bundledRules : List FilledRule :=
  Rule.table.map Vocabulary.bundled.fill

/-- Whether words begin with a letter and are spelled in letters. -/
def isSpelled (known : List Char) : Bool :=
  known.head?.any isWordCharacter && known.all letters.contains

/-- Whether rules, with the words that come with the library, pass over known words. -/
def passOver (rules : List Rule) (known : List Char) : Bool :=
  rules.all fun rule => (Vocabulary.bundled.fill rule).passesOver letters known

/-- Whether a rule, with the words that come with the library, takes known words. -/
def takesWhole (rule : Rule) (known : List Char) : Bool :=
  (Vocabulary.bundled.fill rule).takes known

/-- The rules before the word classes. -/
def openingRules : List Rule :=
  Rule.structural ++ Rule.commands ++ Rule.operations ++ Rule.jumps ++ Rule.comparisons ++
    Rule.memories

/-- Whether known words are spelled in letters, passed over by some rules and taken
by another one. -/
def isTakenBy (earlier : List Rule) (rule : Rule) (known : List Char) : Bool :=
  isSpelled known && passOver earlier known && takesWhole rule known

/-- The listed names, letter by letter. -/
def listedNames : List (List Char) :=
  (bundledWords .character).map String.toList

/-- The words and phrases of which expressions consist, and the rules that take
them.  The class of characters is left out among the rules that are passed over:
its words are only compared with those that start with the same letter. -/
theorem phrasebook :
    (∀ known ∈ (BinaryOperation.all.map BinaryOperation.english).map String.toList,
      isTakenBy (Rule.structural ++ Rule.commands) Rule.operations[0] known) ∧
    (∀ known ∈ (UnaryOperation.all.map UnaryOperation.english).map String.toList,
      isTakenBy (Rule.structural ++ Rule.commands ++ Rule.operations.take 1) Rule.operations[1]
        known) ∧
    (∀ known ∈ ["and"].map String.toList,
      isTakenBy (Rule.structural ++ Rule.commands ++ Rule.operations ++ Rule.jumps.take 2)
        Rule.jumps[2] known) ∧
    (∀ known ∈ ["a"].map String.toList,
      isTakenBy (openingRules ++ Rule.classes.tail.take 8) Rule.classes[9] known ∧
        known ∉ listedNames ∧ standsOut listedNames known) ∧
    (∀ known ∈ ["nothing", "big", "cat", "goat"].map String.toList,
      isTakenBy (openingRules ++ Rule.classes.tail) Rule.remainders[0] known ∧
        known ∉ listedNames ∧ standsOut listedNames known) ∧
    (∀ known ∈ listedNames,
      isSpelled known ∧ passOver openingRules known ∧ standsOut listedNames known) := by
  simp only [BinaryOperation.all, BinaryOperation.english, UnaryOperation.all,
    UnaryOperation.english, listedNames, bundledWords, List.map, String.reduceToList]
  decide +kernel

/-! ### Units of speech -/

section

variable {known : List Char}

theorem spelledIn_of_isSpelled (spelled : isSpelled known) : SpelledIn letters known := by
  intro c member
  exact List.contains_iff_mem.mp
    (List.all_eq_true.mp (Bool.and_eq_true_iff.mp spelled).2 c member)

theorem begins_of_isSpelled (spelled : isSpelled known) : isEdge none known.head? := by
  have isWord := (Bool.and_eq_true_iff.mp spelled).1
  simp [isEdge, isWord]

/-- What is spelled begins with a letter. -/
theorem head_of_isSpelled (spelled : isSpelled known) :
    ∃ c rest, known = c :: rest ∧ c ∈ letters ∧ isWordCharacter c := by
  cases known with
  | nil => cases spelled
  | cons c rest =>
      have isWord := (Bool.and_eq_true_iff.mp spelled).1
      exact ⟨c, rest, rfl, spelledIn_of_isSpelled spelled c List.mem_cons_self, isWord⟩

theorem isBlank_of_isWordCharacter {c : Char} (isLetter : c ∈ letters)
    (isWord : isWordCharacter c) : isBlank c = false := by
  have checked : letters.all fun letter => !isWordCharacter letter || !isBlank letter := by
    decide
  have here := List.all_eq_true.mp checked c isLetter
  simpa [isWord] using here

/-- Words that the rules take off every text, as a token of a kind or to be skipped. -/
structure Taken (unit : List Char) (kind : Option TokenKind) : Prop where
  spelled : isSpelled unit
  attempt : ∀ {before : Option Char} {tail : List Char}, before.any isWordCharacter = false →
    EndsWord tail → SpelledIn letters tail →
    ∃ tried, Playhouse.attempt before (unit ++ tail) 0 bundledRules =
      .found unit kind tried

/-- Words taken by a rule become the token that the rule makes of them. -/
theorem taken_of_rule {earlier later : List Rule} {rule : Rule} {kind : Option TokenKind}
    (isTaken : isTakenBy earlier rule known) (split : Rule.table = earlier ++ rule :: later)
    (builds : ∀ groups, rule.build ⟨known, groups⟩ = kind) : Taken known kind := by
  simp only [isTakenBy, Bool.and_eq_true] at isTaken
  obtain ⟨⟨spelled, passed⟩, takes⟩ := isTaken
  refine ⟨spelled, ?_⟩
  intro before tail apart ends tailSpelled
  obtain ⟨c, rest, isKnown, _⟩ := head_of_isSpelled spelled
  have someLetter : known ≠ [] := by simp [isKnown]
  have allPassed : ∀ other ∈ earlier.map Vocabulary.bundled.fill,
      other.passesOver letters known := by
    intro other member
    obtain ⟨source, isEarlier, rfl⟩ := List.mem_map.mp member
    exact List.all_eq_true.mp passed source isEarlier
  have allSpelled : SpelledIn letters (known ++ tail) :=
    List.forall_mem_append.mpr ⟨spelledIn_of_isSpelled spelled, tailSpelled⟩
  rw [bundledRules, split, List.map_append, List.map_cons]
  obtain ⟨groups, count, found⟩ :=
    attempt_of_passed allPassed takes someLetter apart ends allSpelled 0
  refine ⟨count, found.trans ?_⟩
  exact congrArg (Attempt.found known · count) (builds groups)

/-- The class of characters with the names that come with the library. -/
theorem fill_characters :
    (Vocabulary.bundled.fill Rule.classes[0]).pattern =
      .ok ((WordList.ofWords (bundledWords .character)).pattern true) := rfl

/-- A name that stands out from all others is taken as such. -/
theorem isTakenBy_characters (spelled : isSpelled known) (passed : passOver openingRules known)
    (isName : known ∈ listedNames) (outstanding : standsOut listedNames known) :
    isTakenBy openingRules Rule.classes[0] known := by
  have foreseen : ((WordList.ofWords (bundledWords .character)).pattern true).foresee known =
      some (some known.length) :=
    foresee_pattern_some (begins_of_isSpelled spelled) isName outstanding
  simp only [isTakenBy, takesWhole, FilledRule.takes, fill_characters, foreseen, spelled, passed,
    beq_self_eq_true, Bool.and_self]

/-- The class of characters passes over a word that stands out from all names. -/
theorem isTakenBy_behind {front back : List Rule} {rule : Rule}
    (isTaken : isTakenBy (front ++ back) rule known) (noName : known ∉ listedNames)
    (outstanding : standsOut listedNames known) :
    isTakenBy (front ++ Rule.classes[0] :: back) rule known := by
  simp only [isTakenBy, passOver, List.all_append, List.all_cons, Bool.and_eq_true] at isTaken ⊢
  obtain ⟨⟨spelled, frontPassed, backPassed⟩, takes⟩ := isTaken
  have foreseen : ((WordList.ofWords (bundledWords .character)).pattern true).foresee known =
      some none :=
    foresee_pattern_none (begins_of_isSpelled spelled) (List.cons_ne_nil _ _) noName outstanding
  refine ⟨⟨spelled, frontPassed, ?_, backPassed⟩, takes⟩
  simp only [FilledRule.passesOver, fill_characters, foreseen, beq_self_eq_true, Bool.or_true]

end

/-- All operations are told apart by their phrases. -/
theorem binaryOf_english (operation : BinaryOperation) :
    Rule.binaryOf operation.english.toList = operation := by
  cases operation <;> decide +kernel

theorem unaryOf_english (operation : UnaryOperation) :
    Rule.unaryOf operation.english.toList = operation := by
  cases operation <;> decide +kernel

theorem taken_binary (operation : BinaryOperation) :
    Taken operation.english.toList (some (.lexeme (.binary operation))) := by
  obtain ⟨binary, _⟩ := phrasebook
  have listed : operation.english ∈ BinaryOperation.all.map BinaryOperation.english :=
    List.mem_map_of_mem (by cases operation <;> decide)
  have isTaken := binary _ (List.mem_map_of_mem listed)
  refine taken_of_rule isTaken rfl fun groups => ?_
  exact congrArg (some <| TokenKind.lexeme <| Lexeme.binary ·) (binaryOf_english operation)

theorem taken_unary (operation : UnaryOperation) :
    Taken operation.english.toList (some (.lexeme (.unary operation))) := by
  obtain ⟨_, unary, _⟩ := phrasebook
  have listed : operation.english ∈ UnaryOperation.all.map UnaryOperation.english :=
    List.mem_map_of_mem (by cases operation <;> decide)
  have isTaken := unary _ (List.mem_map_of_mem listed)
  refine taken_of_rule isTaken rfl fun groups => ?_
  exact congrArg (some <| TokenKind.lexeme <| Lexeme.unary ·) (unaryOf_english operation)

theorem taken_conjunction : Taken "and".toList (some (.lexeme .conjunction)) := by
  obtain ⟨_, _, conjunction, _⟩ := phrasebook
  exact taken_of_rule (conjunction _ (List.mem_singleton_self _)) rfl fun groups => rfl

theorem taken_article : Taken "a".toList none := by
  obtain ⟨_, _, _, article, _⟩ := phrasebook
  obtain ⟨isTaken, noName, outstanding⟩ := article _ (List.mem_singleton_self _)
  exact taken_of_rule (isTakenBy_behind isTaken noName outstanding) rfl fun groups => rfl

theorem taken_word {word : String} (isWord : word ∈ ["nothing", "big", "cat", "goat"]) :
    Taken word.toList (some (.lexeme (.other word))) := by
  obtain ⟨_, _, _, _, words, _⟩ := phrasebook
  obtain ⟨isTaken, noName, outstanding⟩ := words _ (List.mem_map_of_mem isWord)
  refine taken_of_rule (isTakenBy_behind isTaken noName outstanding) rfl fun groups => ?_
  exact congrArg (some <| TokenKind.lexeme <| Lexeme.other ·) String.ofList_toList

theorem taken_name {name : String} (isName : name ∈ bundledWords .character) :
    Taken name.toList (some (.lexeme (.character (normalizeName name.toList)))) := by
  obtain ⟨_, _, _, _, _, names⟩ := phrasebook
  have isListed : name.toList ∈ listedNames := List.mem_map_of_mem isName
  obtain ⟨spelled, passed, outstanding⟩ := names _ isListed
  exact taken_of_rule (isTakenBy_characters spelled passed isListed outstanding) rfl
    fun groups => rfl

/-! ### Speech -/

/-- Units of speech with the tokens that become of them; articles are skipped. -/
inductive Spoken : List String → List TokenKind → Prop where
  | nil : Spoken [] []
  | cons {unit : String} {kind : Option TokenKind} {units : List String}
      {kinds : List TokenKind} (taken : Taken unit.toList kind) (rest : Spoken units kinds) :
      Spoken (unit :: units) (kind.toList ++ kinds)

theorem Spoken.append {units moreUnits : List String} {kinds moreKinds : List TokenKind}
    (first : Spoken units kinds) (second : Spoken moreUnits moreKinds) :
    Spoken (units ++ moreUnits) (kinds ++ moreKinds) := by
  induction first with
  | nil => exact second
  | cons taken rest inductionHypothesis =>
      rw [List.append_assoc]
      exact .cons taken inductionHypothesis

/-- Units of speech with a space before each. -/
def spaced (units : List String) : List Char :=
  units.flatMap fun unit => ' ' :: unit.toList

theorem intercalate_cons (unit : String) (units : List String) :
    (" ".intercalate (unit :: units)).toList = unit.toList ++ spaced units := by
  rw [String.toList_intercalate]
  induction units generalizing unit with
  | nil => simp [spaced]
  | cons next others inductionHypothesis =>
      have later := inductionHypothesis next
      simp only [List.map_cons, List.intercalate_cons_cons, spaced, List.flatMap_cons] at later ⊢
      rw [later]
      simp

theorem endsWord_spaced (units : List String) : EndsWord (spaced units) := by
  cases units with
  | nil => exact Or.inl rfl
  | cons unit others => exact Or.inr ⟨_, rfl⟩

theorem Spoken.spelledIn {units : List String} {kinds : List TokenKind}
    (spoken : Spoken units kinds) : SpelledIn letters (spaced units) := by
  induction spoken with
  | nil => exact fun c member => nomatch member
  | cons taken rest inductionHypothesis =>
      have here := spelledIn_of_isSpelled taken.spelled
      refine List.forall_mem_cons.mpr ⟨by decide, ?_⟩
      exact List.forall_mem_append.mpr ⟨here, inductionHypothesis⟩

/-! ### From speech to tokens -/

/-- A step in front of a scan that succeeds adds its token. -/
theorem tokens_cons (step : Step) {scan : Scan} {tokens : List Token}
    (succeeded : scan.tokens = .ok tokens) :
    (Scan.cons step scan).tokens = .ok (step.token?.toList ++ tokens) := by
  obtain ⟨steps, obstacle⟩ := scan
  cases obstacle with
  | some obstacle => cases succeeded
  | none =>
      cases succeeded
      cases made : step.token? <;> simp [Scan.tokens, Scan.cons, made]

/-- A unit of speech makes one step. -/
theorem scanFrom_unit {unit tail : List Char} {kind : Option TokenKind}
    (taken : Taken unit kind) {before : Option Char}
    (apart : before.any isWordCharacter = false) (ends : EndsWord tail)
    (spelled : SpelledIn letters tail) (line : Nat) :
    ∃ tried, scanFrom bundledRules before line (unit ++ tail) =
      Scan.cons ⟨unit, line, kind, tried⟩
        (scanFrom bundledRules (unit.getLast?.or before)
          (line + countNewlines unit) tail) := by
  obtain ⟨c, rest, rfl, _⟩ := head_of_isSpelled taken.spelled
  obtain ⟨tried, found⟩ := taken.attempt apart ends spelled
  refine ⟨tried, ?_⟩
  rw [List.cons_append] at found ⊢
  rw [scanFrom, found]
  simp

/-- A single space makes one step and no token. -/
theorem scanFrom_space {c : Char} (noBlank : isBlank c = false) (before : Option Char)
    (line : Nat) (tail : List Char) :
    scanFrom bundledRules before line (' ' :: c :: tail) =
      Scan.cons ⟨[' '], line, none, 1⟩
        (scanFrom bundledRules (some ' ')
          (line + countNewlines [' ']) (c :: tail)) := by
  have blank : isBlank ' ' = true := by decide
  have matched : Pattern.match? someBlanks before (' ' :: c :: tail) = some ⟨[' '], []⟩ := by
    simp [match?, someBlanks, run, runEager, settle, blank, noBlank, Mark.pass]
  have found : attempt before (' ' :: c :: tail) 0 bundledRules =
      .found [' '] none 1 := by
    show attempt before (' ' :: c :: tail) 0 (⟨[], .ok someBlanks, Rule.skip⟩ :: _) = _
    rw [attempt]
    dsimp only
    rw [matched]
    rfl
  rw [scanFrom, found]
  rfl

/-- A unit of speech in front of a text that is understood adds its token. -/
theorem tokens_of_unit {unit : String} {kind : Option TokenKind} {units : List String}
    {kinds : List TokenKind} (taken : Taken unit.toList kind) (rest : Spoken units kinds)
    (further : ∀ before line, ∃ tokens,
      (scanFrom bundledRules before line (spaced units)).tokens = .ok tokens ∧
        tokens.map Token.kind = kinds)
    {before : Option Char} (apart : before.any isWordCharacter = false) (line : Nat) :
    ∃ tokens,
      (scanFrom bundledRules before line (unit.toList ++ spaced units)).tokens = .ok tokens ∧
        tokens.map Token.kind = kind.toList ++ kinds := by
  obtain ⟨tried, stepped⟩ :=
    scanFrom_unit taken apart (endsWord_spaced units) rest.spelledIn line
  obtain ⟨tokens, scanned, isKinds⟩ :=
    further (unit.toList.getLast?.or before) (line + countNewlines unit.toList)
  rw [stepped]
  refine ⟨_, tokens_cons _ scanned, ?_⟩
  cases kind <;> simp [Step.token?, isKinds]

/-- Speech that follows other words becomes its tokens. -/
theorem tokens_of_spaced {units : List String} {kinds : List TokenKind}
    (spoken : Spoken units kinds) (before : Option Char) (line : Nat) :
    ∃ tokens, (scanFrom bundledRules before line (spaced units)).tokens = .ok tokens ∧
      tokens.map Token.kind = kinds := by
  induction spoken generalizing before line with
  | nil =>
      refine ⟨[], ?_, rfl⟩
      rw [spaced, List.flatMap_nil, scanFrom]
      rfl
  | @cons unit kind units kinds taken rest inductionHypothesis =>
      obtain ⟨c, others, isUnit, isLetter, isWord⟩ := head_of_isSpelled taken.spelled
      have noBlank : isBlank c = false := isBlank_of_isWordCharacter isLetter isWord
      have apart : (some ' ').any isWordCharacter = false := by decide
      obtain ⟨tokens, scanned, isKinds⟩ :=
        tokens_of_unit taken rest inductionHypothesis apart (line + countNewlines [' '])
      have stepped := scanFrom_space noBlank before line (others ++ spaced units)
      rw [← List.cons_append, ← isUnit] at stepped
      refine ⟨tokens, ?_, isKinds⟩
      rw [spaced, List.flatMap_cons]
      exact (congrArg Scan.tokens stepped).trans (tokens_cons _ scanned)

/-- Speech becomes its tokens. -/
theorem tokenize_of_spoken {units : List String} {kinds : List TokenKind}
    (spoken : Spoken units kinds) :
    ∃ tokens, tokenize Vocabulary.bundled (" ".intercalate units) = .ok tokens ∧
      tokens.map Token.kind = kinds := by
  cases spoken with
  | nil =>
      refine ⟨[], ?_, rfl⟩
      rw [tokenize, scan, String.toList_intercalate, List.map_nil, List.intercalate_nil, scanFrom]
      rfl
  | cons taken rest =>
      have apart : Option.none.any isWordCharacter = false := rfl
      obtain ⟨tokens, scanned, isKinds⟩ :=
        tokens_of_unit taken rest (tokens_of_spaced rest) apart 1
      refine ⟨tokens, ?_, isKinds⟩
      rw [tokenize, intercalate_cons]
      exact scanned

/-! ### There and back -/

theorem listedName_spec {name listed : String} (isListed : listed ∈ bundledWords .character)
    (isNormal : normalizeName listed.toList = name) :
    listedName name ∈ bundledWords .character ∧
      normalizeName (listedName name).toList = name := by
  have found : ((bundledWords .character).find? fun listed =>
      normalizeName listed.toList == name).isSome :=
    List.find?_isSome.mpr ⟨listed, isListed, by simpa using isNormal⟩
  obtain ⟨first, isFirst⟩ := Option.isSome_iff_exists.mp found
  have isName : listedName name = first := by rw [listedName, isFirst]; rfl
  have normal := List.find?_some isFirst
  rw [isName]
  exact ⟨List.mem_of_find?_eq_some isFirst, eq_of_beq normal⟩

theorem mem_numeralWords {value : Int} {word : String} (isWord : word ∈ numeralWords value) :
    word ∈ ["nothing", "big", "cat", "goat"] := by
  unfold numeralWords at isWord
  split at isWord
  · rw [List.mem_singleton.mp isWord]
    exact List.mem_cons_self
  · rcases List.mem_append.mp isWord with isAdjective | isNoun
    · rw [(List.mem_replicate.mp isAdjective).2]
      decide
    · rw [List.mem_singleton.mp isNoun]
      split <;> decide

theorem spoken_words {words : List String}
    (known : ∀ word ∈ words, word ∈ ["nothing", "big", "cat", "goat"]) :
    Spoken words (words.map fun word => .lexeme (.other word)) := by
  induction words with
  | nil => exact .nil
  | cons word others inductionHypothesis =>
      obtain ⟨firstKnown, othersKnown⟩ := List.forall_mem_cons.mp known
      exact .cons (taken_word firstKnown) (inductionHypothesis othersKnown)

/-- The words for an expression become its tokens. -/
theorem Expr.spoken {expression : Expr} {declared : NameSet} (sayable : expression.Sayable declared)
    (listed : ∀ name ∈ expression.names, ∃ word ∈ bundledWords .character,
      name = some (normalizeName word.toList)) :
    Spoken expression.units expression.wording := by
  induction expression with
  | character name line =>
      obtain ⟨word, isListed, rfl⟩ := listed name List.mem_cons_self
      obtain ⟨isName, isNormal⟩ := listedName_spec isListed rfl
      have taken := taken_name isName
      rw [isNormal] at taken
      exact .cons taken .nil
  | number value line =>
      have spoken : Spoken (numeralWords value) _ := spoken_words fun word => mem_numeralWords
      rw [units]
      split
      · exact spoken
      · exact .cons taken_article spoken
  | unary operation operand line inductionHypothesis =>
      exact .cons (taken_unary operation) (inductionHypothesis sayable listed)
  | binary operation lhs rhs line leftHypothesis rightHypothesis =>
      obtain ⟨leftListed, rightListed⟩ := List.forall_mem_append.mp listed
      have left := leftHypothesis sayable.1 leftListed
      have right := rightHypothesis sayable.2 rightListed
      exact .cons (taken_binary operation) (left.append (.cons taken_conjunction right))
  | foreign transcript line => exact .nil

/-- Every expression that can be said with names from the list comes back from its
English rendering: the text is cut into tokens, and these are read as the
expression, lines left out of account. -/
theorem readExpression_english {expression : Expr} {company : Company}
    (sayable : expression.Sayable company.declared)
    (listed : ∀ name ∈ expression.names, ∃ word ∈ bundledWords .character,
      name = some (normalizeName word.toList)) (endLine : Nat) :
    ∃ tokens read, tokenize Vocabulary.bundled expression.english = .ok tokens ∧
      (readExpression Vocabulary.bundled company endLine 1 tokens).outcome = .ok read ∧
      read.unlined = expression.unlined := by
  obtain ⟨tokens, tokenized, worded⟩ := tokenize_of_spoken (Expr.spoken sayable listed)
  obtain ⟨read, isRead, same⟩ :=
    (derives_of_wording sayable worded).isRead Vocabulary.hasNouns_bundled endLine
  exact ⟨tokens, read, tokenized, isRead, same⟩

/-- A name, a phrase within a phrase, and a negative number behind its article. -/
theorem readExpression_english_ajax :
    ∃ tokens read,
      tokenize Vocabulary.bundled
        "the remainder of the quotient between Ajax and twice a big goat" = .ok tokens ∧
      (readExpression Vocabulary.bundled ⟨["Ajax"], [], none⟩ 1 1 tokens).outcome = .ok read ∧
      read.unlined =
        .binary .modulo (.character (some "Ajax") 0) (.unary .twice (.number (-2) 0) 0) 0 := by
  have rendered : Expr.english
      (.binary .modulo (.character (some "Ajax") 0) (.unary .twice (.number (-2) 0) 0) 0) =
      "the remainder of the quotient between Ajax and twice a big goat" := by decide +kernel
  have normal : "Ajax" = normalizeName "Ajax".toList := by decide +kernel
  rw [← rendered]
  refine readExpression_english ?_ ?_ 1
  · exact ⟨⟨"Ajax", List.mem_cons_self, rfl⟩, 1, -1, Or.inr (Or.inr rfl), by decide⟩
  · intro name member
    rw [List.mem_singleton.mp member]
    exact ⟨"Ajax", by decide, congrArg some normal⟩

end Playhouse

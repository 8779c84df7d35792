/-
Module: Playhouse.Proofs.Naming
Purpose: Names that differ in case and spacing only have the same normal form, and no others
  have, so that however a character is called, it is one and the same.
Main exports: IsLettered, IsWord, capitalized, Text.title_intercalate, Text.wordsOf_intercalate,
  toList_normalizeName, capitalized_eq_iff, TokenKind.carried, Rule.class_of_character,
  raw_of_carried, names_have_one_normal_form
-/
import Playhouse.Proofs.Directions

namespace Playhouse

open Text
open Pattern

/-!
The normal form of a name is made of its words, each capitalised, with single spaces between
them.  Cutting the normal form at its spaces gives the capitalised words back, and a capitalised
word tells the letters of the word, but not their case.
-/

/-- A text of plain letters and white space. -/
def IsLettered (text : List Char) : Prop :=
  ∀ c ∈ text, isNameLetter c || isBlank c

/-- A word of plain letters. -/
def IsWord (word : List Char) : Prop :=
  word ≠ [] ∧ ∀ c ∈ word, isNameLetter c

/-- A word with a capital in front and small letters behind it. -/
def capitalized : List Char → List Char
  | [] => []
  | c :: rest => c.toUpper :: rest.map Char.toLower

namespace Text

/-! ### Plain letters -/

/-- A plain letter is no blank, it has a case, and its two cases are plain letters that have the
same cases again. -/
theorem cases_of_letter {c : Char} (isLetter : isNameLetter c) :
    c.toNat < 128 ∧ isBlank c = false ∧ isCased c ∧ isNameLetter c.toUpper ∧
      isNameLetter c.toLower ∧ c.toUpper.toUpper = c.toUpper ∧ c.toUpper.toLower = c.toLower ∧
      c.toLower.toUpper = c.toUpper ∧ c.toLower.toLower = c.toLower := by
  have small : c.toNat < 128 := by
    have atMost {last : Char} (isUpTo : c.val ≤ last.val) (isSmall : last.toNat < 128) :
        c.toNat < 128 := Nat.lt_of_le_of_lt isUpTo isSmall
    rcases Bool.or_eq_true_iff.mp isLetter with isUpper | isLower
    · obtain ⟨-, isUpTo⟩ := of_decide_eq_true isUpper
      exact atMost isUpTo (by decide)
    · obtain ⟨-, isUpTo⟩ := Bool.and_eq_true_iff.mp isLower
      exact atMost (of_decide_eq_true isUpTo) (by decide)
  have each : ∀ point < 128, isNameLetter (Char.ofNat point) →
      isBlank (Char.ofNat point) = false ∧ isCased (Char.ofNat point) ∧
        isNameLetter (Char.ofNat point).toUpper ∧ isNameLetter (Char.ofNat point).toLower ∧
        (Char.ofNat point).toUpper.toUpper = (Char.ofNat point).toUpper ∧
        (Char.ofNat point).toUpper.toLower = (Char.ofNat point).toLower ∧
        (Char.ofNat point).toLower.toUpper = (Char.ofNat point).toUpper ∧
        (Char.ofNat point).toLower.toLower = (Char.ofNat point).toLower := by decide +kernel
  have cases := each c.toNat small
  rw [Char.ofNat_toNat] at cases
  exact ⟨small, cases isLetter⟩

theorem titleLetter_of_letter {c : Char} (isLetter : isNameLetter c) :
    titleLetter c = [c.toUpper] := by
  rw [titleLetter, if_pos (cases_of_letter isLetter).1]

/-- The small letter of a plain one does not depend on its place. -/
theorem lowerInPlace_of_letter {c : Char} (isLetter : isNameLetter c)
    (before after : List Char) : lowerInPlace before c after = [c.toLower] := by
  have small := (cases_of_letter isLetter).1
  have noDottedI : (c == '\u0130') = false := by
    apply beq_false_of_ne
    rintro rfl
    exact absurd small (by decide)
  have noSigma : (c == '\u03a3') = false := by
    apply beq_false_of_ne
    rintro rfl
    exact absurd small (by decide)
  simp [lowerInPlace, noDottedI, noSigma, lowerLetter, small]

/-! ### Words in lower case and in title case -/

theorem lower_of_letters {word : List Char} (letters : ∀ c ∈ word, isNameLetter c) :
    lower word = word.map Char.toLower := by
  have lowered (before : List Char) : lowerFrom before word = word.map Char.toLower := by
    induction word generalizing before with
    | nil => rfl
    | cons c rest inductionHypothesis =>
        obtain ⟨isLetter, others⟩ := List.forall_mem_cons.mp letters
        rw [lowerFrom, lowerInPlace_of_letter isLetter, inductionHypothesis others]
        rfl
  exact lowered []

/-- Behind a letter the title case of letters is their lower case. -/
theorem titleFrom_letters {before word : List Char} (behindLetter : before.head?.any isCased)
    (letters : ∀ c ∈ word, isNameLetter c) (rest : List Char) :
    titleFrom before (word ++ rest) =
      word.map Char.toLower ++ titleFrom (word.reverse ++ before) rest := by
  induction word generalizing before with
  | nil => rfl
  | cons c others inductionHypothesis =>
      obtain ⟨isLetter, othersLetters⟩ := List.forall_mem_cons.mp letters
      have cased : (c :: before).head?.any isCased := (cases_of_letter isLetter).2.2.1
      rw [List.cons_append, titleFrom, if_pos behindLetter, lowerInPlace_of_letter isLetter,
        inductionHypothesis cased othersLetters]
      simp

/-- Where a word begins, it is capitalised. -/
theorem titleFrom_word {before word : List Char} (begins : before.head?.any isCased = false)
    (isWord : IsWord word) (rest : List Char) :
    titleFrom before (word ++ rest) =
      capitalized word ++ titleFrom (word.reverse ++ before) rest := by
  obtain ⟨c, others, rfl⟩ := List.exists_cons_of_ne_nil isWord.1
  obtain ⟨isLetter, letters⟩ := List.forall_mem_cons.mp isWord.2
  have cased : (c :: before).head?.any isCased := (cases_of_letter isLetter).2.2.1
  rw [List.cons_append, titleFrom, begins, if_neg Bool.false_ne_true,
    titleLetter_of_letter isLetter, titleFrom_letters cased letters]
  simp [capitalized]

/-- The title case of words with single spaces between them capitalises each of them. -/
theorem title_intercalate {words : List (List Char)} (areWords : ∀ word ∈ words, IsWord word) :
    title ([' '].intercalate words) = [' '].intercalate (words.map capitalized) := by
  have titled {before : List Char} (begins : before.head?.any isCased = false) :
      titleFrom before ([' '].intercalate words) =
        [' '].intercalate (words.map capitalized) := by
    induction words generalizing before with
    | nil => rfl
    | cons word others inductionHypothesis =>
        obtain ⟨isWord, othersWords⟩ := List.forall_mem_cons.mp areWords
        cases others with
        | nil =>
            have alone := titleFrom_word begins isWord []
            simpa [titleFrom] using alone
        | cons next more =>
            rw [List.intercalate_cons_cons, List.append_assoc, titleFrom_word begins isWord,
              List.singleton_append, titleFrom]
            have space : (if (word.reverse ++ before).head?.any isCased then
                lowerInPlace (word.reverse ++ before) ' ' ([' '].intercalate (next :: more))
                else titleLetter ' ') = [' '] := by
              split <;> rfl
            have joined : [' '].intercalate ((word :: next :: more).map capitalized) =
                capitalized word ++ [' '] ++ [' '].intercalate ((next :: more).map capitalized) :=
              List.intercalate_cons_cons
            rw [space, inductionHypothesis othersWords rfl, joined, List.append_assoc]
  exact titled rfl

/-! ### Words of a text -/

/-- Words with single spaces between them are the words of the whole. -/
theorem wordsOf_intercalate {words : List (List Char)} (areWords : ∀ word ∈ words, IsWord word) :
    wordsOf ([' '].intercalate words) = words := by
  have isGap : [' '] ≠ [] ∧ ∀ c ∈ [' '], isBlank c :=
    ⟨List.cons_ne_nil _ _, List.all_eq_true.mp (by decide)⟩
  induction words with
  | nil => rfl
  | cons word others inductionHypothesis =>
      obtain ⟨isWord, othersWords⟩ := List.forall_mem_cons.mp areWords
      have alone : wordsOf word = [word] :=
        wordsOf_word isWord.1 fun c member => (cases_of_letter (isWord.2 c member)).2.1
      cases others with
      | nil => rw [List.intercalate_singleton, alone]
      | cons next more =>
          rw [List.intercalate_cons_cons, List.append_assoc, wordsOf_append_blanks isGap.1 isGap.2,
            alone, inductionHypothesis othersWords, List.singleton_append]

/-- The characters of a word are those of the text that are no blanks. -/
theorem forall_mem_of_mem_wordsFrom {kind : Char → Prop} {current text word : List Char}
    (inText : ∀ c ∈ text, isBlank c = false → kind c) (inCurrent : ∀ c ∈ current, kind c)
    (member : word ∈ wordsFrom current text) : ∀ c ∈ word, kind c := by
  induction text generalizing current with
  | nil =>
      rw [wordsFrom] at member
      split at member
      · cases member
      · rw [List.mem_singleton.mp member]
        exact fun c inWord => inCurrent c (List.mem_reverse.mp inWord)
  | cons d rest inductionHypothesis =>
      obtain ⟨first, others⟩ := List.forall_mem_cons.mp inText
      rw [wordsFrom] at member
      split at member
      · split at member
        · exact inductionHypothesis others (by simp) member
        · rcases List.mem_cons.mp member with rfl | later
          · exact fun c inWord => inCurrent c (List.mem_reverse.mp inWord)
          · exact inductionHypothesis others (by simp) later
      · rename_i noBlank
        have grown := List.forall_mem_cons.mpr ⟨first (Bool.eq_false_iff.mpr noBlank), inCurrent⟩
        exact inductionHypothesis others grown member

end Text

/-! ### Normal forms -/

/-- The words of a text of letters and white space are words of letters. -/
theorem IsLettered.isWord {raw : List Char} (lettered : IsLettered raw) :
    ∀ word ∈ wordsOf raw, IsWord word := by
  intro word member
  have letters : ∀ c ∈ raw, isBlank c = false → isNameLetter c := by
    intro c inText noBlank
    simpa [noBlank] using lettered c inText
  exact ⟨ne_nil_of_mem_wordsFrom member, forall_mem_of_mem_wordsFrom letters (by simp) member⟩

theorem isWord_capitalized {word : List Char} (isWord : IsWord word) :
    IsWord (capitalized word) := by
  obtain ⟨c, others, rfl⟩ := List.exists_cons_of_ne_nil isWord.1
  obtain ⟨isLetter, letters⟩ := List.forall_mem_cons.mp isWord.2
  refine ⟨List.cons_ne_nil _ _, List.forall_mem_cons.mpr ⟨?_, List.forall_mem_map.mpr ?_⟩⟩
  · exact (cases_of_letter isLetter).2.2.2.1
  · exact fun d member => (cases_of_letter (letters d member)).2.2.2.2.1

/-- A word and its capitalised form have the same small letters. -/
theorem lower_capitalized {word : List Char} (isWord : IsWord word) :
    lower (capitalized word) = lower word := by
  rw [lower_of_letters (isWord_capitalized isWord).2, lower_of_letters isWord.2]
  obtain ⟨c, others, rfl⟩ := List.exists_cons_of_ne_nil isWord.1
  obtain ⟨isLetter, letters⟩ := List.forall_mem_cons.mp isWord.2
  obtain ⟨-, -, -, -, -, -, upperLower, -⟩ := cases_of_letter isLetter
  rw [capitalized, List.map_cons, List.map_cons, upperLower, List.map_map]
  exact congrArg (_ :: ·)
    (List.map_congr_left fun d member => (cases_of_letter (letters d member)).2.2.2.2.2.2.2.2)

/-- The small letters of a word tell its capitalised form. -/
theorem capitalized_lower {word : List Char} (isWord : IsWord word) :
    capitalized (lower word) = capitalized word := by
  rw [lower_of_letters isWord.2]
  obtain ⟨c, others, rfl⟩ := List.exists_cons_of_ne_nil isWord.1
  obtain ⟨isLetter, letters⟩ := List.forall_mem_cons.mp isWord.2
  obtain ⟨-, -, -, -, -, -, -, lowerUpper, -⟩ := cases_of_letter isLetter
  rw [List.map_cons, capitalized, capitalized, lowerUpper, List.map_map]
  exact congrArg (_ :: ·)
    (List.map_congr_left fun d member => (cases_of_letter (letters d member)).2.2.2.2.2.2.2.2)

theorem capitalized_capitalized {word : List Char} (isWord : IsWord word) :
    capitalized (capitalized word) = capitalized word := by
  rw [← capitalized_lower (isWord_capitalized isWord), lower_capitalized isWord,
    capitalized_lower isWord]

/-- Capitalised words are the same if and only if the words are the same but for case. -/
theorem map_capitalized_eq_iff {words others : List (List Char)}
    (areWords : ∀ word ∈ words, IsWord word) (alsoWords : ∀ word ∈ others, IsWord word) :
    words.map capitalized = others.map capitalized ↔ words.map lower = others.map lower := by
  have lowered {words : List (List Char)} (areWords : ∀ word ∈ words, IsWord word) :
      (words.map capitalized).map lower = words.map lower := by
    rw [List.map_map]
    exact List.map_congr_left fun word member => lower_capitalized (areWords word member)
  have raised {words : List (List Char)} (areWords : ∀ word ∈ words, IsWord word) :
      (words.map lower).map capitalized = words.map capitalized := by
    rw [List.map_map]
    exact List.map_congr_left fun word member => capitalized_lower (areWords word member)
  constructor
  · intro same
    rw [← lowered areWords, same, lowered alsoWords]
  · intro same
    rw [← raised areWords, same, raised alsoWords]

section

variable {raw other : List Char}

/-- The normal form of a name, word by word. -/
theorem toList_normalizeName (lettered : IsLettered raw) :
    (normalizeName raw).toList = [' '].intercalate ((wordsOf raw).map capitalized) := by
  rw [normalizeName, String.toList_ofList, joinedWords, title_intercalate lettered.isWord]

theorem isWord_of_mem_capitalized (lettered : IsLettered raw) :
    ∀ word ∈ (wordsOf raw).map capitalized, IsWord word :=
  List.forall_mem_map.mpr fun word member => isWord_capitalized (lettered.isWord word member)

/-- The words of a normal form are those of the name, capitalised. -/
theorem wordsOf_normalizeName (lettered : IsLettered raw) :
    wordsOf (normalizeName raw).toList = (wordsOf raw).map capitalized := by
  rw [toList_normalizeName lettered, wordsOf_intercalate (isWord_of_mem_capitalized lettered)]

/-- Names have the same normal form if and only if their words are the same but for case. -/
theorem normalizeName_eq_iff (lettered : IsLettered raw) (alsoLettered : IsLettered other) :
    normalizeName raw = normalizeName other ↔
      (wordsOf raw).map lower = (wordsOf other).map lower := by
  rw [← map_capitalized_eq_iff lettered.isWord alsoLettered.isWord]
  constructor
  · intro same
    rw [← wordsOf_normalizeName lettered, same, wordsOf_normalizeName alsoLettered]
  · intro same
    rw [← String.toList_inj, toList_normalizeName lettered, toList_normalizeName alsoLettered, same]

/-- The normal form of a normal form is itself. -/
theorem normalizeName_normalizeName (lettered : IsLettered raw) :
    normalizeName (normalizeName raw).toList = normalizeName raw := by
  have areWords := isWord_of_mem_capitalized lettered
  have again : ((wordsOf raw).map capitalized).map capitalized =
      (wordsOf raw).map capitalized := by
    rw [List.map_map]
    exact List.map_congr_left fun word member =>
      capitalized_capitalized (lettered.isWord word member)
  rw [← String.toList_inj, normalizeName, String.toList_ofList, joinedWords,
    wordsOf_normalizeName lettered, title_intercalate areWords, again,
    toList_normalizeName lettered]

end

/-! ### Names among the tokens -/

/-- The names that a token carries. -/
def TokenKind.carried : TokenKind → List String
  | enter names | exit names => names
  | speaking name => [name]
  | lexeme (.character name) => [name]
  | _ => []

/-- Characters of the vocabulary are found by the rule for their class, and the token carries the
normal form of all that was found. -/
theorem Rule.class_of_character {rule : Rule} (member : rule ∈ table) {found : Found}
    {name : String} (built : rule.build found = some (.lexeme (.character name))) :
    rule.pattern = slot .character ∧ rule.caseless = true ∧ name = normalizeName found.text := by
  rcases classes_or_builds member found with rfl | isOfClass | ⟨kind, isBuilt, noCharacter⟩
  · cases built
  · simp only [classes, List.mem_cons, List.not_mem_nil, or_false] at isOfClass
    rcases isOfClass with rfl | others
    · cases built
      exact ⟨rfl, rfl, rfl⟩
    · rcases others with rfl | rfl | rfl | rfl | rfl | rfl | rfl | rfl | rfl <;> cases built
  · exact absurd (Option.some.inj (isBuilt.symm.trans built)) (noCharacter name)

/-- A direction calls by letters and white space whomever it names. -/
theorem Direction.called {keywords : List String} {number : Nat} {text : List Char}
    {kept : List (List Char)} (direction : Direction keywords number text kept) :
    ∀ raw ∈ kept, raw <:+: text ∧ IsLettered raw := by
  obtain ⟨space, keyword, tail, -, -, rfl, summons, -⟩ := direction
  have inside : tail <:+: bracketed space keyword tail :=
    ⟨'[' :: (space ++ keyword.toList), [']'], by simp [bracketed]⟩
  have inTail : ∀ raw ∈ kept, raw <:+: tail ∧ IsLettered raw := by
    cases summons with
    | nobody closes => simp
    | @one gap name close isGap called closes =>
        simp only [List.forall_mem_cons]
        exact ⟨⟨List.infix_append' gap name close, called.2⟩, by simp⟩
    | @two gap first leading trailing second close isGap firstCalled leads trails secondCalled
        closes =>
        simp only [List.forall_mem_cons]
        refine ⟨⟨List.infix_append' gap first _, firstCalled.2⟩, ⟨⟨?_, close, ?_⟩, secondCalled.2⟩,
          by simp⟩
        · exact gap ++ (first ++ (leading ++ ("and".toList ++ trailing)))
        · simp
  intro raw member
  obtain ⟨inTail, lettered⟩ := inTail raw member
  exact ⟨inTail.trans inside, lettered⟩

section

variable {vocabulary : Vocabulary} {source : List Char} {step : Step} {name : String}

/-- A speaker is called by letters and white space. -/
theorem raw_of_speaking (member : step ∈ (scan Rule.table vocabulary source).steps)
    (speaks : step.kind = some (.speaking name)) :
    ∃ raw, raw <:+: step.text ∧ name = normalizeName raw ∧ IsLettered raw := by
  rcases rule_of_step member speaks with ⟨c, -, isOther⟩ |
    ⟨pattern, caseless, before, behind, groups, made, fits⟩
  · cases isOther
  · cases made with
    | order isOrder => simp at isOrder
    | speaking =>
        obtain ⟨_, _, _, _, isText, rfl, ⟨raw, space, _, _, rfl, rfl, nameFits, spaceFits⟩,
          colonFits⟩ := fits
        obtain ⟨-, rfl⟩ := fits_literal.mp colonFits
        obtain ⟨-, rfl⟩ := fits_blanks.mp spaceFits
        obtain ⟨_, ⟨_, others, _, _, rfl, rfl, ⟨⟨c, rfl, isLetter⟩, rfl⟩, repeats, rfl⟩,
          rfl⟩ := nameFits
        refine ⟨[c] ++ others, ?_, rfl, List.forall_mem_cons.mpr ⟨by simp [isLetter], ?_⟩⟩
        · rw [isText, List.append_assoc]
          exact (List.prefix_append _ _).isInfix
        · intro d isOther
          have blank : isBlank ' ' ∧ isBlank '\t' := by decide
          have kind := repeats.kind d isOther
          simp only [Bool.or_eq_true, beq_iff_eq] at kind ⊢
          rcases kind with (isLetter | rfl) | rfl
          · exact Or.inl isLetter
          · exact Or.inr blank.1
          · exact Or.inr blank.2

/-- Somebody whom the vocabulary knows is found by the words of the class. -/
theorem fits_of_character (member : step ∈ (scan Rule.table vocabulary source).steps)
    (mentions : step.kind = some (.lexeme (.character name))) :
    name = normalizeName step.text ∧
      ∃ before behind groups,
        vocabulary.meaning true .character before step.text behind groups := by
  rcases exists_rule_of_step member mentions with ⟨c, -, isOther⟩ |
    ⟨rule, isRule, before, behind, groups, isBuilt, fits⟩
  · cases isOther
  · obtain ⟨isPattern, isCaseless, isName⟩ := Rule.class_of_character isRule isBuilt
    rw [isPattern, isCaseless] at fits
    exact ⟨isName, before, behind, groups, fits⟩

/-- Whoever is named by a token is called by a stretch of the source, and the name is its normal
form.  Except where somebody is found by the words of the vocabulary, it is a stretch of letters and
white space. -/
theorem raw_of_carried (member : step ∈ (scan Rule.table vocabulary source).steps)
    {kind : TokenKind} (isKind : step.kind = some kind) (carried : name ∈ kind.carried) :
    ∃ raw, raw <:+: step.text ∧ name = normalizeName raw ∧
      (kind = .lexeme (.character name) ∨ IsLettered raw) := by
  have kept {keywords : List String} {number : Nat} {kept : List (List Char)}
      (direction : Direction keywords number step.text kept)
      (isName : name ∈ Rule.keptNames ⟨step.text, kept⟩) :
      ∃ raw, raw <:+: step.text ∧ name = normalizeName raw ∧
        (kind = .lexeme (.character name) ∨ IsLettered raw) := by
    obtain ⟨raw, isKept, -, isRaw⟩ := mem_keptNames.mp isName
    obtain ⟨inside, lettered⟩ := direction.called raw isKept
    exact ⟨raw, inside, isRaw.symm, Or.inr lettered⟩
  cases kind with
  | enter names =>
      obtain ⟨_, _, direction, rfl⟩ := direction_of_enter member isKind
      exact kept direction carried
  | exit names =>
      obtain ⟨_, _, direction, rfl⟩ := direction_of_exit member isKind
      exact kept direction carried
  | speaking speaker =>
      obtain rfl := List.mem_singleton.mp carried
      obtain ⟨raw, inside, isRaw, lettered⟩ := raw_of_speaking member isKind
      exact ⟨raw, inside, isRaw, Or.inr lettered⟩
  | lexeme lexeme =>
      cases lexeme with
      | character other =>
          obtain rfl := List.mem_singleton.mp carried
          exact ⟨step.text, List.infix_rfl, (fits_of_character member isKind).1, Or.inl rfl⟩
      | _ => cases carried
  | _ => cases carried

end

/-- Names of letters and white space have the same normal form if and only if their words are the
same but for case, and a normal form is its own.  Whoever enters, leaves, speaks or is mentioned is
known by the normal form of what is written, whatever the words are and whatever the source is. -/
theorem names_have_one_normal_form :
    (∀ raw other, IsLettered raw → IsLettered other →
      (normalizeName raw = normalizeName other ↔
        (wordsOf raw).map lower = (wordsOf other).map lower)) ∧
    (∀ raw, IsLettered raw → normalizeName (normalizeName raw).toList = normalizeName raw) ∧
    ∀ vocabulary source, ∀ step ∈ (scan Rule.table vocabulary source).steps, ∀ kind,
      step.kind = some kind → ∀ name ∈ kind.carried,
        ∃ raw, raw <:+: step.text ∧ name = normalizeName raw ∧
          (kind = .lexeme (.character name) ∨ IsLettered raw) := by
  refine ⟨?_, ?_, ?_⟩
  · intro raw other lettered alsoLettered
    exact normalizeName_eq_iff lettered alsoLettered
  · intro raw lettered
    exact normalizeName_normalizeName lettered
  · intro vocabulary source step member kind isKind name carried
    exact raw_of_carried member isKind carried

/-- A lady in two ways, and the one word that is not her name. -/
theorem names_have_one_normal_form_ladyMacbeth :
    IsLettered "lady\n MACBETH ".toList ∧ IsLettered "\u3000Lady macBeth".toList ∧
      IsLettered "LADYMACBETH".toList ∧
    normalizeName "lady\n MACBETH ".toList = normalizeName "\u3000Lady macBeth".toList ∧
      normalizeName "lady\n MACBETH ".toList ≠ normalizeName "LADYMACBETH".toList ∧
      normalizeName (normalizeName "lady\n MACBETH ".toList).toList =
        normalizeName "lady\n MACBETH ".toList ∧
    ⟨"lady  macbeth :".toList, 1, some (.speaking "Lady Macbeth"), 9⟩ ∈
        (scan Rule.table ⟨[]⟩ "lady  macbeth :".toList).steps ∧
      ∃ raw, raw <:+: "lady  macbeth :".toList ∧ "Lady Macbeth" = normalizeName raw ∧
        IsLettered raw := by
  have lettered : IsLettered "lady\n MACBETH ".toList := List.all_eq_true.mp (by decide)
  have alsoLettered : IsLettered "\u3000Lady macBeth".toList := List.all_eq_true.mp (by decide)
  have oneWord : IsLettered "LADYMACBETH".toList := List.all_eq_true.mp (by decide)
  have isStep : ⟨"lady  macbeth :".toList, 1, some (.speaking "Lady Macbeth"), 9⟩ ∈
      (scan Rule.table ⟨[]⟩ "lady  macbeth :".toList).steps := by decide +kernel
  obtain ⟨same, again, carried⟩ := names_have_one_normal_form
  obtain ⟨raw, inside, isRaw, isLexeme | isLettered⟩ :=
    carried ⟨[]⟩ _ _ isStep _ rfl "Lady Macbeth" (by simp [TokenKind.carried])
  · cases isLexeme
  · refine ⟨lettered, alsoLettered, oneWord, (same _ _ lettered alsoLettered).mpr (by decide), ?_,
      again _ lettered, isStep, raw, inside, isRaw, isLettered⟩
    exact fun isSame => absurd ((same _ _ lettered oneWord).mp isSame) (by decide)

end Playhouse

/-
Module: Playhouse.Proofs.Numbering
Purpose: The numerals of headings are canonical: one for every number that can be written, and a
  line that looks like a heading but has no numeral is none.
Main exports: romanValue, romanValue_romanNumeral, Pattern.matchesWhole, matchesWhole_roman_iff,
  TokenKind.IsHeading, Division.heading, Vocabulary.HasArticleAt, roman_numerals_are_canonical
-/
import Mathlib.Tactic.Ring
import Playhouse.Proofs.Headings
import Playhouse.Proofs.LongestWord
import Playhouse.Proofs.Numeral

namespace Playhouse

open Text
open Pattern

/-! ### What a numeral counts -/

/-- What a letter of a numeral stands for. -/
def letterValue : Char → Int
  | 'M' => 1000
  | 'D' => 500
  | 'C' => 100
  | 'L' => 50
  | 'X' => 10
  | 'V' => 5
  | 'I' => 1
  | _ => 0

/-- What a numeral counts: the letters are added up, but a letter in front of a larger one is taken
off. -/
def romanValue : List Char → Int
  | [] => 0
  | c :: rest =>
      (if rest.head?.any (letterValue c < letterValue ·) then - letterValue c else letterValue c) +
        romanValue rest

/-- Letters behind which nothing larger stands are added up. -/
theorem romanValue_replicate {letter : Char} {rest : List Char}
    (notLarger : ∀ c ∈ rest.head?, letterValue c ≤ letterValue letter) (count : Nat) :
    romanValue (List.replicate count letter ++ rest) =
      count * letterValue letter + romanValue rest := by
  induction count with
  | zero => simp
  | succ count inductionHypothesis =>
      have added : (List.replicate count letter ++ rest).head?.any
          (letterValue letter < letterValue ·) = false := by
        cases count with
        | succ count => simp [List.replicate_succ]
        | zero =>
            cases rest with
            | nil => rfl
            | cons c others => simpa using notLarger c rfl
      rw [List.replicate_succ, List.cons_append, romanValue, added, inductionHypothesis]
      simp only [Bool.false_eq_true, if_false]
      push_cast
      ring

/-- A digit counts units of its place. -/
theorem romanValue_romanDigit {unit five ten : Char} {rest : List Char}
    (isFive : letterValue five = 5 * letterValue unit)
    (isTen : letterValue ten = 10 * letterValue unit) (isUnit : 0 < letterValue unit)
    (smaller : ∀ c ∈ rest.head?, letterValue c < letterValue unit) (digit : Nat) :
    romanValue (romanDigit unit five ten digit ++ rest) =
      digit * letterValue unit + romanValue rest := by
  have alone {letter : Char} (larger : letterValue unit < letterValue letter) :
      romanValue (unit :: letter :: rest) =
        letterValue letter - letterValue unit + romanValue rest := by
    have added : rest.head?.any (letterValue letter < letterValue ·) = false := by
      cases rest with
      | nil => rfl
      | cons c others =>
          have less := smaller c rfl
          simp only [List.head?_cons, Option.any_some, decide_eq_false_iff_not]
          omega
    rw [romanValue, romanValue, added, List.head?_cons, Option.any_some, if_pos (by simpa)]
    simp only [Bool.false_eq_true, if_false]
    ring
  rw [romanDigit]
  split
  · rename_i isNine
    subst isNine
    rw [List.cons_append, List.cons_append, List.nil_append, alone (by omega), isTen]
    push_cast
    ring
  · split
    · rename_i isFour
      subst isFour
      rw [List.cons_append, List.cons_append, List.nil_append, alone (by omega), isFive]
      push_cast
      ring
    · have behindFives : ∀ c ∈ (List.replicate (digit % 5) unit ++ rest).head?,
          letterValue c ≤ letterValue five := by
        intro c isHead
        rw [List.head?_append, List.head?_replicate] at isHead
        split at isHead
        · have less := smaller c isHead
          omega
        · cases isHead
          omega
      have behindUnits : ∀ c ∈ rest.head?, letterValue c ≤ letterValue unit :=
        fun c isHead => Int.le_of_lt (smaller c isHead)
      rw [List.append_assoc, romanValue_replicate behindFives, romanValue_replicate behindUnits,
        isFive]
      have isDigit : (digit : Int) = 5 * (digit / 5 : Nat) + (digit % 5 : Nat) := by omega
      rw [isDigit]
      ring

/-- A digit begins with its letter for one or for five. -/
theorem head?_romanDigit {unit five ten c : Char} {digit : Nat} {rest : List Char}
    (isHead : c ∈ (romanDigit unit five ten digit ++ rest).head?) :
    c = unit ∨ c = five ∨ c ∈ rest.head? := by
  rw [romanDigit] at isHead
  split at isHead
  · cases isHead
    exact Or.inl rfl
  · split at isHead
    · cases isHead
      exact Or.inl rfl
    · rw [List.append_assoc, List.head?_append, List.head?_append, List.head?_replicate,
        List.head?_replicate] at isHead
      split at isHead
      · split at isHead
        · exact Or.inr (Or.inr isHead)
        · cases isHead
          exact Or.inl rfl
      · cases isHead
        exact Or.inr (Or.inl rfl)

/-- The numeral of a number counts that number. -/
theorem romanValue_romanNumeral (number : Nat) : romanValue (romanNumeral number) = number := by
  have behindTens : ∀ c ∈ (romanDigit 'I' 'V' 'X' (number % 10) ++ []).head?,
      letterValue c < letterValue 'X' := by
    intro c isHead
    rcases head?_romanDigit isHead with rfl | rfl | isHead
    · decide
    · decide
    · cases isHead
  have behindHundreds : ∀ c ∈ (romanDigit 'X' 'L' 'C' (number / 10 % 10) ++
      (romanDigit 'I' 'V' 'X' (number % 10) ++ [])).head?, letterValue c < letterValue 'C' := by
    intro c isHead
    rcases head?_romanDigit isHead with rfl | rfl | isHead
    · decide
    · decide
    · exact Int.lt_trans (behindTens c isHead) (by decide)
  have behindThousands : ∀ c ∈ (romanDigit 'C' 'D' 'M' (number / 100 % 10) ++
      (romanDigit 'X' 'L' 'C' (number / 10 % 10) ++
        (romanDigit 'I' 'V' 'X' (number % 10) ++ []))).head?,
      letterValue c ≤ letterValue 'M' := by
    intro c isHead
    rcases head?_romanDigit isHead with rfl | rfl | isHead
    · decide
    · decide
    · exact Int.le_of_lt (Int.lt_trans (behindHundreds c isHead) (by decide))
  rw [romanNumeral, ← List.append_nil (_ ++ romanDigit 'I' _ _ _), List.append_assoc,
    List.append_assoc, List.append_assoc, romanValue_replicate behindThousands,
    romanValue_romanDigit rfl rfl (by decide) behindHundreds,
    romanValue_romanDigit rfl rfl (by decide) behindTens,
    romanValue_romanDigit rfl rfl (by decide) (by simp)]
  simp only [letterValue, romanValue]
  omega

/-- Different numbers have different numerals. -/
theorem romanNumeral_inj {number other : Nat} (same : romanNumeral number = romanNumeral other) :
    number = other := by
  have sameValue := congrArg romanValue same
  rw [romanValue_romanNumeral, romanValue_romanNumeral] at sameValue
  exact Int.ofNat_inj.mp sameValue

/-! ### Whole texts -/

/-- Whether a pattern can be made to fit a text from its beginning to its end. -/
def Pattern.matchesWhole (pattern : Pattern Empty) (text : List Char) : Bool :=
  (pattern.run (fun _ rest => if rest.isEmpty then some () else none) ⟨none, 0, []⟩ text).isSome

theorem Pattern.matchesWhole_iff {pattern : Pattern Empty} {text : List Char} :
    pattern.matchesWhole text ↔ ∃ kept, pattern.Fits noPlaces none text [] kept := by
  constructor
  · intro matched
    obtain ⟨_, ran⟩ := Option.isSome_iff_exists.mp matched
    have isStart : ([] : List Char).length = (Mark.mk none 0 []).passed := rfl
    obtain ⟨fitted, behind, places, rfl, fits, accepted⟩ := fits_of_run ran isStart
    have isEnd : behind = [] := by
      cases behind with
      | nil => rfl
      | cons c others => cases accepted
    subst isEnd
    rw [List.append_nil]
    exact ⟨_, fits⟩
  · rintro ⟨kept, fits⟩
    have ran : (pattern.run (fun _ rest => if rest.isEmpty then some () else none) ⟨none, 0, []⟩
        (text ++ [])).isSome := run_isSome_of_fits fits fun _ => rfl
    rwa [List.append_nil] at ran

/-- The texts that the pattern for numerals fits as a whole are the Roman numerals. -/
theorem matchesWhole_roman_iff {text : List Char} :
    (roman false).matchesWhole text ↔ IsRoman text := by
  rw [matchesWhole_iff]
  constructor
  · rintro ⟨kept, fits⟩
    obtain ⟨begins, ⟨number, small, spelling⟩, -⟩ := fits_roman.mp fits
    obtain rfl := spelling_false_iff.mp spelling
    refine ⟨number, Nat.pos_of_ne_zero ?_, small, rfl⟩
    rintro rfl
    rw [romanNumeral_eq_nil_iff.mpr rfl] at begins
    cases begins
  · intro isRoman
    exact ⟨[], isRoman.fits⟩

/-! ### Lines that look like headings -/

/-- The line of a heading. -/
def Division.heading (division : Division) (numeral description : String) : String :=
  division.keyword ++ " " ++ numeral ++ ": " ++ description

theorem Division.toList_heading (division : Division) (numeral description : String) :
    (division.heading numeral description).toList =
      headingText division.keyword numeral.toList description.toList := by
  simp [heading, headingText]

/-- A token that opens an act or a scene. -/
def TokenKind.IsHeading (kind : TokenKind) : Prop :=
  ∃ (division : Division) (number description : String), kind = division.token number description

/-- Whether an article of the vocabulary stands at the beginning of a text. -/
def Vocabulary.HasArticleAt (vocabulary : Vocabulary) (text : List Char) : Prop :=
  ∃ list, vocabulary.list .article = .ok list ∧
    ∃ word ∈ list.words, WordList.StandsAt true word ⟨none, text⟩

namespace Rule

/-- Only the rules for headings make headings. -/
theorem pattern_of_heading {rule : Rule} (member : rule ∈ table) {found : Found}
    {division : Division} {number description : String}
    (built : rule.build found = some (division.token number description)) :
    rule.pattern = heading division.keyword := by
  have made := makes_of_build member built
  generalize rule.pattern = pattern at made ⊢
  cases division with
  | act =>
      cases made with
      | act => rfl
      | order isOrder => simp [Division.token] at isOrder
  | scene =>
      cases made with
      | scene => rfl
      | order isOrder => simp [Division.token] at isOrder

/-- Only white space and articles are skipped. -/
theorem skips_of_build {rule : Rule} (member : rule ∈ table) {found : Found}
    (built : rule.build found = none) :
    rule = plain someBlanks skip ∨ rule = ofClass .article skip := by
  rcases classes_or_builds member found with rfl | isOfClass | ⟨kind, isBuilt, -⟩
  · exact Or.inl rfl
  · simp only [classes, List.mem_cons, List.not_mem_nil, or_false] at isOfClass
    rcases isOfClass with rfl | rfl | rfl | rfl | rfl | rfl | rfl | rfl | rfl | rfl
    case inr.inr.inr.inr.inr.inr.inr.inr.inr => exact Or.inr rfl
    all_goals cases built
  · rw [built] at isBuilt
    cases isBuilt

end Rule

/-- What the rule for articles finds at the beginning of a text is an article that stands there. -/
theorem Vocabulary.hasArticleAt_of_finds {vocabulary : Vocabulary} {text : List Char}
    {found : Found}
    (finds : (vocabulary.fill (Rule.ofClass .article Rule.skip)).Finds none text found) :
    vocabulary.HasArticleAt text := by
  obtain ⟨⟨pattern, isPattern, matched⟩, nonempty⟩ := finds
  cases had : vocabulary.list .article with
  | error fault =>
      simp only [fill, Rule.ofClass, Pattern.fill, had] at isPattern
      cases isPattern
  | ok list =>
      simp only [fill, Rule.ofClass, Pattern.fill, had] at isPattern
      cases isPattern
      by_cases noWord : list.words = []
      · rw [WordList.match?_of_no_words noWord] at matched
        split at matched
        · cases matched
          exact absurd rfl nonempty
        · cases matched
      · obtain ⟨word, isWord, ⟨behind, isText, stands⟩, -⟩ :=
          WordList.stands_of_match? noWord matched
        exact ⟨list, had, word, isWord, found.text, behind, isText, stands⟩

section

variable {vocabulary : Vocabulary} {division : Division} {numeral description : List Char}

/-- A line without a numeral does not begin with a heading. -/
theorem not_isHeading_of_first (noColon : ∀ c ∈ numeral, c != ':') (noNumeral : ¬ IsRoman numeral)
    {step : Step}
    (isFirst : step ∈ (scan Rule.table vocabulary
      (headingText division.keyword numeral description)).steps.head?)
    {kind : TokenKind} (isKind : step.kind = some kind) : ¬ kind.IsHeading := by
  rintro ⟨other, number, remark, rfl⟩
  rcases rule_of_takes (takes_of_head_steps isFirst) with ⟨c, -, isOther, -⟩ |
    ⟨rule, isRule, groups, isBuilt, finds⟩
  · rw [isKind] at isOther
    cases other <;> cases isOther
  · obtain ⟨behind, isText, fits⟩ := Rule.fits_of_finds finds
    rw [Rule.pattern_of_heading isRule (isBuilt.symm.trans isKind)] at fits
    obtain ⟨found, others, isRoman, -, isFound, -⟩ := fits_heading.mp fits
    dsimp only at isText isFound
    rw [isFound] at isText
    have sameKeyword : division = other := by
      cases division <;> cases other <;>
        first | rfl | simp [headingText, Division.keyword] at isText
    subst sameKeyword
    have isText : headingText division.keyword numeral description ++ [] =
        headingText division.keyword found others ++ behind := by rw [List.append_nil, isText]
    obtain ⟨rfl, -⟩ := headingText_inj noColon isRoman isText
    exact noNumeral isRoman

/-- At the beginning of such a line nothing but an article is skipped. -/
theorem hasArticleAt_of_skipped {step : Step}
    (isFirst : step ∈ (scan Rule.table vocabulary
      (headingText division.keyword numeral description)).steps.head?)
    (skipped : step.kind = none) :
    vocabulary.HasArticleAt (headingText division.keyword numeral description) := by
  rcases rule_of_takes (takes_of_head_steps isFirst) with ⟨c, -, isOther, -⟩ |
    ⟨rule, isRule, groups, isBuilt, finds⟩
  · rw [skipped] at isOther
    cases isOther
  · rcases Rule.skips_of_build isRule (isBuilt.symm.trans skipped) with rfl | rfl
    · obtain ⟨behind, isText, fits⟩ := Rule.fits_of_finds finds
      obtain ⟨⟨someBlank, blank⟩, -⟩ := fits_someBlanks.mp fits
      obtain ⟨c, others, isBlanks⟩ := List.exists_cons_of_ne_nil someBlank
      rw [isBlanks] at isText blank
      have isBlank := blank c List.mem_cons_self
      cases division <;> (obtain ⟨rfl, -⟩ := List.cons.inj isText; cases isBlank)
    · exact Vocabulary.hasArticleAt_of_finds finds

/-- The first token is then that of the first step. -/
theorem exists_first_of_token {tokens : List Token}
    (noArticle : ¬ vocabulary.HasArticleAt (headingText division.keyword numeral description))
    (cut : (scan Rule.table vocabulary
      (headingText division.keyword numeral description)).tokens = .ok tokens)
    {token : Token} (isFirst : token ∈ tokens.head?) :
    ∃ step ∈ (scan Rule.table vocabulary
        (headingText division.keyword numeral description)).steps.head?,
      step.kind = some token.kind := by
  have isTokens : (scan Rule.table vocabulary (headingText division.keyword numeral
      description)).steps.filterMap Step.token? = tokens := by
    unfold Scan.tokens at cut
    split at cut
    · cases cut
    · exact Except.ok.inj cut
  cases isSteps : (scan Rule.table vocabulary (headingText division.keyword numeral
      description)).steps with
  | nil =>
      rw [isSteps] at isTokens
      subst isTokens
      cases isFirst
  | cons step later =>
      have firstStep : step ∈ (scan Rule.table vocabulary (headingText division.keyword numeral
          description)).steps.head? := by rw [isSteps]; rfl
      refine ⟨step, rfl, ?_⟩
      cases isKind : step.kind with
      | none => exact absurd (hasArticleAt_of_skipped firstStep isKind) noArticle
      | some kind =>
          rw [isSteps, List.filterMap_cons_some (by rw [Step.token?, isKind]; rfl)] at isTokens
          subst isTokens
          cases isFirst
          rfl

end

/-- A vocabulary that has all its lists cuts every source. -/
theorem tokenize_of_isComplete {vocabulary : Vocabulary} (complete : vocabulary.IsComplete)
    (source : String) : ∃ tokens, tokenize vocabulary source = .ok tokens := by
  rw [tokenize, Scan.tokens, (scan_covers complete Rule.table source.toList).1]
  exact ⟨_, rfl⟩

/-- None of the articles that come with the library stands at the beginning of such a line. -/
theorem Vocabulary.not_hasArticleAt_bundled (division : Division)
    (numeral description : List Char) :
    ¬ bundled.HasArticleAt (headingText division.keyword numeral description) := by
  rintro ⟨list, had, word, isWord, text, behind, isText, stands⟩
  obtain rfl : list = WordList.ofWords ["a", "an", "the"] := (Except.ok.inj had).symm
  have opening : headingText division.keyword numeral description =
      (division.keyword ++ " ").toList ++ (numeral ++ (": ".toList ++ description)) := by
    simp [headingText]
  have isText : text ++ behind =
      (division.keyword ++ " ").toList ++ (numeral ++ (": ".toList ++ description)) :=
    isText.symm.trans opening
  have apart (clashes : clash word.toList (division.keyword ++ " ").toList) : False :=
    apart_of_clash clashes stands.renders (renders_self true _) isText
  simp only [WordList.ofWords, List.mem_cons, List.not_mem_nil, or_false] at isWord
  rcases isWord with rfl | rfl | rfl
  · cases division with
    | scene => exact apart (by decide)
    | act =>
        -- The letter stands there, but the word goes on.
        obtain ⟨c, others, rfl, -, rest⟩ := exists_letter_of_renders stands.renders (by decide)
        cases rest
        have letters : (Division.act.keyword ++ " ").toList = ['A', 'c', 't', ' '] := by decide
        rw [letters] at isText
        obtain ⟨rfl, rfl⟩ := List.cons.inj isText
        have ends : isEdge (some 'A') (some 'c') := stands.ends
        exact absurd ends (by decide)
  · cases division <;> exact apart (by decide)
  · cases division <;> exact apart (by decide)

/-- The numerals of headings are canonical.  The texts that their pattern fits as a whole are the
Roman numerals of the numbers from 1 to 4999, each of one number only.  With such a numeral and a
description of one line, a heading is read as one token, whatever the vocabulary.  Without one, a
line of that shape does not begin with a heading; and unless its keyword is taken for an article,
as it never is with the words that come with the library, no heading is the first of its tokens. -/
theorem roman_numerals_are_canonical :
    (∀ numeral : List Char, (roman false).matchesWhole numeral ↔
      ∃! number, 1 ≤ number ∧ number ≤ 4999 ∧ numeral = romanNumeral number) ∧
    (∀ (vocabulary : Vocabulary) (division : Division) (numeral description : String),
      (roman false).matchesWhole numeral.toList → '\n' ∉ description.toList →
        tokenize vocabulary (division.heading numeral description) =
          .ok [⟨division.token numeral (String.ofList (strip description.toList)), 1⟩]) ∧
    ∀ (division : Division) (numeral description : String), ':' ∉ numeral.toList →
      ¬ (roman false).matchesWhole numeral.toList →
        (∀ vocabulary, ∀ step ∈ (scan Rule.table vocabulary
            (division.heading numeral description).toList).steps.head?,
          ∀ kind, step.kind = some kind → ¬ kind.IsHeading) ∧
        (∀ vocabulary tokens,
          ¬ vocabulary.HasArticleAt (division.heading numeral description).toList →
            tokenize vocabulary (division.heading numeral description) = .ok tokens →
              ∀ token ∈ tokens.head?, ¬ token.kind.IsHeading) ∧
        ∃ tokens, tokenize .bundled (division.heading numeral description) = .ok tokens ∧
          ∀ token ∈ tokens.head?, ¬ token.kind.IsHeading := by
  refine ⟨?_, ?_, ?_⟩
  · intro numeral
    rw [matchesWhole_roman_iff]
    constructor
    · rintro ⟨number, positive, small, rfl⟩
      refine ⟨number, ⟨positive, Nat.le_of_lt_succ small, rfl⟩, ?_⟩
      rintro other ⟨-, -, same⟩
      exact (romanNumeral_inj same).symm
    · rintro ⟨number, ⟨positive, small, isNumeral⟩, -⟩
      exact ⟨number, positive, Nat.lt_succ_of_le small, isNumeral⟩
  · intro vocabulary division numeral description matched oneLine
    have onOneLine : ∀ c ∈ description.toList, c != '\n' := by
      intro c member
      rw [bne_iff_ne]
      rintro rfl
      exact oneLine member
    have cut := tokenize_heading vocabulary division (matchesWhole_roman_iff.mp matched) onOneLine
    rwa [← Division.toList_heading, String.ofList_toList, String.ofList_toList] at cut
  · intro division numeral description noColon unmatched
    have withoutColon : ∀ c ∈ numeral.toList, c != ':' := by
      intro c member
      rw [bne_iff_ne]
      rintro rfl
      exact noColon member
    have noNumeral : ¬ IsRoman numeral.toList :=
      fun isRoman => unmatched (matchesWhole_roman_iff.mpr isRoman)
    have firstToken (vocabulary : Vocabulary) (tokens : List Token)
        (noArticle : ¬ vocabulary.HasArticleAt (division.heading numeral description).toList)
        (cut : tokenize vocabulary (division.heading numeral description) = .ok tokens) :
        ∀ token ∈ tokens.head?, ¬ token.kind.IsHeading := by
      intro token isFirst
      rw [tokenize, Division.toList_heading] at cut
      rw [Division.toList_heading] at noArticle
      obtain ⟨step, firstStep, isKind⟩ := exists_first_of_token noArticle cut isFirst
      exact not_isHeading_of_first withoutColon noNumeral firstStep isKind
    refine ⟨?_, firstToken, ?_⟩
    · intro vocabulary step isFirst kind isKind
      rw [Division.toList_heading] at isFirst
      exact not_isHeading_of_first withoutColon noNumeral isFirst isKind
    · obtain ⟨tokens, cut⟩ := tokenize_of_isComplete Vocabulary.isComplete_bundled
        (division.heading numeral description)
      refine ⟨tokens, cut, firstToken .bundled tokens ?_ cut⟩
      rw [Division.toList_heading]
      exact Vocabulary.not_hasArticleAt_bundled division _ _

/-- Forty is not counted out. -/
theorem roman_numerals_are_canonical_aWood :
    (roman false).matchesWhole "XLII".toList ∧
      tokenize .bundled "Scene XLII:  A wood. " = .ok [⟨.scene "XLII" "A wood.", 1⟩] ∧
      ¬ (roman false).matchesWhole "XXXXII".toList ∧
      ∃ tokens, tokenize .bundled "Scene XXXXII: A wood." = .ok tokens ∧
        ∀ token ∈ tokens.head?, ¬ token.kind.IsHeading := by
  obtain ⟨-, reads, passesOver⟩ := roman_numerals_are_canonical
  have numeral : (roman false).matchesWhole "XLII".toList := by decide +kernel
  have noNumeral : ¬ (roman false).matchesWhole "XXXXII".toList := by decide +kernel
  have noColon : ':' ∉ "XXXXII".toList := by decide
  exact ⟨numeral, reads .bundled .scene "XLII" " A wood. " numeral (by decide), noNumeral,
    (passesOver .scene "XXXXII" "A wood." noColon noNumeral).2.2⟩

end Playhouse

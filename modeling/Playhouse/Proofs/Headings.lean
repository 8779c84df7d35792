/-
Module: Playhouse.Proofs.Headings
Purpose: The numbers that headings carry are the Roman numerals from I on, all below 5000.
Main exports: IsRoman, headingText, fits_heading, isRoman_of_heading, headingText_inj,
  Division, attempt_heading, tokenize_heading, HeadsScene, headsScene_iff
-/
import Playhouse.Proofs.Endings
import Playhouse.Proofs.Openings
import Playhouse.Proofs.RomanNumeral

namespace Playhouse

open Text
open Pattern

/-! ### The shape of a heading -/

/-- The Roman numeral of a number that can be written with them. -/
def IsRoman (text : List Char) : Prop :=
  ∃ number, 0 < number ∧ number < 5000 ∧ text = romanNumeral number

theorem IsRoman.inCapitals {text : List Char} (isRoman : IsRoman text) : InCapitals text := by
  obtain ⟨number, -, -, rfl⟩ := isRoman
  exact inCapitals_romanNumeral number

theorem IsRoman.ne_nil {text : List Char} (isRoman : IsRoman text) : text ≠ [] := by
  obtain ⟨number, positive, -, rfl⟩ := isRoman
  intro isEmpty
  have isZero := romanNumeral_eq_nil_iff.mp isEmpty
  omega

theorem IsRoman.noColon {text : List Char} (isRoman : IsRoman text) : ∀ c ∈ text, c != ':' := by
  have capitals : ∀ c ∈ romanLetters, c != ':' := List.all_eq_true.mp (by decide)
  exact fun c member => capitals c (isRoman.inCapitals c member)

/-- The pattern for numerals fits them, whatever stands behind. -/
theorem IsRoman.fits {κ : Type} {places : κ → Meaning} {before : Option Char}
    {text behind : List Char} (isRoman : IsRoman text) :
    (roman false).Fits places before text behind [] := by
  obtain ⟨c, others, rfl⟩ := List.exists_cons_of_ne_nil isRoman.ne_nil
  have begins : (c :: others ++ behind).head?.any (anyLetterKind false romanLetters) :=
    List.any_eq_true.mpr ⟨c, isRoman.inCapitals c List.mem_cons_self, beq_self_eq_true c⟩
  obtain ⟨number, -, small, isText⟩ := isRoman
  exact fits_roman.mpr ⟨begins, ⟨number, small, spelling_false_iff.mpr isText⟩, rfl⟩

/-- The text of a heading. -/
def headingText (keyword : String) (numeral description : List Char) : List Char :=
  (keyword ++ " ").toList ++ numeral ++ ": ".toList ++ description

/-- The pattern of a heading fits a numeral behind the keyword, and a description on the same
line. -/
theorem fits_heading {places : Category → Meaning} {keyword : String} {before : Option Char}
    {text behind : List Char} {kept : List (List Char)} :
    (Rule.heading keyword).Fits places before text behind kept ↔
      ∃ numeral description, IsRoman numeral ∧ (∀ c ∈ description, c != '\n') ∧
        text = headingText keyword numeral description ∧ kept = [numeral, description] := by
  constructor
  · rintro ⟨_, description, _, _, rfl, rfl, ⟨_, _, _, _, rfl, rfl, ⟨_, numeral, _, _, rfl, rfl,
      keywordFits, _, numeralFits, rfl⟩, colonFits⟩, _, ⟨repeats, rfl⟩, rfl⟩
    obtain ⟨rfl, rfl⟩ := fits_literal.mp keywordFits
    obtain ⟨rfl, rfl⟩ := fits_literal.mp colonFits
    obtain ⟨begins, ⟨number, small, spelling⟩, rfl⟩ := fits_roman.mp numeralFits
    obtain rfl := spelling_false_iff.mp spelling
    refine ⟨_, description, ⟨number, ?_, small, rfl⟩, repeats.kind, rfl, rfl⟩
    -- Without a letter, the colon would have to be one.
    apply Nat.pos_of_ne_zero
    rintro rfl
    simp [romanNumeral, romanDigit, anyLetterKind, letterKind, romanLetters] at begins
  · rintro ⟨numeral, description, isRoman, oneLine, rfl, rfl⟩
    have numeralFits {before : Option Char} {behind : List Char} :
        (group (roman false)).Fits places before numeral behind [numeral] :=
      ⟨[], isRoman.fits, rfl⟩
    have descriptionFits {before : Option Char} {behind : List Char} :
        (group (many (· != '\n') 0 none .eager)).Fits places before description behind
          [description] :=
      ⟨[], ⟨⟨oneLine, Nat.zero_le _, by simp⟩, rfl⟩, rfl⟩
    exact (((fits_literal.mpr ⟨rfl, rfl⟩).append numeralFits).append
      (fits_literal.mpr ⟨rfl, rfl⟩)).append descriptionFits

/-! ### Headings of scenes -/

/-- A number that the heading of a scene carries, in some source. -/
def HeadsScene (number : String) : Prop :=
  ∃ vocabulary source tokens description line, tokenize vocabulary source = .ok tokens ∧
    ⟨.scene number description, line⟩ ∈ tokens

/-- The tokens of a scan that was not stopped are those of its steps. -/
theorem exists_step_of_token {table : List Rule} {vocabulary : Vocabulary} {source : List Char}
    {tokens : List Token} (cut : (scan table vocabulary source).tokens = .ok tokens) {token : Token}
    (member : token ∈ tokens) :
    ∃ step ∈ (scan table vocabulary source).steps, step.kind = some token.kind := by
  unfold Scan.tokens at cut
  split at cut
  · cases cut
  · cases cut
    obtain ⟨step, isStep, isToken⟩ := List.mem_filterMap.mp member
    obtain ⟨kind, isKind, rfl⟩ := Option.map_eq_some_iff.mp isToken
    exact ⟨step, isStep, isKind⟩

/-- Acts and scenes are numbered with Roman numerals. -/
theorem isRoman_of_heading {vocabulary : Vocabulary} {source : String} {tokens : List Token}
    (cut : tokenize vocabulary source = .ok tokens) {number description : String} {line : Nat}
    (heads : ⟨.act number description, line⟩ ∈ tokens ∨
      ⟨.scene number description, line⟩ ∈ tokens) : IsRoman number.toList := by
  have numbered {keyword : String} {places : Category → Meaning} {before : Option Char}
      {text behind : List Char} {groups : List (List Char)}
      (fits : (Rule.heading keyword).Fits places before text behind groups) :
      IsRoman (String.ofList (Rule.nthGroup 0 ⟨text, groups⟩)).toList := by
    obtain ⟨numeral, _, isRoman, -, -, rfl⟩ := fits_heading.mp fits
    rw [String.toList_ofList]
    exact isRoman
  rcases heads with act | scene
  · obtain ⟨step, isStep, isKind⟩ := exists_step_of_token cut act
    rcases rule_of_step isStep isKind with ⟨c, -, isOther⟩ |
      ⟨pattern, caseless, before, behind, groups, made, fits⟩
    · cases isOther
    · cases made with
      | act => exact numbered fits
      | order isOrder => simp at isOrder
  · obtain ⟨step, isStep, isKind⟩ := exists_step_of_token cut scene
    rcases rule_of_step isStep isKind with ⟨c, -, isOther⟩ |
      ⟨pattern, caseless, before, behind, groups, made, fits⟩
    · cases isOther
    · cases made with
      | scene => exact numbered fits
      | order isOrder => simp at isOrder

/-- A text is read as a heading in one way only, but for the end of its description. -/
theorem headingText_inj {keyword : String} {numeral other description descriptionOther behind
    behindOther : List Char} (noColon : ∀ c ∈ numeral, c != ':') (isOther : IsRoman other)
    (same : headingText keyword numeral description ++ behind =
      headingText keyword other descriptionOther ++ behindOther) :
    numeral = other ∧ description ++ behind = descriptionOther ++ behindOther := by
  have behindKeyword : numeral ++ ':' :: (' ' :: (description ++ behind)) =
      other ++ ':' :: (' ' :: (descriptionOther ++ behindOther)) := by
    simpa [headingText] using same
  obtain ⟨sameNumeral, -, sameRest⟩ := append_cons_inj_of_span (· != ':') behindKeyword
    noColon isOther.noColon (by decide) (by decide)
  exact ⟨sameNumeral, (List.cons.inj sameRest).2⟩

/-! ### Headings read -/

/-- The divisions of a play that have headings. -/
inductive Division where
  | act
  | scene

namespace Division

def keyword : Division → String
  | act => "Act"
  | scene => "Scene"

/-- The token of a heading. -/
def token (division : Division) (number description : String) : TokenKind :=
  match division with
  | act => .act number description
  | scene => .scene number description

/-- The rule for the headings of a division. -/
def rule (division : Division) : Rule :=
  Rule.plain (Rule.heading division.keyword) fun found =>
    some (division.token (String.ofList (Rule.nthGroup 0 found))
      (String.ofList (strip (Rule.nthGroup 1 found))))

/-- The rules that are tried before. -/
def earlierRules : Division → List Rule
  | act => Rule.structural.take 1
  | scene => Rule.structural.take 2

theorem table_eq (division : Division) :
    ∃ later, Rule.table = division.earlierRules ++ division.rule :: later := by
  cases division <;> exact ⟨_, rfl⟩

/-- The rules before the one for a heading leave it alone. -/
theorem earlierRules_refuse (vocabulary : Vocabulary) (division : Division)
    (numeral description : List Char) :
    ∀ filled ∈ division.earlierRules.map vocabulary.fill,
      filled.Refuses none (headingText division.keyword numeral description) := by
  cases division with
  | act =>
      simp only [earlierRules, Rule.structural, List.take_succ_cons, List.take_zero, List.map_cons,
        List.map_nil, List.forall_mem_cons]
      exact ⟨Rule.refuses_someBlanks vocabulary (by decide) none _, by simp⟩
  | scene =>
      simp only [earlierRules, Rule.structural, List.take_succ_cons, List.take_zero, List.map_cons,
        List.map_nil, List.forall_mem_cons]
      refine ⟨Rule.refuses_someBlanks vocabulary (by decide) none _, ?_, by simp⟩
      rw [headingText, List.append_assoc, List.append_assoc]
      exact Rule.Avoids.refuses ⟨_, Rule.opens_heading _ "Act", by decide⟩
        (Rule.isReady_of_noSlots rfl) (List.mem_singleton_self "Scene ") (renders_self true _)
        none _

end Division

/-- A heading with a description of one line is found as a whole. -/
theorem attempt_heading (vocabulary : Vocabulary) (division : Division)
    {numeral description : List Char} (isRoman : IsRoman numeral)
    (oneLine : ∀ c ∈ description, c != '\n') :
    ∃ tried, attempt none (headingText division.keyword numeral description) 0
        (Rule.table.map vocabulary.fill) =
      .found (headingText division.keyword numeral description)
        (some (division.token (String.ofList numeral) (String.ofList (strip description))))
        tried := by
  have found : ∃ found, (vocabulary.fill division.rule).Finds none
      (headingText division.keyword numeral description ++ []) found := by
    apply Rule.exists_finds (Rule.isReady_of_noSlots (by cases division <;> rfl))
    · intro kept fits
      obtain ⟨_, _, -, -, isEmpty, -⟩ := fits_heading.mp fits
      simp [headingText] at isEmpty
    · exact fits_heading.mpr ⟨numeral, description, isRoman, oneLine, rfl, rfl⟩
  obtain ⟨⟨text, groups⟩, finds⟩ := found
  obtain ⟨behind, isRest, fits⟩ := Rule.fits_of_finds finds
  have ends : division.rule.pattern.EndsEagerly (· != '\n') := rfl
  have stops := Rule.stops_of_finds ends finds isRest
  obtain ⟨other, taken, isOther, -, rfl, rfl⟩ := fits_heading.mp fits
  obtain ⟨rfl, isDescription⟩ := headingText_inj isRoman.noColon isOther isRest
  rw [List.append_nil] at isDescription
  subst isDescription
  -- What is left of the description would begin with a line feed.
  have isEnd : behind = [] := by
    cases behind with
    | nil => rfl
    | cons c others =>
        have isFeed := stops c rfl
        rw [oneLine c (by simp)] at isFeed
        cases isFeed
  subst isEnd
  rw [List.append_nil] at finds oneLine ⊢
  obtain ⟨later, isTable⟩ := division.table_eq
  rw [isTable, List.map_append, List.map_cons]
  rw [List.append_nil] at finds
  exact ⟨_, attempt_of_earlier (division.earlierRules_refuse vocabulary _ _) finds⟩

/-- A heading is one token. -/
theorem tokenize_heading (vocabulary : Vocabulary) (division : Division)
    {numeral description : List Char} (isRoman : IsRoman numeral)
    (oneLine : ∀ c ∈ description, c != '\n') :
    tokenize vocabulary (String.ofList (headingText division.keyword numeral description)) =
      .ok [⟨division.token (String.ofList numeral) (String.ofList (strip description)), 1⟩] := by
  obtain ⟨tried, found⟩ := attempt_heading vocabulary division isRoman oneLine
  have scanned := scanFrom_of_found (by rwa [List.append_nil]) 1
  rw [List.append_nil] at scanned
  rw [tokenize, String.toList_ofList, scan, scanned, scanFrom]
  rfl

/-- The heading of a scene can carry every Roman numeral, and nothing else. -/
theorem headsScene_iff {number : String} : HeadsScene number ↔ IsRoman number.toList := by
  constructor
  · rintro ⟨vocabulary, source, tokens, description, line, cut, member⟩
    exact isRoman_of_heading cut (Or.inr member)
  · intro isRoman
    refine ⟨⟨[]⟩, String.ofList (headingText "Scene" number.toList []), [⟨.scene number "", 1⟩], "",
      1, ?_, List.mem_cons_self⟩
    have cut := tokenize_heading ⟨[]⟩ .scene isRoman (List.forall_mem_nil _)
    rw [String.ofList_toList] at cut
    exact cut

end Playhouse

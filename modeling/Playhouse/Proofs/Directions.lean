/-
Module: Playhouse.Proofs.Directions
Purpose: The names that stage directions carry: who enters is never nobody, and a name is empty
  only where nobody is named beside the words of the direction.
Main exports: bracketed, Summons, Direction, fits_directionForOne, fits_directionForTwo,
  fits_bareExeunt, direction_of_enter, direction_of_exit, Summons.word_missing,
  attempt_exeunt_short, attempt_exeunt_long, stage_directions_carry_names
-/
import Playhouse.Proofs.Consultation
import Playhouse.Proofs.NameSet
import Playhouse.Proofs.Openings

namespace Playhouse

open Text
open Pattern

/-!
A stage direction names nobody, one character or two.  The patterns for one and for two take
white space for a name, so where they are tried before the pattern for nobody, a name may turn
out empty.  Which pattern fits in which way is settled by the words of the direction and by
the length of the white space behind them.
-/

/-! ### The shape of a direction -/

/-- White space, of any length. -/
def IsSpace (text : List Char) : Prop :=
  ∀ c ∈ text, isBlank c

/-- White space that is not missing. -/
def IsGap (text : List Char) : Prop :=
  text ≠ [] ∧ IsSpace text

/-- What a direction takes for a name. -/
def IsCalled (text : List Char) : Prop :=
  text ≠ [] ∧ ∀ c ∈ text, isNameLetter c || isBlank c

/-- A direction in its brackets: white space, a keyword, and what follows it. -/
def bracketed (space : List Char) (keyword : String) (tail : List Char) : List Char :=
  '[' :: (space ++ (keyword.toList ++ (tail ++ [']'])))

/-- What follows the keyword of a direction, and the names kept of it. -/
inductive Summons : List Char → List (List Char) → Prop where
  | nobody {close : List Char} (closes : IsSpace close) : Summons close []
  | one {gap name close : List Char} (isGap : IsGap gap) (called : IsCalled name)
      (closes : IsSpace close) : Summons (gap ++ (name ++ close)) [name]
  | two {gap first leading trailing second close : List Char} (isGap : IsGap gap)
      (firstCalled : IsCalled first) (leads : IsGap leading) (trails : IsGap trailing)
      (secondCalled : IsCalled second) (closes : IsSpace close) :
      Summons (gap ++ (first ++ (leading ++ ("and".toList ++ (trailing ++ (second ++ close))))))
        [first, second]

/-- A direction with one of some keywords that names a number of characters. -/
def Direction (keywords : List String) (number : Nat) (text : List Char)
    (kept : List (List Char)) : Prop :=
  ∃ space keyword tail, IsSpace space ∧ keyword ∈ keywords ∧ text = bracketed space keyword tail ∧
    Summons tail kept ∧ kept.length = number

section

variable {places : Category → Meaning} {before : Option Char} {text behind : List Char}
  {kept : List (List Char)}

/-- A pattern that fits some keywords. -/
def Keyed (places : Category → Meaning) (keyword : Pattern Category) (keywords : List String) :
    Prop :=
  ∀ {before : Option Char} {text behind : List Char} {kept : List (List Char)},
    keyword.Fits places before text behind kept ↔
      (∃ word ∈ keywords, text = word.toList) ∧ kept = []

theorem keyed_literal (word : String) : Keyed places (literal false word) [word] := by
  intro before text behind kept
  simp [fits_literal]

theorem keyed_exit : Keyed places
    (choice [literal false "Exit", literal false "Exeunt"]) ["Exit", "Exeunt"] := by
  intro before text behind kept
  rw [fits_choice (by simp)]
  simp only [List.mem_cons, List.not_mem_nil, or_false, exists_eq_or_imp, exists_eq_left,
    fits_literal]
  exact or_and_right.symm

theorem fits_directionName :
    Rule.directionName.Fits places before text behind kept ↔ IsCalled text ∧ kept = [text] := by
  constructor
  · rintro ⟨inner, ⟨repeats, rfl⟩, rfl⟩
    exact ⟨⟨List.ne_nil_of_length_pos repeats.least, repeats.kind⟩, rfl⟩
  · rintro ⟨⟨nonempty, kind⟩, rfl⟩
    exact ⟨[], ⟨⟨kind, List.length_pos_iff.mpr nonempty, by simp⟩, rfl⟩, rfl⟩

/-- Both patterns for names begin alike: up to the first name. -/
theorem fits_opening {keyword : Pattern Category} {keywords : List String}
    (keyed : Keyed places keyword keywords) :
    (literal false "[" ++ blanks ++ keyword ++ someBlanks ++ Rule.directionName).Fits places before
        text behind kept ↔
      ∃ space word gap name, IsSpace space ∧ word ∈ keywords ∧ IsGap gap ∧ IsCalled name ∧
        text = "[".toList ++ space ++ word.toList ++ gap ++ name ∧ kept = [name] := by
  constructor
  · simp only [fits_append, fits_literal, fits_blanks, fits_someBlanks, fits_directionName]
    rintro ⟨_, name, _, _, rfl, rfl, ⟨_, gap, _, _, rfl, rfl, ⟨_, _, _, _, rfl, rfl,
      ⟨_, space, _, _, rfl, rfl, ⟨rfl, rfl⟩, blank, rfl⟩, keywordFits⟩, isGap, rfl⟩, called, rfl⟩
    obtain ⟨⟨word, isWord, rfl⟩, rfl⟩ := keyed.mp keywordFits
    exact ⟨space, word, gap, name, blank, isWord, isGap, called, rfl, rfl⟩
  · rintro ⟨space, word, gap, name, blank, isWord, isGap, called, rfl, rfl⟩
    exact ((((fits_literal.mpr ⟨rfl, rfl⟩).append (fits_blanks.mpr ⟨blank, rfl⟩)).append
      (keyed.mpr ⟨⟨word, isWord, rfl⟩, rfl⟩)).append
      (fits_someBlanks.mpr ⟨isGap, rfl⟩)).append (fits_directionName.mpr ⟨called, rfl⟩)

/-- The pattern for one character fits directions that name one. -/
theorem fits_directionForOne {keyword : Pattern Category} {keywords : List String}
    (keyed : Keyed places keyword keywords) :
    (Rule.directionForOne keyword).Fits places before text behind kept ↔
      Direction keywords 1 text kept := by
  constructor
  · rintro ⟨_, _, _, _, rfl, rfl, ⟨_, close, _, _, rfl, rfl, opens, closes⟩, ends⟩
    obtain ⟨space, word, gap, name, blank, isWord, isGap, called, rfl, rfl⟩ :=
      (fits_opening keyed).mp opens
    obtain ⟨isSpace, rfl⟩ := fits_blanks.mp closes
    obtain ⟨rfl, rfl⟩ := fits_literal.mp ends
    exact ⟨space, word, gap ++ (name ++ close), blank, isWord, by simp [bracketed],
      .one isGap called isSpace, rfl⟩
  · rintro ⟨space, word, tail, blank, isWord, rfl, summons, isOne⟩
    cases summons with
    | nobody closes => cases isOne
    | two => cases isOne
    | @one gap name close isGap called closes =>
        have isText : bracketed space word (gap ++ (name ++ close)) =
            "[".toList ++ space ++ word.toList ++ gap ++ name ++ close ++ "]".toList := by
          simp [bracketed]
        rw [isText]
        exact (((fits_opening keyed).mpr ⟨space, word, gap, name, blank, isWord, isGap, called,
          rfl, rfl⟩).append (fits_blanks.mpr ⟨closes, rfl⟩)).append (fits_literal.mpr ⟨rfl, rfl⟩)

/-- The pattern for two characters fits directions that name two. -/
theorem fits_directionForTwo {keyword : Pattern Category} {keywords : List String}
    (keyed : Keyed places keyword keywords) :
    (Rule.directionForTwo keyword).Fits places before text behind kept ↔
      Direction keywords 2 text kept := by
  constructor
  · rintro ⟨_, _, _, _, rfl, rfl, ⟨_, close, _, _, rfl, rfl, ⟨_, second, _, _, rfl, rfl,
      ⟨_, trailing, _, _, rfl, rfl, ⟨_, _, _, _, rfl, rfl, ⟨_, leading, _, _, rfl, rfl, opens,
      leads⟩, joins⟩, trails⟩, called⟩, closes⟩, ends⟩
    obtain ⟨space, word, gap, first, blank, isWord, isGap, firstCalled, rfl, rfl⟩ :=
      (fits_opening keyed).mp opens
    obtain ⟨isLeading, rfl⟩ := fits_someBlanks.mp leads
    obtain ⟨rfl, rfl⟩ := fits_literal.mp joins
    obtain ⟨isTrailing, rfl⟩ := fits_someBlanks.mp trails
    obtain ⟨secondCalled, rfl⟩ := fits_directionName.mp called
    obtain ⟨isSpace, rfl⟩ := fits_blanks.mp closes
    obtain ⟨rfl, rfl⟩ := fits_literal.mp ends
    exact ⟨space, word, _, blank, isWord, by simp [bracketed],
      .two isGap firstCalled isLeading isTrailing secondCalled isSpace, rfl⟩
  · rintro ⟨space, word, tail, blank, isWord, rfl, summons, isTwo⟩
    cases summons with
    | nobody closes => cases isTwo
    | one => cases isTwo
    | @two gap first leading trailing second close isGap firstCalled leads trails secondCalled
        closes =>
        have isText : bracketed space word
            (gap ++ (first ++ (leading ++ ("and".toList ++ (trailing ++ (second ++ close)))))) =
            "[".toList ++ space ++ word.toList ++ gap ++ first ++ leading ++ "and".toList ++
              trailing ++ second ++ close ++ "]".toList := by
          simp [bracketed]
        rw [isText]
        exact (((((((fits_opening keyed).mpr ⟨space, word, gap, first, blank, isWord, isGap,
          firstCalled, rfl, rfl⟩).append (fits_someBlanks.mpr ⟨leads, rfl⟩)).append
          (fits_literal.mpr ⟨rfl, rfl⟩)).append
          (fits_someBlanks.mpr ⟨trails, rfl⟩)).append
          (fits_directionName.mpr ⟨secondCalled, rfl⟩)).append
          (fits_blanks.mpr ⟨closes, rfl⟩)).append (fits_literal.mpr ⟨rfl, rfl⟩)

/-- The pattern for nobody in particular fits directions that name nobody. -/
theorem fits_bareExeunt :
    (literal false "[" ++ blanks ++ literal false "Exeunt" ++ blanks ++ literal false "]").Fits
        places before text behind kept ↔
      Direction ["Exeunt"] 0 text kept := by
  constructor
  · simp only [fits_append, fits_literal, fits_blanks]
    rintro ⟨_, _, _, _, rfl, rfl, ⟨_, close, _, _, rfl, rfl, ⟨_, _, _, _, rfl, rfl,
      ⟨_, space, _, _, rfl, rfl, ⟨rfl, rfl⟩, blank, rfl⟩, rfl, rfl⟩, closes, rfl⟩, rfl, rfl⟩
    exact ⟨space, "Exeunt", close, blank, by simp, by simp [bracketed], .nobody closes, rfl⟩
  · rintro ⟨space, word, tail, blank, isWord, rfl, summons, isNone⟩
    obtain rfl := List.mem_singleton.mp isWord
    cases summons with
    | one => cases isNone
    | two => cases isNone
    | nobody closes =>
        have isText : bracketed space "Exeunt" tail =
            "[".toList ++ space ++ "Exeunt".toList ++ tail ++ "]".toList := by
          simp [bracketed]
        rw [isText]
        exact ((((fits_literal.mpr ⟨rfl, rfl⟩).append (fits_blanks.mpr ⟨blank, rfl⟩)).append
          (fits_literal.mpr ⟨rfl, rfl⟩)).append
          (fits_blanks.mpr ⟨closes, rfl⟩)).append (fits_literal.mpr ⟨rfl, rfl⟩)

end

/-! ### The names of a direction -/

/-- A set of kept names has a name for every stretch that is not empty. -/
theorem mem_keptNames {text : List Char} {groups : List (List Char)} {name : String} :
    name ∈ Rule.keptNames ⟨text, groups⟩ ↔
      ∃ kept ∈ groups, kept ≠ [] ∧ normalizeName kept = name := by
  simp [Rule.keptNames, NameSet.mem_ofList, and_assoc]

namespace Summons

variable {tail : List Char} {kept : List (List Char)}

/-- Behind the keyword of a direction there are letters and white space only. -/
theorem isCalled_of_mem (summons : Summons tail kept) :
    ∀ c ∈ tail, isNameLetter c || isBlank c := by
  have spaces {text : List Char} (isSpace : IsSpace text) :
      ∀ c ∈ text, isNameLetter c || isBlank c := by
    intro c member
    simp [isSpace c member]
  have joint : ∀ c ∈ "and".toList, isNameLetter c || isBlank c :=
    List.all_eq_true.mp (by decide)
  cases summons with
  | nobody closes => exact spaces closes
  | one isGap called closes =>
      simp only [List.forall_mem_append]
      exact ⟨spaces isGap.2, called.2, spaces closes⟩
  | two isGap firstCalled leads trails secondCalled closes =>
      simp only [List.forall_mem_append]
      exact ⟨spaces isGap.2, firstCalled.2, spaces leads.2, joint, spaces trails.2,
        secondCalled.2, spaces closes⟩

/-- The keyword of a direction is a word of its own. -/
theorem wordsOf_keyword (summons : Summons tail kept) {space : List Char} (blank : IsSpace space)
    {keyword : List Char} (someLetter : keyword ≠ [])
    (noBlank : ∀ c ∈ keyword, isBlank c = false) :
    wordsOf (space ++ (keyword ++ tail)) = keyword :: wordsOf tail := by
  have begins : tail = [] ∨ ∃ gap rest, IsGap gap ∧ tail = gap ++ rest := by
    cases summons with
    | nobody closes =>
        by_cases isEmpty : tail = []
        · exact Or.inl isEmpty
        · exact Or.inr ⟨tail, [], ⟨isEmpty, closes⟩, by simp⟩
    | one isGap => exact Or.inr ⟨_, _, isGap, rfl⟩
    | two isGap => exact Or.inr ⟨_, _, isGap, rfl⟩
  rw [wordsOf_blanks_append blank]
  rcases begins with rfl | ⟨gap, rest, isGap, rfl⟩
  · rw [List.append_nil, wordsOf_word someLetter noBlank]
    rfl
  · rw [wordsOf_append_blanks isGap.1 isGap.2, wordsOf_word someLetter noBlank,
      wordsOf_blanks_append isGap.2]
    rfl

/-- A name is empty only where the words behind the keyword are missing, or where the word that
joins two names is the first of them or the last. -/
theorem word_missing (summons : Summons tail kept) {text : List Char}
    (isEmpty : "" ∈ Rule.keptNames ⟨text, kept⟩) :
    wordsOf tail = [] ∨ (wordsOf tail).head? = some "and".toList ∨
      (wordsOf tail).getLast? = some "and".toList := by
  obtain ⟨name, isKept, -, isBlankName⟩ := mem_keptNames.mp isEmpty
  have blank : ∀ c ∈ name, isBlank c := normalizeName_eq_empty_iff.mp isBlankName
  have joint : wordsOf "and".toList = ["and".toList] := by decide
  cases summons with
  | nobody closes => cases isKept
  | one isGap called closes =>
      obtain rfl := List.mem_singleton.mp isKept
      left
      apply wordsOf_blanks
      simp only [List.forall_mem_append]
      exact ⟨isGap.2, blank, closes⟩
  | @two gap first leading trailing second close isGap firstCalled leads trails secondCalled
      closes =>
      simp only [List.mem_cons, List.not_mem_nil, or_false] at isKept
      right
      rcases isKept with rfl | rfl
      · left
        rw [wordsOf_blanks_append isGap.2, wordsOf_blanks_append blank,
          wordsOf_blanks_append leads.2, wordsOf_append_blanks trails.1 trails.2, joint]
        rfl
      · right
        have noMore : wordsOf (name ++ close) = [] := by
          apply wordsOf_blanks
          simp only [List.forall_mem_append]
          exact ⟨blank, closes⟩
        rw [wordsOf_blanks_append isGap.2, wordsOf_append_blanks leads.1 leads.2,
          wordsOf_append_blanks trails.1 trails.2, joint, noMore, List.append_nil,
          List.getLast?_append]
        rfl

/-- A direction that names somebody keeps a name. -/
theorem keptNames_ne_nil (summons : Summons tail kept) (someName : kept ≠ []) (text : List Char) :
    Rule.keptNames ⟨text, kept⟩ ≠ [] := by
  have named {name : List Char} (isKept : name ∈ kept) (called : IsCalled name) :
      Rule.keptNames ⟨text, kept⟩ ≠ [] :=
    List.ne_nil_of_mem (mem_keptNames.mpr ⟨name, isKept, called.1, rfl⟩)
  cases summons with
  | nobody => exact absurd rfl someName
  | one _ called => exact named (by simp) called
  | two _ firstCalled => exact named (by simp) firstCalled

end Summons

/-! ### Directions among the steps -/

section

variable {vocabulary : Vocabulary} {source : List Char} {step : Step} {names : NameSet}

/-- Who enters is named by a direction to enter. -/
theorem direction_of_enter (member : step ∈ (scan Rule.table vocabulary source).steps)
    (enters : step.kind = some (.enter names)) :
    ∃ number kept, Direction ["Enter"] (number + 1) step.text kept ∧
      names = Rule.keptNames ⟨step.text, kept⟩ := by
  rcases rule_of_step member enters with ⟨c, -, isOther⟩ |
    ⟨pattern, caseless, before, behind, groups, made, fits⟩
  · cases isOther
  · cases made with
    | enterTwo =>
        exact ⟨1, groups, (fits_directionForTwo (keyed_literal "Enter")).mp fits, rfl⟩
    | enterOne =>
        exact ⟨0, groups, (fits_directionForOne (keyed_literal "Enter")).mp fits, rfl⟩
    | order isOrder => simp at isOrder

/-- Who leaves is named by a direction to leave. -/
theorem direction_of_exit (member : step ∈ (scan Rule.table vocabulary source).steps)
    (leaves : step.kind = some (.exit names)) :
    ∃ number kept, Direction ["Exit", "Exeunt"] number step.text kept ∧
      names = Rule.keptNames ⟨step.text, kept⟩ := by
  have widen {number : Nat} {kept : List (List Char)}
      (direction : Direction ["Exeunt"] number step.text kept) :
      Direction ["Exit", "Exeunt"] number step.text kept := by
    obtain ⟨space, keyword, tail, blank, isKeyword, others⟩ := direction
    exact ⟨space, keyword, tail, blank, List.mem_cons_of_mem "Exit" isKeyword, others⟩
  rcases rule_of_step member leaves with ⟨c, -, isOther⟩ |
    ⟨pattern, caseless, before, behind, groups, made, fits⟩
  · cases isOther
  · cases made with
    | exitTwo =>
        exact ⟨2, groups, widen ((fits_directionForTwo (keyed_literal "Exeunt")).mp fits), rfl⟩
    | exitOne => exact ⟨1, groups, (fits_directionForOne keyed_exit).mp fits, rfl⟩
    | exitAll => exact ⟨0, groups, widen (fits_bareExeunt.mp fits), rfl⟩
    | order isOrder => simp at isOrder

end

/-- An empty name in a direction shows in the words of the direction. -/
theorem Direction.word_missing {keywords : List String}
    (isKeyword : ∀ keyword ∈ keywords, keyword ∈ ["Enter", "Exit", "Exeunt"]) {number : Nat}
    {text : List Char} {kept : List (List Char)} (direction : Direction keywords number text kept) :
    ∃ inner keyword words, text = '[' :: (inner ++ [']']) ∧
      wordsOf inner = keyword :: words ∧
      ("" ∈ Rule.keptNames ⟨text, kept⟩ →
        words = [] ∨ words.head? = some "and".toList ∨ words.getLast? = some "and".toList) := by
  obtain ⟨space, keyword, tail, blank, listed, rfl, summons, -⟩ := direction
  have plain : ∀ keyword ∈ ["Enter", "Exit", "Exeunt"],
      keyword.toList ≠ [] ∧ keyword.toList.all fun c => !isBlank c := by decide
  obtain ⟨someLetter, letters⟩ := plain keyword (isKeyword keyword listed)
  have noBlank : ∀ c ∈ keyword.toList, isBlank c = false := by simpa using letters
  refine ⟨space ++ (keyword.toList ++ tail), keyword.toList, wordsOf tail, by simp [bracketed],
    summons.wordsOf_keyword blank someLetter noBlank, summons.word_missing⟩

/-! ### A bracketed Exeunt -/

section

variable {space close behind : List Char}

/-- In front of a bracketed Exeunt no other direction stands. -/
theorem bracketed_exeunt_inj {other tail behindOther : List Char} {keyword : String}
    (same : bracketed space "Exeunt" close ++ behind = bracketed other keyword tail ++ behindOther)
    (blank : IsSpace space) (otherBlank : IsSpace other)
    (isKeyword : keyword ∈ ["Enter", "Exit", "Exeunt"]) (closed : ∀ c ∈ close, c != ']')
    (otherClosed : ∀ c ∈ tail, c != ']') :
    space = other ∧ keyword = "Exeunt" ∧ close = tail := by
  have begins : ∃ letters, keyword.toList = 'E' :: letters := by
    simp only [List.mem_cons, List.not_mem_nil, or_false] at isKeyword
    rcases isKeyword with rfl | rfl | rfl <;> exact ⟨_, rfl⟩
  obtain ⟨letters, isLetters⟩ := begins
  have inner : space ++ 'E' :: ("xeunt".toList ++ (close ++ ']' :: behind)) =
      other ++ 'E' :: (letters ++ (tail ++ ']' :: behindOther)) := by
    simpa [bracketed, isLetters] using same
  obtain ⟨sameSpace, -, sameRest⟩ :=
    append_cons_inj_of_span isBlank inner blank otherBlank (by decide) (by decide)
  simp only [List.mem_cons, List.not_mem_nil, or_false] at isKeyword
  rcases isKeyword with rfl | rfl | rfl
  · obtain rfl : "nter".toList = letters := (List.cons.inj isLetters).2
    simp at sameRest
  · obtain rfl : "xit".toList = letters := (List.cons.inj isLetters).2
    simp at sameRest
  · obtain rfl : "xeunt".toList = letters := (List.cons.inj isLetters).2
    obtain ⟨sameTail, -, -⟩ := append_cons_inj_of_span (· != ']')
      (List.append_cancel_left sameRest) closed otherClosed (by decide) (by decide)
    exact ⟨sameSpace, rfl, sameTail⟩

/-- A direction that fits in front of a bracketed Exeunt is that Exeunt. -/
theorem Direction.at_exeunt {keywords : List String} {number : Nat} {text behindOther : List Char}
    {kept : List (List Char)} (direction : Direction keywords number text kept)
    (isKeyword : ∀ keyword ∈ keywords, keyword ∈ ["Enter", "Exit", "Exeunt"])
    (blank : IsSpace space) (closes : IsSpace close)
    (same : bracketed space "Exeunt" close ++ behind = text ++ behindOther) :
    "Exeunt" ∈ keywords ∧ text = bracketed space "Exeunt" close ∧ Summons close kept ∧
      kept.length = number := by
  obtain ⟨other, keyword, tail, otherBlank, listed, rfl, summons, isNumber⟩ := direction
  have closed {text : List Char} (called : ∀ c ∈ text, isNameLetter c || isBlank c) :
      ∀ c ∈ text, c != ']' := by
    intro c member
    have noBracket : (isNameLetter ']' || isBlank ']') = false := by decide
    rw [bne_iff_ne]
    rintro rfl
    rw [called _ member] at noBracket
    cases noBracket
  obtain ⟨rfl, rfl, rfl⟩ := bracketed_exeunt_inj same blank otherBlank (isKeyword keyword listed)
    (closed (Summons.nobody closes).isCalled_of_mem) (closed summons.isCalled_of_mem)
  exact ⟨listed, rfl, summons, isNumber⟩

/-- White space alone names nobody or, if it is long enough, one character without a name. -/
theorem Summons.of_space {kept : List (List Char)} (summons : Summons close kept)
    (closes : IsSpace close) :
    kept = [] ∨ 2 ≤ close.length ∧ ∃ name, kept = [name] ∧ name ≠ [] ∧ IsSpace name := by
  cases summons with
  | nobody => exact Or.inl rfl
  | @one gap name close isGap called =>
      have gapLength := List.length_pos_iff.mpr isGap.1
      have nameLength := List.length_pos_iff.mpr called.1
      refine Or.inr ⟨?_, name, rfl, called.1, ?_⟩
      · simp only [List.length_append]
        omega
      · intro c member
        exact closes c (by simp [member])
  | two =>
      have noBlank : isBlank 'a' = false := by decide
      rw [closes 'a' (by simp)] at noBlank
      cases noBlank

/-- Of white space that is long enough, a part is taken for a name. -/
theorem Summons.of_two_le (closes : IsSpace close) (long : 2 ≤ close.length) :
    ∃ name, Summons close [name] := by
  match close, long with
  | c :: d :: rest, _ =>
      obtain ⟨firstBlank, secondBlank, restBlank⟩ :
          isBlank c ∧ isBlank d ∧ ∀ e ∈ rest, isBlank e := by
        simpa [IsSpace] using closes
      have isGap : IsGap [c] := ⟨by simp, by simpa [IsSpace] using firstBlank⟩
      have called : IsCalled [d] := ⟨by simp, by simp [secondBlank]⟩
      exact ⟨[d], .one isGap called restBlank⟩

/-- A rule for directions refuses a bracketed Exeunt that it would have to take for the name of
more or fewer characters. -/
theorem Direction.refuses {vocabulary : Vocabulary} {rule : Rule} {before : Option Char}
    {keywords : List String} {number : Nat} (noSlots : rule.pattern.slots = [])
    (isKeyword : ∀ keyword ∈ keywords, keyword ∈ ["Enter", "Exit", "Exeunt"])
    (directs : ∀ {before text behind kept},
      rule.pattern.Fits (vocabulary.meaning rule.caseless) before text behind kept →
        Direction keywords number text kept)
    (blank : IsSpace space) (closes : IsSpace close)
    (differs : "Exeunt" ∈ keywords → ∀ kept, Summons close kept → kept.length ≠ number) :
    (vocabulary.fill rule).Refuses before (bracketed space "Exeunt" close ++ behind) := by
  apply Rule.refuses_of_no_fit (Rule.isReady_of_noSlots noSlots)
  intro text behindOther kept isRest fits
  obtain ⟨listed, -, summons, isNumber⟩ :=
    (directs fits).at_exeunt isKeyword blank closes isRest
  exact differs listed kept summons isNumber

/-- The rules in front of those for leaving refuse a bracketed Exeunt. -/
theorem refuses_exeunt (vocabulary : Vocabulary) (before : Option Char) (blank : IsSpace space)
    (closes : IsSpace close) :
    ∀ rule ∈ Rule.structural.take 6,
      (vocabulary.fill rule).Refuses before (bracketed space "Exeunt" close ++ behind) := by
  have neverTwo (listed : "Exeunt" ∈ ["Exeunt"]) (kept : List (List Char))
      (summons : Summons close kept) : kept.length ≠ 2 := by
    rcases summons.of_space closes with rfl | ⟨-, name, rfl, -⟩ <;> simp
  simp only [Rule.structural, List.take_succ_cons, List.take_zero, List.forall_mem_cons]
  refine ⟨?_, ?_, ?_, ?_, ?_, ?_, by simp⟩
  · exact Rule.refuses_someBlanks vocabulary (by decide) before _
  · exact Rule.Avoids.refuses ⟨_, Rule.opens_heading _ "Act", by decide⟩
      (Rule.isReady_of_noSlots rfl) (List.mem_singleton_self "[") (renders_self true _) before _
  · exact Rule.Avoids.refuses ⟨_, Rule.opens_heading _ "Scene", by decide⟩
      (Rule.isReady_of_noSlots rfl) (List.mem_singleton_self "[") (renders_self true _) before _
  · exact Direction.refuses rfl (by simp)
      (fits_directionForTwo (keyed_literal "Enter")).mp blank closes (by simp)
  · exact Direction.refuses rfl (by simp)
      (fits_directionForOne (keyed_literal "Enter")).mp blank closes (by simp)
  · exact Direction.refuses rfl (by simp)
      (fits_directionForTwo (keyed_literal "Exeunt")).mp blank closes neverTwo

/-- What is found of a bracketed Exeunt by a pattern for directions is all of it. -/
theorem Direction.finds (vocabulary : Vocabulary) (rule : Rule) (before : Option Char)
    {keywords : List String} {number : Nat}
    (directs : ∀ {before text behind kept},
      rule.pattern.Fits (vocabulary.meaning rule.caseless) before text behind kept ↔
        Direction keywords number text kept)
    (noSlots : rule.pattern.slots = [])
    (isKeyword : ∀ keyword ∈ keywords, keyword ∈ ["Enter", "Exit", "Exeunt"])
    (blank : IsSpace space) (closes : IsSpace close) (listed : "Exeunt" ∈ keywords)
    {kept : List (List Char)} (summons : Summons close kept) (isNumber : kept.length = number) :
    ∃ groups, (vocabulary.fill rule).Finds before (bracketed space "Exeunt" close ++ behind)
        ⟨bracketed space "Exeunt" close, groups⟩ ∧ Summons close groups ∧
      groups.length = number := by
  have direction : Direction keywords number (bracketed space "Exeunt" close) kept :=
    ⟨space, "Exeunt", close, blank, listed, rfl, summons, isNumber⟩
  have found : ∃ found, (vocabulary.fill rule).Finds before
      (bracketed space "Exeunt" close ++ behind) found := by
    apply Rule.exists_finds (Rule.isReady_of_noSlots noSlots) _ (directs.mpr direction)
    intro kept fits
    obtain ⟨_, _, _, _, _, isEmpty, _⟩ := directs.mp fits
    cases isEmpty
  obtain ⟨⟨text, groups⟩, finds⟩ := found
  obtain ⟨behindOther, isRest, fits⟩ := Rule.fits_of_finds finds
  obtain ⟨-, isText, found, isFound⟩ :=
    (directs.mp fits).at_exeunt isKeyword blank closes isRest
  obtain rfl : text = bracketed space "Exeunt" close := isText
  exact ⟨groups, finds, found, isFound⟩

/-- The rule for a single character who leaves. -/
def Rule.leavingOne : Rule :=
  plain (directionForOne (choice [literal false "Exit", literal false "Exeunt"])) fun found =>
    some (.exit (keptNames found))

/-- The rule for everybody who leaves. -/
def Rule.leavingAll : Rule :=
  plain (literal false "[" ++ blanks ++ literal false "Exeunt" ++ blanks ++ literal false "]")
    fun found => some (.exit (keptNames found))

/-- With at most one blank behind the word, everybody leaves. -/
theorem attempt_exeunt_short (vocabulary : Vocabulary) (before : Option Char)
    (behind : List Char) (blank : IsSpace space) (closes : IsSpace close)
    (short : close.length ≤ 1) :
    attempt before (bracketed space "Exeunt" close ++ behind) 0
        (Rule.table.map vocabulary.fill) =
      .found (bracketed space "Exeunt" close) (some (.exit [])) 8 := by
  have neverOne (listed : "Exeunt" ∈ ["Exit", "Exeunt"]) (kept : List (List Char))
      (summons : Summons close kept) : kept.length ≠ 1 := by
    rcases summons.of_space closes with rfl | ⟨long, -⟩
    · simp
    · omega
  have earlierRefuse : ∀ filled ∈ (Rule.structural.take 6 ++ [Rule.leavingOne]).map vocabulary.fill,
      filled.Refuses before (bracketed space "Exeunt" close ++ behind) := by
    rw [List.forall_mem_map, List.forall_mem_append, List.forall_mem_singleton]
    exact ⟨refuses_exeunt vocabulary before blank closes,
      Direction.refuses rfl (by simp) (fits_directionForOne keyed_exit).mp blank closes neverOne⟩
  obtain ⟨groups, finds, -, isNone⟩ := Direction.finds vocabulary Rule.leavingAll before
    fits_bareExeunt rfl (by simp) blank closes (by simp) (.nobody closes) rfl
  obtain rfl := List.length_eq_zero_iff.mp isNone
  exact attempt_of_earlier earlierRefuse finds

/-- With more white space behind the word, a part of it is taken for the name of a single
character, and that name is empty. -/
theorem attempt_exeunt_long (vocabulary : Vocabulary) (before : Option Char)
    (behind : List Char) (blank : IsSpace space) (closes : IsSpace close)
    (long : 2 ≤ close.length) :
    attempt before (bracketed space "Exeunt" close ++ behind) 0
        (Rule.table.map vocabulary.fill) =
      .found (bracketed space "Exeunt" close) (some (.exit [""])) 7 := by
  obtain ⟨name, summons⟩ := Summons.of_two_le closes long
  have earlierRefuse : ∀ filled ∈ (Rule.structural.take 6).map vocabulary.fill,
      filled.Refuses before (bracketed space "Exeunt" close ++ behind) := by
    rw [List.forall_mem_map]
    exact refuses_exeunt vocabulary before blank closes
  obtain ⟨groups, finds, found, isOne⟩ := Direction.finds vocabulary Rule.leavingOne before
    (fits_directionForOne keyed_exit) rfl (by simp) blank closes (by simp) summons rfl
  have isExit : Rule.leavingOne.build ⟨bracketed space "Exeunt" close, groups⟩ =
      some (.exit [""]) := by
    rcases found.of_space closes with rfl | ⟨-, name, rfl, nonempty, isSpace⟩
    · cases isOne
    · have noName : normalizeName name = "" := normalizeName_eq_empty_iff.mpr isSpace
      simp [Rule.leavingOne, Rule.plain, Rule.keptNames, nonempty, noName, NameSet.ofList,
        NameSet.insert]
  rw [← isExit]
  exact attempt_of_earlier earlierRefuse finds

end

/-! ### Stage directions -/

/-- The names that stage directions carry, whatever the words are and whatever the source is.
A direction to enter never carries nobody.  A direction carries an empty name only if no word
follows its keyword, or if the first or the last word that follows it is the one that joins two
names.  And a scan that comes to a bracketed Exeunt with nothing but white space around the word
makes one step of it: with at most one blank behind the word everybody leaves, with more of
them a single character whose name is empty. -/
theorem stage_directions_carry_names (vocabulary : Vocabulary) :
    (∀ source, ∀ step ∈ (scan Rule.table vocabulary source).steps, ∀ names,
      (step.kind = some (.enter names) → names ≠ []) ∧
      (step.kind = some (.enter names) ∨ step.kind = some (.exit names) →
        ∃ inner keyword words, step.text = '[' :: (inner ++ [']']) ∧
          wordsOf inner = keyword :: words ∧
          ("" ∈ names →
            words = [] ∨ words.head? = some "and".toList ∨
              words.getLast? = some "and".toList))) ∧
    ∀ before line space close behind, IsSpace space → IsSpace close →
      ∃ tried, scanFrom (Rule.table.map vocabulary.fill) before line
          (bracketed space "Exeunt" close ++ behind) =
        Scan.cons
          ⟨bracketed space "Exeunt" close, line,
            some (.exit (if close.length ≤ 1 then [] else [""])), tried⟩
          (scanFrom (Rule.table.map vocabulary.fill) (some ']')
            (line + countNewlines (bracketed space "Exeunt" close)) behind) := by
  constructor
  · intro source step member names
    constructor
    · intro enters
      obtain ⟨number, kept, ⟨_, _, _, _, _, _, summons, isNumber⟩, rfl⟩ :=
        direction_of_enter member enters
      apply summons.keptNames_ne_nil
      rintro rfl
      cases isNumber
    · rintro (enters | leaves)
      · obtain ⟨number, kept, direction, rfl⟩ := direction_of_enter member enters
        exact direction.word_missing (by simp)
      · obtain ⟨number, kept, direction, rfl⟩ := direction_of_exit member leaves
        exact direction.word_missing (by simp)
  · intro before line space close behind blank closes
    have isLast : (bracketed space "Exeunt" close).getLast?.or before = some ']' := by
      simp [bracketed, List.getLast?_cons]
    by_cases short : close.length ≤ 1
    · have found := attempt_exeunt_short vocabulary before behind blank closes short
      rw [if_pos short, scanFrom_of_found found line, isLast]
      exact ⟨8, rfl⟩
    · have found := attempt_exeunt_long vocabulary before behind blank closes
        (Nat.lt_of_not_le short)
      rw [if_neg short, scanFrom_of_found found line, isLast]
      exact ⟨7, rfl⟩

/-- Two characters enter over a line break, and an Exeunt is spread over two lines. -/
theorem stage_directions_carry_names_ajax :
    (∃ step ∈ (scan Rule.table ⟨[]⟩ "[Enter Ajax and\n hector ]".toList).steps,
      step.kind = some (.enter ["Ajax", "Hector"])) ∧
    (∃ inner keyword words, "[Enter Ajax and\n hector ]".toList = '[' :: (inner ++ [']']) ∧
      wordsOf inner = keyword :: words ∧
      ("" ∈ ["Ajax", "Hector"] →
        words = [] ∨ words.head? = some "and".toList ∨ words.getLast? = some "and".toList)) ∧
    IsSpace [' '] ∧ IsSpace ['\n', '\t'] ∧
      ∃ tried, scanFrom (Rule.table.map (Vocabulary.mk []).fill) none 1
          (bracketed [' '] "Exeunt" ['\n', '\t'] ++ []) =
        Scan.cons ⟨bracketed [' '] "Exeunt" ['\n', '\t'], 1, some (.exit [""]), tried⟩
          (scanFrom (Rule.table.map (Vocabulary.mk []).fill) (some ']') 2 []) := by
  have isStep : (⟨"[Enter Ajax and\n hector ]".toList, 1, some (.enter ["Ajax", "Hector"]), 4⟩ :
      Step) ∈ (scan Rule.table ⟨[]⟩ "[Enter Ajax and\n hector ]".toList).steps := by
    decide +kernel
  have spaces : IsSpace [' '] ∧ IsSpace ['\n', '\t'] :=
    ⟨List.all_eq_true.mp (by decide), List.all_eq_true.mp (by decide)⟩
  obtain ⟨directions, exeunt⟩ := stage_directions_carry_names ⟨[]⟩
  exact ⟨⟨_, isStep, rfl⟩, (directions _ _ isStep _).2 (Or.inl rfl), spaces.1, spaces.2,
    exeunt none 1 [' '] ['\n', '\t'] [] spaces.1 spaces.2⟩

/-- Two blanks behind the word, and the one who leaves has an empty name. -/
theorem exeunt_of_the_nameless :
    tokenize ⟨[]⟩ "[Exeunt  ]" = .ok [⟨.exit [""], 1⟩] ∧
      tokenize ⟨[]⟩ "[Exeunt  ]" ≠ .ok [⟨.exit [], 1⟩] := by
  have cut : tokenize ⟨[]⟩ "[Exeunt  ]" = .ok [⟨.exit [""], 1⟩] :=
    Consulting.eq_ok_of_toOption (by decide +kernel)
  refine ⟨cut, ?_⟩
  rw [cut]
  simp

end Playhouse

/-
Module: Playhouse.Proofs.WrittenRules
Purpose: The rules in writing say what the rules of the table say.
Main exports: Reads.of_toList, Pattern.fillAll, Template.Says, Template.says_table
-/
import Mathlib.Data.List.Forall2
import Playhouse.Proofs.Keeping
import Playhouse.Proofs.LetterCase
import Playhouse.Token.Cutting

namespace Playhouse

open Text
open Pattern (FitsAlike letterKind isEndMark isFreeCharacter isNameLetter anyLetterKind)
open WordList (writtenCharacter)

/-! ### Sets of characters -/

section

variable {caseless : Bool}

/-- A mark without case counts as itself only. -/
theorem letterKind_lone {c : Char} (lone : c.toNat ∈ lonePoints) :
    letterKind caseless c = (· == c) := by
  funext d
  cases caseless with
  | false => rfl
  | true =>
      apply Bool.eq_iff_iff.mpr
      rw [beq_iff_eq]
      constructor
      · exact eq_of_sameLetter_lone lone
      · rintro rfl
        exact sameLetter_refl d

/-- A set admits the characters of its kinds, the last one it names, and a hyphen behind it. -/
theorem kind_of_set (position : Nat) (kinds : List (Char → Bool)) (last : Option Char)
    (hyphen : Bool) :
    CharacterSet.kind caseless ⟨position, some false, kinds, last, hyphen, false⟩ =
      fun c => (kinds.any fun kind => kind c) || last.any (letterKind caseless · c) ||
        (hyphen && letterKind caseless '-' c) := by
  funext c
  cases last <;> cases hyphen <;>
    simp [CharacterSet.kind, CharacterSet.allKinds, CharacterSet.allKinds.letterKind,
      Bool.or_assoc]

theorem isEndMark_eq (caseless : Bool) :
    isEndMark = fun c =>
      letterKind caseless '.' c || letterKind caseless '!' c || letterKind caseless '?' c := by
  rw [letterKind_lone (by decide : '.'.toNat ∈ lonePoints),
    letterKind_lone (by decide : '!'.toNat ∈ lonePoints),
    letterKind_lone (by decide : '?'.toNat ∈ lonePoints)]
  rfl

theorem readsPlace_endMark : ReadsPlace caseless ['[', '.', '!', '?', ']'] isEndMark := by
  have isKind (position : Nat) : CharacterSet.kind caseless
      ⟨position, some false, [letterKind caseless '.', letterKind caseless '!'], some '?', false,
        false⟩ = isEndMark := by
    rw [kind_of_set, isEndMark_eq caseless]
    funext c
    simp
  intro frames choices items position
  rw [← isKind position]
  exact ⟨_, rfl⟩

/-- The negation of a set admits the other characters. -/
theorem readsPlace_noEndMark :
    ReadsPlace caseless ['[', '^', '.', '!', '?', ']'] fun c => !isEndMark c := by
  have isKind (position : Nat) : CharacterSet.kind caseless
      ⟨position, some true, [letterKind caseless '.', letterKind caseless '!'], some '?', false,
        false⟩ = fun c => !isEndMark c := by
    have isNegated : CharacterSet.kind caseless
        ⟨position, some true, [letterKind caseless '.', letterKind caseless '!'], some '?', false,
          false⟩ = fun c => !CharacterSet.kind caseless
        ⟨position, some false, [letterKind caseless '.', letterKind caseless '!'], some '?', false,
          false⟩ c := rfl
    rw [isNegated, kind_of_set, isEndMark_eq caseless]
    funext c
    simp
  intro frames choices items position
  rw [← isKind position]
  exact ⟨_, rfl⟩

theorem readsPlace_free :
    ReadsPlace caseless ['[', '\\', 'w', '\x27', '/', '-', ']'] isFreeCharacter := by
  have isKind (position : Nat) : CharacterSet.kind caseless
      ⟨position, some false, [isWordCharacter, letterKind caseless '\x27'], some '/', true,
        false⟩ = isFreeCharacter := by
    rw [kind_of_set]
    funext c
    simp [letterKind_lone (by decide : '\x27'.toNat ∈ lonePoints),
      letterKind_lone (by decide : '/'.toNat ∈ lonePoints),
      letterKind_lone (by decide : '-'.toNat ∈ lonePoints), isFreeCharacter]
  intro frames choices items position
  rw [← isKind position]
  exact ⟨_, rfl⟩

/-- The two ranges of plain letters. -/
theorem ranges_eq (c : Char) :
    (rangeKind false 'A' 'Z' c || rangeKind false 'a' 'z' c) = isNameLetter c := by
  have isLetter : isNameLetter c =
      (decide ('A' ≤ c ∧ c ≤ 'Z') || ('a' ≤ c && c ≤ 'z')) := rfl
  rw [isLetter]
  simp [rangeKind]

theorem readsPlace_nameLetter :
    ReadsPlace false ['[', 'A', '-', 'Z', 'a', '-', 'z', ']'] isNameLetter := by
  have isKind (position : Nat) : CharacterSet.kind false
      ⟨position, some false, [rangeKind false 'A' 'Z', rangeKind false 'a' 'z'], none, false,
        false⟩ = isNameLetter := by
    rw [kind_of_set]
    funext c
    simp [ranges_eq]
  intro frames choices items position
  rw [← isKind position]
  exact ⟨_, rfl⟩

theorem readsPlace_name :
    ReadsPlace false ['[', 'A', '-', 'Z', 'a', '-', 'z', ' ', '\\', 't', ']'] fun c =>
      isNameLetter c || c == ' ' || c == '\t' := by
  have isKind (position : Nat) : CharacterSet.kind false
      ⟨position, some false,
        [rangeKind false 'A' 'Z', rangeKind false 'a' 'z', letterKind false ' '], some '\t',
        false, false⟩ = fun c => isNameLetter c || c == ' ' || c == '\t' := by
    rw [kind_of_set]
    funext c
    rw [← ranges_eq]
    simp [letterKind, Bool.or_assoc]
  intro frames choices items position
  rw [← isKind position]
  exact ⟨_, rfl⟩

theorem readsPlace_directionName :
    ReadsPlace false ['[', 'A', '-', 'Z', 'a', '-', 'z', '\\', 's', ']'] fun c =>
      isNameLetter c || isBlank c := by
  have isKind (position : Nat) : CharacterSet.kind false
      ⟨position, some false, [rangeKind false 'A' 'Z', rangeKind false 'a' 'z', isBlank], none,
        false, false⟩ = fun c => isNameLetter c || isBlank c := by
    rw [kind_of_set]
    funext c
    rw [← ranges_eq]
    simp [Bool.or_assoc]
  intro frames choices items position
  rw [← isKind position]
  exact ⟨_, rfl⟩

theorem readsPlace_numeralLetter :
    ReadsPlace caseless ['[', 'M', 'D', 'C', 'L', 'X', 'V', 'I', ']']
      (anyLetterKind caseless ['M', 'D', 'C', 'L', 'X', 'V', 'I']) :=
  fun _ _ _ _ => ⟨_, rfl⟩

/-! ### Parts of templates -/

/-- A text in a group of its own. -/
theorem reads_group {text : List Char} {pattern : Pattern Empty}
    (reads : Reads caseless text pattern) (noMark : (text ++ [')']).head? ≠ some '?') :
    Reads caseless ('(' :: (text ++ [')'])) (.group pattern) := by
  have alone := reads_kept (.cons reads .nil)
  rw [List.intercalate_singleton] at alone
  exact alone noMark

/-- A sign that stands for itself. -/
theorem reads_escaped {c : Char} (noLetter : c.isAlphanum = false) :
    Reads caseless ['\\', c] (.seq (.one (letterKind caseless c)) .nothing) :=
  (readsPlace_escaped noLetter).reads.append reads_nil

theorem reads_someBlanks : Reads caseless ['\\', 's', '+'] .someBlanks :=
  readsPlace_blank.plus

theorem reads_blanks : Reads caseless ['\\', 's', '*'] .blanks :=
  readsPlace_blank.star

theorem reads_mark : Reads caseless ['[', '.', '!', '?', ']'] .mark :=
  readsPlace_endMark.reads

theorem reads_freeWord :
    Reads caseless ['[', '\\', 'w', '\x27', '/', '-', ']', '+'] .freeWord :=
  readsPlace_free.plus

/-- One decimal place of a numeral. -/
theorem reads_romanPlace {unit five ten : Char} (unitSign : Draft.isSign unit = false)
    (fiveSign : Draft.isSign five = false) (tenSign : Draft.isSign ten = false) :
    Reads caseless
      ['(', '?', ':', unit, ten, '|', unit, five, '|', five, '?', unit, '\x7b', '0', ',', '3',
        '\x7d', ')']
      (.romanPlace caseless unit five ten) := by
  have isUnit := @readsPlace_character caseless unit unitSign
  have isFive := @readsPlace_character caseless five fiveSign
  have isTen := @readsPlace_character caseless ten tenSign
  have upToThree := isUnit.followed ['\x7b', '0', ',', '3', '\x7d'] (.repeated _ 0 (some 3))
    fun _ _ _ _ => ⟨_, rfl⟩
  exact reads_unkept (.cons (isUnit.reads.append isTen.reads)
    (.cons (isUnit.reads.append isFive.reads) (.cons (isFive.query.append upToThree) .nil)))

theorem toList_join {first second : String} {left right : List Char} (isLeft : first.toList = left)
    (isRight : second.toList = right) : (first ++ second).toList = left ++ right := by
  rw [String.toList_append, isLeft, isRight]

theorem Reads.of_toList {text : String} {letters : List Char} {pattern : Pattern Empty}
    (isText : text.toList = letters) (reads : Reads caseless letters pattern) :
    Reads caseless text.toList pattern :=
  isText ▸ reads

theorem reads_numeral : Reads caseless Template.numeral.toList (.roman caseless) := by
  have upToFour := (@readsPlace_character caseless 'M' rfl).followed
    ['\x7b', '0', ',', '4', '\x7d'] (.repeated _ 0 (some 4)) fun _ _ _ _ => ⟨_, rfl⟩
  refine .of_toList (toList_join String.toList_ofList String.toList_ofList) ?_
  exact ((((reads_ahead readsPlace_numeralLetter).append upToFour).append
    (@reads_romanPlace caseless 'C' 'D' 'M' rfl rfl rfl)).append
    (@reads_romanPlace caseless 'X' 'L' 'C' rfl rfl rfl)).append
    (@reads_romanPlace caseless 'I' 'V' 'X' rfl rfl rfl)

end

/-! ### Places for word classes -/

namespace Pattern

variable {κ ε : Type}

/-- Put one pattern into all open places. -/
def fillAll (pattern : Pattern κ) (filling : Pattern Empty) : Pattern Empty :=
  match pattern with
  | nothing => nothing
  | one kind => one kind
  | many kind least most appetite => many kind least most appetite
  | edge => edge
  | ahead kind => ahead kind
  | slot _ => filling
  | group body => group (body.fillAll filling)
  | seq first second => seq (first.fillAll filling) (second.fillAll filling)
  | alt first second => alt (first.fillAll filling) (second.fillAll filling)

/-- That is how places are filled of which all have the same contents. -/
theorem fill_of_forall {contents : κ → Except ε (Pattern Empty)} {filling : Pattern Empty}
    {pattern : Pattern κ} (had : ∀ key ∈ pattern.slots, contents key = .ok filling) :
    pattern.fill contents = .ok (pattern.fillAll filling) := by
  induction pattern with
  | nothing | one kind | many kind least most appetite | edge | ahead kind => rfl
  | slot key => exact had key List.mem_cons_self
  | group body bodyFilled =>
      rw [fill, bodyFilled had]
      rfl
  | seq first second firstFilled secondFilled | alt first second firstFilled secondFilled =>
      rw [fill, firstFilled fun key member => had key (List.mem_append_left _ member),
        secondFilled fun key member => had key (List.mem_append_right _ member)]
      rfl

/-- A pattern whose one place cannot be filled. -/
theorem fill_error_of_slots {contents : κ → Except ε (Pattern Empty)} {key : κ} {fault : ε}
    {pattern : Pattern κ} (oneSlot : pattern.slots = [key])
    (failed : contents key = .error fault) : pattern.fill contents = .error fault := by
  induction pattern with
  | nothing | one kind | many kind least most appetite | edge | ahead kind => cases oneSlot
  | slot other =>
      obtain rfl : other = key := List.head_eq_of_cons_eq oneSlot
      exact failed
  | group body bodyFilled =>
      rw [fill, bodyFilled oneSlot]
      rfl
  | seq first second firstFilled secondFilled | alt first second firstFilled secondFilled =>
      rw [slots, List.append_eq_singleton_iff] at oneSlot
      rcases oneSlot with ⟨noSlot, oneSlot⟩ | ⟨oneSlot, noSlot⟩
      · have isFirst : first.fill contents = .ok (first.fillAll .nothing) :=
          fill_of_forall fun key member => by rw [noSlot] at member; cases member
        rw [fill, isFirst, secondFilled oneSlot]
        rfl
      · rw [fill, firstFilled oneSlot]
        rfl

section

variable (filling : Pattern Empty)

@[simp] theorem fillAll_append (first second : Pattern κ) :
    (first ++ second).fillAll filling = first.fillAll filling ++ second.fillAll filling := rfl

@[simp] theorem fillAll_group (body : Pattern κ) :
    (group body).fillAll filling = group (body.fillAll filling) := rfl

@[simp] theorem fillAll_slot (key : κ) : (slot key).fillAll filling = filling := rfl

@[simp] theorem fillAll_many (kind : Char → Bool) (least : Nat) (most : Option Nat)
    (appetite : Appetite) :
    (many kind least most appetite : Pattern κ).fillAll filling = many kind least most appetite :=
  rfl

@[simp] theorem fillAll_one (kind : Char → Bool) :
    (one kind : Pattern κ).fillAll filling = one kind := rfl

@[simp] theorem fillAll_edge : (edge : Pattern κ).fillAll filling = edge := rfl

@[simp] theorem fillAll_blanks : (blanks : Pattern κ).fillAll filling = blanks := rfl

@[simp] theorem fillAll_someBlanks : (someBlanks : Pattern κ).fillAll filling = someBlanks := rfl

@[simp] theorem fillAll_mark : (mark : Pattern κ).fillAll filling = mark := rfl

@[simp] theorem fillAll_freeWord : (freeWord : Pattern κ).fillAll filling = freeWord := rfl

@[simp] theorem fillAll_roman (caseless : Bool) :
    (roman caseless : Pattern κ).fillAll filling = roman caseless := rfl

@[simp] theorem fillAll_literal (caseless : Bool) (word : String) :
    (literal caseless word : Pattern κ).fillAll filling = literal caseless word := by
  unfold literal
  induction word.toList with
  | nil => rfl
  | cons c rest inductionHypothesis => exact congrArg (seq _) inductionHypothesis

@[simp] theorem fillAll_phrase (caseless : Bool) (words : String) :
    (phrase caseless words : Pattern κ).fillAll filling = phrase caseless words := by
  unfold phrase
  induction words.toList with
  | nil => rfl
  | cons c rest inductionHypothesis =>
      rw [List.foldr_cons, List.foldr_cons, ← inductionHypothesis]
      split <;> rfl

@[simp] theorem fillAll_choice (patterns : List (Pattern κ)) :
    (choice patterns).fillAll filling = choice (patterns.map (·.fillAll filling)) := by
  induction patterns with
  | nil => rfl
  | cons first others inductionHypothesis =>
      cases others with
      | nil => rfl
      | cons second rest => exact congrArg (alt _) inductionHypothesis

end

end Pattern

/-! ### Rules in writing -/

/-- A template that says what a rule says: either its text is read as the pattern of the rule,
or the rule has one place for a class and so has the template, and for every list of words
that is written there the text is read as the pattern with these words. -/
inductive Template.Says (template : String) (caseless : Bool) (rule : Rule) : Prop where
  | plain (isPlain : '<' ∉ template.toList) (noSlot : rule.pattern.slots = [])
      (read : ∃ matcher, readPattern template caseless = .ok matcher ∧
        matcher.Finds (rule.pattern.fillAll .nothing))
  | slotted {before behind : List Char} {category : Category}
      (isTemplate : template.toList = before ++ category.placeholder.toList ++ behind)
      (plainBefore : '<' ∉ before) (plainBehind : '<' ∉ behind)
      (oneSlot : rule.pattern.slots = [category])
      (read : ∀ list : WordList,
        Reads caseless (before ++ (list.expression true).toList ++ behind)
          (rule.pattern.fillAll (list.pattern rule.caseless)))

namespace Template

open Category (placeholder)

variable {template : String} {caseless : Bool} {rule : Rule} {text before behind : List Char}

/-- A text without places for classes. -/
theorem says_of_reads (isText : template.toList = text) (isPlain : '<' ∉ text)
    (noSlot : rule.pattern.slots = [])
    (reads : Reads caseless text (rule.pattern.fillAll .nothing)) :
    Says template caseless rule := by
  subst isText
  exact .plain isPlain noSlot (readPattern_of_reads reads)

/-- A template of one class says what the rule for this class says. -/
theorem says_class (category : Category) (build : Found → Option TokenKind) :
    Says category.placeholder true (Rule.ofClass category build) := by
  refine @Says.slotted _ _ _ [] [] category ?_ List.not_mem_nil List.not_mem_nil rfl ?_
  · rw [List.nil_append, List.append_nil]
  · intro list
    rw [List.nil_append, List.append_nil]
    exact reads_expression list

/-! ### Headings, directions and speakers -/

theorem not_mem_numeral : '<' ∉ numeral.toList := by
  decide +kernel

theorem reads_numeralGroup :
    Reads caseless ('(' :: (numeral.toList ++ [')'])) (.group (.roman caseless)) :=
  reads_group reads_numeral (by decide)

theorem says_heading (keyword : String) (build : Found → Option TokenKind) {letters : List Char}
    (isKeyword : keyword.toList = letters) (noSign : signless letters)
    (isPlain : '<' ∉ letters) (noSlot : (Rule.heading keyword).slots = [])
    (isText : template.toList =
      letters ++ [' ', '('] ++ numeral.toList ++ [')', ':', ' ', '(', '.', '*', ')']) :
    Says template false (Rule.plain (Rule.heading keyword) build) := by
  have spaced : (keyword ++ " ").toList = letters ++ [' '] :=
    toList_join isKeyword String.toList_ofList
  have noSpaceSign : signless (letters ++ [' ']) := signless_append_iff.mpr ⟨noSign, by decide⟩
  have reads := (((reads_literal (keyword ++ " ") spaced noSpaceSign).append
    (@reads_numeralGroup false)).append
    (reads_literal ": " String.toList_ofList (by decide))).append
    (reads_group readsPlace_any.star (by decide))
  refine says_of_reads isText (by simp [isPlain, not_mem_numeral]) noSlot ?_
  simpa [Rule.plain, Rule.heading] using reads

/-- The name in a stage direction. -/
def directionName : List Char :=
  ['(', '[', 'A', '-', 'Z', 'a', '-', 'z', '\\', 's', ']', '+', '?', ')']

theorem reads_directionName (filling : Pattern Empty) :
    Reads false directionName (Rule.directionName.fillAll filling) :=
  reads_group readsPlace_directionName.reluctantPlus (by decide)

/-- A stage direction about one character, around its keyword. -/
theorem reads_directionForOne {keyword : Pattern Category} {filling : Pattern Empty}
    (reads : Reads false text (keyword.fillAll filling)) :
    Reads false
      (['\\', '['] ++ ['\\', 's', '*'] ++ text ++ ['\\', 's', '+'] ++ directionName ++
        ['\\', 's', '*'] ++ ['\\', ']'])
      ((Rule.directionForOne keyword).fillAll filling) :=
  ((((((reads_escaped rfl).append reads_blanks).append reads).append reads_someBlanks).append
    (reads_directionName filling)).append reads_blanks).append (reads_escaped rfl)

/-- A stage direction about two characters, around its keyword. -/
theorem reads_directionForTwo {keyword : Pattern Category} {filling : Pattern Empty}
    (reads : Reads false text (keyword.fillAll filling)) :
    Reads false
      (['\\', '['] ++ ['\\', 's', '*'] ++ text ++ ['\\', 's', '+'] ++ directionName ++
        ['\\', 's', '+'] ++ ['a', 'n', 'd'] ++ ['\\', 's', '+'] ++ directionName ++
        ['\\', 's', '*'] ++ ['\\', ']'])
      ((Rule.directionForTwo keyword).fillAll filling) := by
  have conjunction : Reads false ['a', 'n', 'd'] (.literal false "and") :=
    reads_literal "and" String.toList_ofList (by decide)
  exact ((((((((((reads_escaped rfl).append reads_blanks).append reads).append
    reads_someBlanks).append (reads_directionName filling)).append reads_someBlanks).append
    conjunction).append reads_someBlanks).append (reads_directionName filling)).append
    reads_blanks).append (reads_escaped rfl)

/-- A name in front of a speech. -/
theorem says_speaker (build : Found → Option TokenKind) :
    Says ("(" ++ name ++ ")\\s*:") false
      (Rule.plain (Rule.speechName ++ Pattern.blanks ++ Pattern.literal false ":") build) := by
  have reads := ((reads_group
    (readsPlace_nameLetter.reads.append readsPlace_name.reluctantStar) (by decide)).append
    reads_blanks).append (reads_literal ":" String.toList_ofList (by decide))
  refine says_of_reads
    (toList_join (toList_join String.toList_ofList String.toList_ofList) String.toList_ofList)
    (by decide) rfl ?_
  exact reads

theorem says_structural :
    List.Forall₂ (fun template rule => Says template.1 template.2 rule) structural
      Rule.structural := by
  have keyword (word : String) {letters : List Char} (isWord : word.toList = letters)
      (noSign : signless letters) :
      Reads false letters ((.literal false word : Pattern Category).fillAll .nothing) := by
    rw [Pattern.fillAll_literal]
    exact reads_literal word isWord noSign
  have enter := keyword "Enter" String.toList_ofList (by decide)
  have exit := keyword "Exit" String.toList_ofList (by decide)
  have exeunt := keyword "Exeunt" String.toList_ofList (by decide)
  have headed {keyword : String} {letters : List Char} (isKeyword : keyword.toList = letters) :
      (keyword ++ numeral ++ "): (.*)").toList =
        letters ++ numeral.toList ++ [')', ':', ' ', '(', '.', '*', ')'] :=
    toList_join (toList_join isKeyword rfl) String.toList_ofList
  refine .cons (says_of_reads String.toList_ofList (by decide) rfl reads_someBlanks) <|
    .cons (says_heading "Act" _ String.toList_ofList (by decide) (by decide) rfl
      (headed String.toList_ofList)) <|
    .cons (says_heading "Scene" _ String.toList_ofList (by decide) (by decide) rfl
      (headed String.toList_ofList)) <|
    .cons (says_of_reads String.toList_ofList (by decide) rfl ?enterBoth) <|
    .cons (says_of_reads String.toList_ofList (by decide) rfl ?enter) <|
    .cons (says_of_reads String.toList_ofList (by decide) rfl ?exeuntBoth) <|
    .cons (says_of_reads String.toList_ofList (by decide) rfl ?exit) <|
    .cons (says_of_reads String.toList_ofList (by decide) rfl ?exeunt) <|
    .cons (says_speaker _) .nil
  case enterBoth =>
    have reads := reads_directionForTwo enter
    exact reads
  case enter =>
    have reads := reads_directionForOne enter
    exact reads
  case exeuntBoth =>
    have reads := reads_directionForTwo exeunt
    exact reads
  case exit =>
    have keywords := reads_unkept (.cons exit (.cons exeunt .nil))
    have either : Reads false
        ['(', '?', ':', 'E', 'x', 'i', 't', '|', 'E', 'x', 'e', 'u', 'n', 't', ')']
        ((.choice [.literal false "Exit", .literal false "Exeunt"] : Pattern Category).fillAll
          .nothing) := by
      rw [Pattern.fillAll_choice]
      exact keywords
    have reads := reads_directionForOne either
    exact reads
  case exeunt =>
    have reads := ((((@reads_escaped false '[' rfl).append reads_blanks).append exeunt).append
      reads_blanks).append (@reads_escaped false ']' rfl)
    exact reads

/-! ### Commands -/

/-- A command of one sentence around a word for "your". -/
theorem says_command (verb object : String) (build : Found → Option TokenKind)
    {verbLetters objectLetters : List Char} (isVerb : verb.toList = verbLetters)
    (isObject : object.toList = objectLetters)
    (noVerbSign : signless verbLetters) (noObjectSign : signless objectLetters)
    (isTemplate : template.toList =
      before ++ (placeholder .secondPersonPossessive).toList ++ behind)
    (isBefore : before = verbLetters.flatMap spelled ++ ['\\', 's', '+'])
    (isBehind : behind = ['\\', 's', '+'] ++ objectLetters.flatMap spelled ++ ['\\', 's', '*'] ++
      ['[', '.', '!', '?', ']'])
    (plainBefore : '<' ∉ before) (plainBehind : '<' ∉ behind)
    (oneSlot : (Rule.command verb object).slots = [.secondPersonPossessive]) :
    Says template true (Rule.around (Rule.command verb object) build) := by
  refine .slotted isTemplate plainBefore plainBehind oneSlot ?_
  intro list
  have reads := ((((((@reads_phrase true verb _ isVerb noVerbSign).append
    reads_someBlanks).append (reads_expression list)).append reads_someBlanks).append
    (@reads_phrase true object _ isObject noObjectSign)).append reads_blanks).append reads_mark
  simpa [isBefore, isBehind, Rule.around, Rule.command] using reads

theorem says_commands :
    List.Forall₂ (fun template rule => Says template.1 template.2 rule) commands
      Rule.commands := by
  have split {first second : String} {before behind : List Char}
      (isBefore : first.toList = before) (isBehind : second.toList = behind) :
      (first ++ placeholder .secondPersonPossessive ++ second).toList =
        before ++ (placeholder .secondPersonPossessive).toList ++ behind :=
    toList_join (toList_join isBefore rfl) isBehind
  refine .cons ?_ (.cons ?_ (.cons ?_ (.cons ?_ .nil)))
  · exact says_command "Listen to" "heart" _ String.toList_ofList String.toList_ofList (by decide)
      (by decide) (split String.toList_ofList String.toList_ofList) rfl rfl (by decide)
      (by decide) rfl
  · exact says_command "Open" "mind" _ String.toList_ofList String.toList_ofList (by decide)
      (by decide) (split String.toList_ofList String.toList_ofList) rfl rfl (by decide)
      (by decide) rfl
  · exact says_command "Speak" "mind" _ String.toList_ofList String.toList_ofList (by decide)
      (by decide) (split String.toList_ofList String.toList_ofList) rfl rfl (by decide)
      (by decide) rfl
  · exact says_command "Open" "heart" _ String.toList_ofList String.toList_ofList (by decide)
      (by decide) (split String.toList_ofList String.toList_ofList) rfl rfl (by decide)
      (by decide) rfl

/-! ### Operations -/

/-- A text with bars in it and without places for classes. -/
theorem says_of_alternatives {texts : List (List Char)} {patterns : List (Pattern Empty)}
    (isText : template.toList = ['|'].intercalate texts) (isPlain : '<' ∉ ['|'].intercalate texts)
    (noSlot : rule.pattern.slots = []) (isChoice : rule.pattern.fillAll .nothing = .choice patterns)
    (reads : ReadsEach caseless texts patterns) : Says template caseless rule := by
  rw [← isText] at isPlain
  refine .plain isPlain noSlot ?_
  have isRead := readPattern_of_alternatives reads
  rwa [← isText, String.ofList_toList, ← isChoice] at isRead

theorem says_operations :
    List.Forall₂ (fun template rule => Says template.1 template.2 rule) operations
      Rule.operations := by
  have phrase (words : String) {letters : List Char} (isWords : words.toList = letters)
      (noSign : signless letters) :
      Reads true (letters.flatMap spelled) (.phrase true words) :=
    reads_phrase words isWords noSign
  have product := phrase "the product of" String.toList_ofList (by decide)
  have sum := phrase "the sum of" String.toList_ofList (by decide)
  have remainder :=
    phrase "the remainder of the quotient between" String.toList_ofList (by decide)
  have quotient := phrase "the quotient between" String.toList_ofList (by decide)
  have difference := phrase "the difference between" String.toList_ofList (by decide)
  have square := phrase "the square of" String.toList_ofList (by decide)
  have cube := phrase "the cube of" String.toList_ofList (by decide)
  have twice := (phrase "twice" String.toList_ofList (by decide)).append reads_edge
  have root := phrase "the square root of" String.toList_ofList (by decide)
  have binary := ReadsEach.cons product <| .cons sum <| .cons remainder <|
    .cons quotient <| .cons difference .nil
  have unary := ReadsEach.cons square <| .cons cube <| .cons twice <| .cons root .nil
  refine .cons ?_ (.cons ?_ .nil)
  · exact says_of_alternatives (toList_join String.toList_ofList String.toList_ofList) (by decide)
      rfl (by simp [Rule.plain]) binary
  · exact says_of_alternatives String.toList_ofList (by decide) rfl (by simp [Rule.plain]) unary

/-! ### Jumps -/

theorem reads_jump (filling : Pattern Empty) :
    Reads true jump.toList (Rule.jumpPhrase.fillAll filling) := by
  have phrase (words : String) {letters : List Char} (isWords : words.toList = letters)
      (noSign : signless letters) :
      Reads true (letters.flatMap spelled) (.phrase true words) :=
    reads_phrase words isWords noSign
  have opening := reads_unkept (.cons (phrase "let us" String.toList_ofList (by decide)) <|
    .cons (phrase "we must" String.toList_ofList (by decide)) <|
    .cons (phrase "we shall" String.toList_ofList (by decide)) .nil)
  have verb := reads_unkept (.cons (phrase "proceed" String.toList_ofList (by decide)) <|
    .cons (phrase "return" String.toList_ofList (by decide)) .nil)
  have target := phrase "to scene" String.toList_ofList (by decide)
  have reads := (((((((opening.append reads_someBlanks).append verb).append
    reads_someBlanks).append target).append reads_someBlanks).append
    (@reads_numeralGroup true)).append reads_blanks).append reads_mark
  refine .of_toList
    (toList_join (toList_join String.toList_ofList rfl) String.toList_ofList) ?_
  simpa [Rule.jumpPhrase, spelled] using reads

theorem not_mem_jump : '<' ∉ jump.toList := by
  have isText : jump.toList = _ :=
    toList_join (toList_join String.toList_ofList rfl) String.toList_ofList
  rw [isText]
  simp [not_mem_numeral]

/-- A jump under a condition. -/
theorem says_conditional (condition : String) (build : Found → Option TokenKind)
    {letters : List Char} (isCondition : condition.toList = letters)
    (noSign : signless letters) (isText : template.toList = text ++ jump.toList)
    (isWritten : text = letters.flatMap spelled ++ ['\\', 's', '*']) (isPlain : '<' ∉ text)
    (noSlot : (Rule.conditionalPhrase condition).slots = []) :
    Says template true (Rule.plain (Rule.conditionalPhrase condition) build) := by
  have reads := ((@reads_phrase true condition _ isCondition noSign).append reads_blanks).append
    (reads_jump .nothing)
  refine says_of_reads isText (by simp [isPlain, not_mem_jump]) noSlot ?_
  simpa [isWritten, Rule.plain, Rule.conditionalPhrase] using reads

theorem says_jumps :
    List.Forall₂ (fun template rule => Says template.1 template.2 rule) jumps Rule.jumps := by
  have conjunction :=
    (@reads_literal false "and" _ String.toList_ofList (by decide)).append reads_edge
  refine .cons ?_ (.cons ?_ (.cons ?_ (.cons ?_ .nil)))
  · exact says_conditional "If so," _ String.toList_ofList (by decide)
      (toList_join String.toList_ofList rfl) rfl (by decide) rfl
  · exact says_conditional "If not," _ String.toList_ofList (by decide)
      (toList_join String.toList_ofList rfl) rfl (by decide) rfl
  · refine says_of_reads String.toList_ofList (by decide) rfl ?_
    simpa [Rule.plain] using conjunction
  · exact says_of_reads rfl not_mem_jump rfl (reads_jump .nothing)

/-! ### Comparisons -/

/-- A comparison around a free word. -/
theorem says_comparisonAround (opening closing : String) (build : Found → Option TokenKind)
    {openingLetters closingLetters : List Char} (isOpening : opening.toList = openingLetters)
    (isClosing : closing.toList = closingLetters)
    (noOpeningSign : signless openingLetters) (noClosingSign : signless closingLetters)
    (isText : template.toList = text) (isPlain : '<' ∉ text)
    (isWritten : text = openingLetters.flatMap spelled ++ ['\\', 's', '+'] ++
      ['[', '\\', 'w', '\x27', '/', '-', ']', '+'] ++ ['\\', 's', '+'] ++
      closingLetters.flatMap spelled ++ ['\\', 'b'])
    (noSlot : (Rule.comparisonAround opening closing).slots = []) :
    Says template true (Rule.plain (Rule.comparisonAround opening closing) build) := by
  have reads := (((((@reads_phrase true opening _ isOpening noOpeningSign).append
    reads_someBlanks).append reads_freeWord).append reads_someBlanks).append
    (reads_phrase closing isClosing noClosingSign)).append reads_edge
  refine says_of_reads isText isPlain noSlot ?_
  simpa [isWritten, Rule.plain, Rule.comparisonAround] using reads

/-- A comparison with a listed comparative. -/
theorem says_comparisonWith (category : Category) (build : Found → Option TokenKind)
    (isText : template.toList =
      category.placeholder.toList ++ ['\\', 's', '+', 't', 'h', 'a', 'n', '\\', 'b']) :
    Says template true (Rule.around (Rule.comparisonWith category) build) := by
  refine @Says.slotted _ _ _ [] ['\\', 's', '+', 't', 'h', 'a', 'n', '\\', 'b'] category
    ?_ List.not_mem_nil (by decide) rfl ?_
  · rw [List.nil_append]
    exact isText
  · intro list
    have than := @reads_phrase true "than" _ String.toList_ofList (by decide)
    have reads := (((reads_expression list).append reads_someBlanks).append than).append reads_edge
    simpa [spelled, Rule.around, Rule.comparisonWith] using reads

theorem says_comparisons :
    List.Forall₂ (fun template rule => Says template.1 template.2 rule) comparisons
      Rule.comparisons := by
  have around {first second : String} {before behind : List Char} (isBefore : first.toList = before)
      (isBehind : second.toList = behind) :
      (first ++ word ++ second).toList =
        before ++ ['[', '\\', 'w', '\x27', '/', '-', ']', '+'] ++ behind :=
    toList_join (toList_join isBefore String.toList_ofList) isBehind
  refine .cons ?_ (.cons ?_ (.cons ?_ (.cons ?_ (.cons ?_ .nil))))
  · exact says_comparisonAround "as" "as" _ String.toList_ofList String.toList_ofList (by decide)
      (by decide) (around String.toList_ofList String.toList_ofList) (by decide) rfl rfl
  · exact says_comparisonWith .positiveComparative _ (toList_join rfl String.toList_ofList)
  · exact says_comparisonAround "more" "than" _ String.toList_ofList String.toList_ofList
      (by decide) (by decide) (around String.toList_ofList String.toList_ofList) (by decide) rfl rfl
  · exact says_comparisonWith .negativeComparative _ (toList_join rfl String.toList_ofList)
  · exact says_comparisonAround "less" "than" _ String.toList_ofList String.toList_ofList
      (by decide) (by decide) (around String.toList_ofList String.toList_ofList) (by decide) rfl rfl

/-! ### What remains -/

theorem says_memories :
    List.Forall₂ (fun template rule => Says template.1 template.2 rule) memories
      Rule.memories := by
  have remembered := (@reads_phrase true "Remember" _ String.toList_ofList (by decide)).append
    reads_edge
  have recalled := (((@reads_phrase true "Recall" _ String.toList_ofList (by decide)).append
    reads_edge).append readsPlace_noEndMark.star).append reads_mark
  refine .cons ?_ (.cons ?_ .nil)
  · refine says_of_reads String.toList_ofList (by decide) rfl ?_
    simpa [spelled, Rule.plain] using remembered
  · refine says_of_reads String.toList_ofList (by decide) rfl ?_
    simpa [spelled, Rule.plain] using recalled

theorem says_classes :
    List.Forall₂ (fun template rule => Says template.1 template.2 rule) classes Rule.classes := by
  refine .cons (says_class _ _) <| .cons (says_class _ _) <| .cons (says_class _ _) <|
    .cons (says_class _ _) <| .cons (says_class _ _) <| .cons (says_class _ _) <|
    .cons (says_class _ _) <| .cons (says_class _ _) <| .cons (says_class _ _) <|
    .cons (says_class _ _) .nil

theorem says_remainders :
    List.Forall₂ (fun template rule => Says template.1 template.2 rule) remainders
      Rule.remainders := by
  refine .cons ?_ (.cons ?_ .nil)
  · exact says_of_reads String.toList_ofList (by decide) rfl reads_freeWord
  · exact says_of_reads String.toList_ofList (by decide) rfl reads_mark

/-- Every template of the table says what the rule in its place says. -/
theorem says_table :
    List.Forall₂ (fun template rule => Says template.1 template.2 rule) table Rule.table :=
  List.rel_append (List.rel_append (List.rel_append (List.rel_append (List.rel_append
    (List.rel_append (List.rel_append says_structural says_commands) says_operations) says_jumps)
    says_comparisons) says_memories) says_classes) says_remainders

end Template

end Playhouse

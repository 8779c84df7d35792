/-
Module: Playhouse.Proofs.Transcripts
Purpose: Nodes are told apart by their transcripts, and plays by what is printed of them.
Main exports: NodeKind, Expr.IsPlain, Question.IsPlain, Action.IsPlain, Expr.Written,
  Expr.unlined_eq_of_transcript, Action.Written, Action.unlined_eq_of_transcript,
  unlined_eq_of_printStatements
-/
import Mathlib.Data.List.Nodup
import Playhouse.CommandLine.Session
import Playhouse.Proofs.Brackets
import Playhouse.Proofs.Decimal

namespace Playhouse

open Text

/-!
Every node is written as a label with parts in brackets.  The label tells the kind of the node, and
the parts, which may hold the transcripts of other nodes, are told apart as long as no name and no
tag holds a comma or a bracket.
-/

/-! ### Kinds of nodes -/

/-- The kinds of nodes that transcripts distinguish. -/
inductive NodeKind where
  | scene
  | declaration
  | scanNumber
  | scanCharacter
  | printCharacter
  | printNumber
  | push
  | pop
  | assignment
  | jump
  | conditionalJump
  | comparison
  | character
  | number
  | unary
  | binary
deriving DecidableEq

namespace NodeKind

/-- The label of a node in a transcript. -/
def label : NodeKind → String
  | scene => "Tag"
  | declaration => "Character"
  | scanNumber => "ScanNumber"
  | scanCharacter => "ScanCharacter"
  | printCharacter => "PrintCharacter"
  | printNumber => "PrintNumber"
  | push => "PushStack"
  | pop => "PopStack"
  | assignment => "Assign"
  | jump => "Jump"
  | conditionalJump => "ConditionalJump"
  | comparison => "Compare"
  | character => "Variable"
  | number => "Value"
  | unary => "UnaryOperation"
  | binary => "BinaryOperation"

def all : List NodeKind :=
  [scene, declaration, scanNumber, scanCharacter, printCharacter, printNumber, push, pop,
    assignment, jump, conditionalJump, comparison, character, number, unary, binary]

/-- Different kinds have different labels. -/
theorem label_inj {kind other : NodeKind} (same : kind.label = other.label) : kind = other := by
  have distinct : (all.map label).Nodup := by decide
  have isKind (kind : NodeKind) : kind ∈ all := by cases kind <;> decide
  exact List.inj_on_of_nodup_map distinct (isKind kind) (isKind other) same

theorem isPlain_label (kind : NodeKind) : IsPlain kind.label.toList := by
  cases kind <;> decide

/-- Whether a node is an expression. -/
def isExpression : NodeKind → Bool
  | character | number | unary | binary => true
  | _ => false

end NodeKind

/-- A text that is the transcript of a node of a kind, with its parts. -/
structure NodeKind.Calls (kind : NodeKind) (parts : List (List Char)) (text : List Char) :
    Prop where
  text_eq : text = called kind.label parts
  areParts : ∀ part ∈ parts, IsPart part
  somePart : parts ≠ []

namespace NodeKind.Calls

variable {kind other : NodeKind} {parts others : List (List Char)} {text second : List Char}

theorem isPart (calls : kind.Calls parts text) : IsPart text :=
  calls.text_eq ▸ isPart_called kind.isPlain_label calls.areParts

/-- Whatever stands behind it, the transcript of a node is told from the text. -/
theorem inj (calls : kind.Calls parts text) (callsOther : other.Calls others second)
    {rest behind : List Char} (same : text ++ rest = second ++ behind) :
    kind = other ∧ parts = others ∧ rest = behind := by
  rw [calls.text_eq, callsOther.text_eq] at same
  obtain ⟨sameLabel, sameParts, sameRest⟩ := called_inj kind.isPlain_label other.isPlain_label
    calls.areParts callsOther.areParts calls.somePart callsOther.somePart same
  exact ⟨label_inj sameLabel, sameParts, sameRest⟩

theorem unique (calls : kind.Calls parts text) (callsOther : other.Calls others text) :
    kind = other ∧ parts = others := by
  have same : text ++ [] = text ++ [] := rfl
  obtain ⟨sameKind, sameParts, -⟩ := calls.inj callsOther same
  exact ⟨sameKind, sameParts⟩

end NodeKind.Calls

/-! ### Nodes with plain names -/

/-- An expression whose names are plain, and are names.  What stands in the place of an expression
without being one is known by its transcript, in which names are plain too. -/
def Expr.IsPlain : Expr → Prop
  | character name _ => ∃ known : String, name = some known ∧ Text.IsPlain known.toList
  | number _ _ => True
  | unary _ operand _ => operand.IsPlain
  | binary _ lhs rhs _ => lhs.IsPlain ∧ rhs.IsPlain
  | foreign thing _ => thing.identity = thing.transcript ∧
      ∃ kind parts, NodeKind.isExpression kind = false ∧ kind.Calls parts thing.transcript.toList

def Question.IsPlain (question : Question) : Prop :=
  question.lhs.IsPlain ∧ question.rhs.IsPlain

/-- Whether an expression is one, and no other node in its place. -/
def Expr.isGenuine : Expr → Bool
  | foreign _ _ => false
  | _ => true

/-- A node whose names and tags are plain, and whose names are names. -/
def Action.IsPlain : Action → Prop
  | scene tag | jump tag => Text.IsPlain tag.toList
  | declare name | scanNumber name | scanCharacter name | printCharacter name | printNumber name
  | pop name => Text.IsPlain name.toList
  | push name value => Text.IsPlain name.toList ∧ value.IsPlain
  | assign target _ value =>
      (∃ known : String, target = some known ∧ Text.IsPlain known.toList) ∧ value.IsPlain
  | jumpIf question tag _ => question.IsPlain ∧ Text.IsPlain tag.toList
  | ask question => question.IsPlain
  | remark value => value.IsPlain ∧ value.isGenuine

/-! ### Symbols and sides -/

theorem UnaryOperation.symbol_inj {operation other : UnaryOperation}
    (same : operation.symbol.toList = other.symbol.toList) : operation = other := by
  revert same
  cases operation <;> cases other <;> decide

theorem BinaryOperation.symbol_inj {operation other : BinaryOperation}
    (same : operation.symbol.toList = other.symbol.toList) : operation = other := by
  revert same
  cases operation <;> cases other <;> decide

theorem Predicate.symbol_inj {predicate other : Predicate}
    (same : predicate.symbol.toList = other.symbol.toList) : predicate = other := by
  revert same
  cases predicate <;> cases other <;> decide

/-- A part with a key in front. -/
def keyed (key : String) (text : List Char) : List Char :=
  key.toList ++ text

theorem keyed_inj {key : String} {text other : List Char}
    (same : keyed key text = keyed key other) : text = other :=
  List.append_cancel_left same

theorem isPart_keyed {key : String} (plain : Text.IsPlain key.toList) {text : List Char}
    (isPart : IsPart text) : IsPart (keyed key text) :=
  plain.isPart.append isPart

/-- The parts of an operation or a comparison of two sides. -/
def sides (symbol : String) (left right : List Char) : List (List Char) :=
  [keyed "" symbol.toList, keyed " lhs: " left, keyed " rhs: " right]

theorem sides_inj {symbol other : String} {left right leftOther rightOther : List Char}
    (same : sides symbol left right = sides other leftOther rightOther) :
    symbol.toList = other.toList ∧ left = leftOther ∧ right = rightOther := by
  simp only [sides, List.cons.injEq, and_true] at same
  exact ⟨keyed_inj same.1, keyed_inj same.2.1, keyed_inj same.2.2⟩

namespace NodeKind

variable (kind : NodeKind) {opening separator : String} {first second third : List Char}

/-- A node with one part. -/
theorem calls_one (key : String)
    (isOpening : opening.toList = kind.label.toList ++ '(' :: key.toList)
    (plainKey : Text.IsPlain key.toList) (firstIsPart : IsPart first) :
    kind.Calls [keyed key first] (opening.toList ++ first ++ [')']) where
  text_eq := by simp [called, listed, keyed, isOpening]
  areParts := List.forall_mem_singleton.mpr (isPart_keyed plainKey firstIsPart)
  somePart := List.cons_ne_nil _ _

/-- A node with two parts. -/
theorem calls_two (key nextKey : String)
    (isOpening : opening.toList = kind.label.toList ++ '(' :: key.toList)
    (isSeparator : separator.toList = ',' :: nextKey.toList)
    (plainKeys : Text.IsPlain key.toList ∧ Text.IsPlain nextKey.toList)
    (firstIsPart : IsPart first) (secondIsPart : IsPart second) :
    kind.Calls [keyed key first, keyed nextKey second]
      (opening.toList ++ first ++ separator.toList ++ second ++ [')']) where
  text_eq := by simp [called, listed, keyed, isOpening, isSeparator]
  areParts := List.forall_mem_cons.mpr ⟨isPart_keyed plainKeys.1 firstIsPart,
    List.forall_mem_singleton.mpr (isPart_keyed plainKeys.2 secondIsPart)⟩
  somePart := List.cons_ne_nil _ _

/-- A node with two sides. -/
theorem calls_sides {symbol : String} (isOpening : opening.toList = kind.label.toList ++ ['('])
    (plainSymbol : Text.IsPlain symbol.toList) (secondIsPart : IsPart second)
    (thirdIsPart : IsPart third) :
    kind.Calls (sides symbol second third)
      (opening.toList ++ symbol.toList ++ ", lhs: ".toList ++ second ++ ", rhs: ".toList ++ third ++
        [')']) where
  text_eq := by simp [called, listed, sides, keyed, isOpening]
  areParts := List.forall_mem_cons.mpr ⟨isPart_keyed (by decide) plainSymbol.isPart,
    List.forall_mem_cons.mpr ⟨isPart_keyed (by decide) secondIsPart,
      List.forall_mem_singleton.mpr (isPart_keyed (by decide) thirdIsPart)⟩⟩
  somePart := List.cons_ne_nil _ _

end NodeKind

/-! ### Expressions -/

theorem eq_numeral_of_writeInteger {value : Int} {digits : List Char}
    (wrote : writeInteger value = .ok digits) : digits = numeral value := by
  unfold writeInteger at wrote
  split at wrote
  · exact (Except.ok.inj wrote).symm
  · cases wrote

/-- Numerals consist of digits, and perhaps a sign. -/
theorem isPlain_numeral (value : Int) : Text.IsPlain (numeral value) := by
  have digit {c : Char} (isDigit : c.isDigit) : isDivider c = false := by
    by_contra divides
    simp only [isDivider, Bool.not_eq_false, Bool.or_eq_true, beq_iff_eq] at divides
    rcases divides with (rfl | rfl) | rfl <;> cases isDigit
  intro c member
  unfold numeral at member
  split at member
  · rcases List.mem_cons.mp member with rfl | isDigit
    · decide
    · exact digit (isDigit_of_mem_naturalNumeral isDigit)
  · exact digit (isDigit_of_mem_naturalNumeral member)

/-- The kind and the parts of the transcript of an expression. -/
inductive Expr.Written : Expr → NodeKind → List (List Char) → Prop where
  | character {name : String} {line : Nat} {parts : List (List Char)}
      (isParts : parts = [keyed "name: " name.toList]) :
      Written (.character (some name) line) .character parts
  | number {value : Int} {line : Nat} {parts : List (List Char)}
      (isParts : parts = [keyed "" (numeral value)]) : Written (.number value line) .number parts
  | unary {operation : UnaryOperation} {operand : Expr} {line : Nat} {inner : List Char}
      {parts : List (List Char)} (wrote : operand.transcript = .ok inner)
      (isParts : parts = [keyed "" operation.symbol.toList, keyed " expr: " inner]) :
      Written (.unary operation operand line) .unary parts
  | binary {operation : BinaryOperation} {lhs rhs : Expr} {line : Nat} {left right : List Char}
      {parts : List (List Char)} (wroteLeft : lhs.transcript = .ok left)
      (wroteRight : rhs.transcript = .ok right)
      (isParts : parts = sides operation.symbol left right) :
      Written (.binary operation lhs rhs line) .binary parts
  | foreign {thing : Foreign} {line : Nat} {kind : NodeKind} {parts : List (List Char)}
      (isOther : kind.isExpression = false) : Written (.foreign thing line) kind parts

/-- A transcript for which another one is needed first. -/
theorem exists_of_bind {first : Except DigitLimit (List Char)}
    {next : List Char → Except DigitLimit (List Char)} {text : List Char}
    (wrote : (first >>= next) = .ok text) : ∃ inner, first = .ok inner ∧ next inner = .ok text := by
  cases first with
  | error limit => cases wrote
  | ok inner => exact ⟨inner, rfl, wrote⟩

/-- Plain expressions are written as a label with parts. -/
theorem Expr.written_of_transcript {expression : Expr} (plain : expression.IsPlain)
    {text : List Char} (wrote : expression.transcript = .ok text) :
    ∃ kind parts, expression.Written kind parts ∧ kind.Calls parts text := by
  induction expression generalizing text with
  | character name line =>
      obtain ⟨known, rfl, plainName⟩ := plain
      obtain rfl := Except.ok.inj wrote
      exact ⟨_, _, .character rfl,
        NodeKind.character.calls_one "name: " (by decide) (by decide) plainName.isPart⟩
  | number value line =>
      simp only [Expr.transcript] at wrote
      obtain ⟨digits, isDigits, wrote⟩ := exists_of_bind wrote
      obtain rfl := eq_numeral_of_writeInteger isDigits
      obtain rfl := Except.ok.inj wrote
      exact ⟨_, _, .number rfl,
        NodeKind.number.calls_one "" (by decide) (by decide) (isPlain_numeral value).isPart⟩
  | unary operation operand line inductionHypothesis =>
      simp only [Expr.transcript] at wrote
      obtain ⟨inner, wroteInner, wrote⟩ := exists_of_bind wrote
      obtain rfl := Except.ok.inj wrote
      obtain ⟨_, _, -, calls⟩ := inductionHypothesis plain wroteInner
      have plainSymbol : Text.IsPlain operation.symbol.toList := by cases operation <;> decide
      exact ⟨_, _, .unary wroteInner rfl,
        NodeKind.unary.calls_two "" " expr: " (by decide) (by decide) (by decide)
          plainSymbol.isPart calls.isPart⟩
  | binary operation lhs rhs line leftHypothesis rightHypothesis =>
      simp only [Expr.transcript] at wrote
      obtain ⟨left, wroteLeft, wrote⟩ := exists_of_bind wrote
      obtain ⟨right, wroteRight, wrote⟩ := exists_of_bind wrote
      obtain rfl := Except.ok.inj wrote
      obtain ⟨_, _, -, leftCalls⟩ := leftHypothesis plain.1 wroteLeft
      obtain ⟨_, _, -, rightCalls⟩ := rightHypothesis plain.2 wroteRight
      have plainSymbol : Text.IsPlain operation.symbol.toList := by cases operation <;> decide
      exact ⟨_, _, .binary wroteLeft wroteRight rfl,
        NodeKind.binary.calls_sides (by decide) plainSymbol leftCalls.isPart rightCalls.isPart⟩
  | foreign thing line =>
      obtain ⟨-, kind, parts, isOther, calls⟩ := plain
      obtain rfl := Except.ok.inj wrote
      exact ⟨kind, parts, .foreign isOther, calls⟩

/-- Plain expressions with the same transcript are of one kind and have the same parts. -/
theorem Expr.exists_written_of_transcript {expression other : Expr} (plain : expression.IsPlain)
    (alsoPlain : other.IsPlain) {text : List Char} (wrote : expression.transcript = .ok text)
    (alsoWrote : other.transcript = .ok text) :
    ∃ kind parts, expression.Written kind parts ∧ other.Written kind parts := by
  obtain ⟨kind, parts, written, calls⟩ := written_of_transcript plain wrote
  obtain ⟨_, _, writtenOther, callsOther⟩ := written_of_transcript alsoPlain alsoWrote
  obtain ⟨rfl, rfl⟩ := calls.unique callsOther
  exact ⟨kind, parts, written, writtenOther⟩

/-- Plain expressions with the same transcript differ in their lines only. -/
theorem Expr.unlined_eq_of_transcript {expression other : Expr} (plain : expression.IsPlain)
    (alsoPlain : other.IsPlain) {text : List Char} (wrote : expression.transcript = .ok text)
    (alsoWrote : other.transcript = .ok text) : expression.unlined = other.unlined := by
  induction expression generalizing other text with
  | character name line =>
      obtain ⟨_, _, written, writtenOther⟩ :=
        exists_written_of_transcript plain alsoPlain wrote alsoWrote
      cases written with
      | character isParts =>
      cases writtenOther with
      | foreign isOther => cases isOther
      | character isPartsOther =>
          have sameName := keyed_inj (List.singleton_inj.mp (isParts.symm.trans isPartsOther))
          rw [String.toList_inj.mp sameName]
          rfl
  | number value line =>
      obtain ⟨_, _, written, writtenOther⟩ :=
        exists_written_of_transcript plain alsoPlain wrote alsoWrote
      cases written with
      | number isParts =>
      cases writtenOther with
      | foreign isOther => cases isOther
      | number isPartsOther =>
          have sameNumeral := keyed_inj (List.singleton_inj.mp (isParts.symm.trans isPartsOther))
          rw [numeral_inj sameNumeral]
          rfl
  | unary operation operand line inductionHypothesis =>
      obtain ⟨_, _, written, writtenOther⟩ :=
        exists_written_of_transcript plain alsoPlain wrote alsoWrote
      cases written with
      | unary wroteInner isParts =>
      cases writtenOther with
      | foreign isOther => cases isOther
      | unary wroteOther isPartsOther =>
          obtain ⟨sameSymbol, sameInner⟩ := List.cons.inj (isParts.symm.trans isPartsOther)
          obtain rfl := keyed_inj (List.singleton_inj.mp sameInner)
          obtain rfl := UnaryOperation.symbol_inj (keyed_inj sameSymbol)
          have same := fun plainOther =>
            inductionHypothesis plain plainOther wroteInner wroteOther
          simp only [unlined, same alsoPlain]
  | binary operation lhs rhs line leftHypothesis rightHypothesis =>
      obtain ⟨_, _, written, writtenOther⟩ :=
        exists_written_of_transcript plain alsoPlain wrote alsoWrote
      cases written with
      | binary wroteLeft wroteRight isParts =>
      cases writtenOther with
      | foreign isOther => cases isOther
      | binary wroteLeftOther wroteRightOther isPartsOther =>
          obtain ⟨sameSymbol, rfl, rfl⟩ := sides_inj (isParts.symm.trans isPartsOther)
          obtain rfl := BinaryOperation.symbol_inj sameSymbol
          simp only [unlined, leftHypothesis plain.1 alsoPlain.1 wroteLeft wroteLeftOther,
            rightHypothesis plain.2 alsoPlain.2 wroteRight wroteRightOther]
  | foreign thing line =>
      obtain ⟨_, _, written, writtenOther⟩ :=
        exists_written_of_transcript plain alsoPlain wrote alsoWrote
      cases written with
      | foreign isOther =>
      cases writtenOther with
      | character | number | unary | binary => cases isOther
      | foreign =>
          have sameText := Except.ok.inj (wrote.trans alsoWrote.symm)
          simp only [unlined, Foreign.unlined, plain.1, alsoPlain.1, String.toList_inj.mp sameText]

/-! ### Questions -/

/-- Plain questions are written as a label with a symbol and two sides. -/
theorem Question.calls_of_transcript {question : Question} (plain : question.IsPlain)
    {text : List Char} (wrote : question.transcript = .ok text) :
    ∃ left right, question.lhs.transcript = .ok left ∧ question.rhs.transcript = .ok right ∧
      NodeKind.comparison.Calls (sides question.predicate.symbol left right) text := by
  unfold Question.transcript at wrote
  obtain ⟨left, wroteLeft, wrote⟩ := exists_of_bind wrote
  obtain ⟨right, wroteRight, wrote⟩ := exists_of_bind wrote
  obtain rfl := Except.ok.inj wrote
  obtain ⟨_, _, -, leftCalls⟩ := Expr.written_of_transcript plain.1 wroteLeft
  obtain ⟨_, _, -, rightCalls⟩ := Expr.written_of_transcript plain.2 wroteRight
  have plainSymbol : Text.IsPlain question.predicate.symbol.toList := by
    cases question.predicate <;> decide
  exact ⟨left, right, wroteLeft, wroteRight,
    NodeKind.comparison.calls_sides (by decide) plainSymbol leftCalls.isPart rightCalls.isPart⟩

/-- Plain questions with the same transcript differ in their lines only. -/
theorem Question.unlined_eq_of_transcript {question other : Question} (plain : question.IsPlain)
    (alsoPlain : other.IsPlain) {text : List Char} (wrote : question.transcript = .ok text)
    (alsoWrote : other.transcript = .ok text) : question.unlined = other.unlined := by
  obtain ⟨left, right, wroteLeft, wroteRight, calls⟩ := calls_of_transcript plain wrote
  obtain ⟨_, _, wroteLeftOther, wroteRightOther, callsOther⟩ :=
    calls_of_transcript alsoPlain alsoWrote
  obtain ⟨-, sameSides⟩ := calls.unique callsOther
  obtain ⟨sameSymbol, rfl, rfl⟩ := sides_inj sameSides
  rw [unlined, unlined, Predicate.symbol_inj sameSymbol,
    Expr.unlined_eq_of_transcript plain.1 alsoPlain.1 wroteLeft wroteLeftOther,
    Expr.unlined_eq_of_transcript plain.2 alsoPlain.2 wroteRight wroteRightOther]

/-! ### Actions -/

/-- The kind of an action, and the parts of its transcript.  Those of a mere question or a mere
expression are told by what is known of questions and expressions. -/
inductive Action.Written : Action → NodeKind → List (List Char) → Prop where
  | scene {tag : String} {parts : List (List Char)} (isParts : parts = [keyed "" tag.toList]) :
      Written (.scene tag) .scene parts
  | declare {name : String} {parts : List (List Char)}
      (isParts : parts = [keyed "name: " name.toList]) : Written (.declare name) .declaration parts
  | scanNumber {name : String} {parts : List (List Char)}
      (isParts : parts = [keyed "" name.toList]) : Written (.scanNumber name) .scanNumber parts
  | scanCharacter {name : String} {parts : List (List Char)}
      (isParts : parts = [keyed "" name.toList]) :
      Written (.scanCharacter name) .scanCharacter parts
  | printCharacter {name : String} {parts : List (List Char)}
      (isParts : parts = [keyed "" name.toList]) :
      Written (.printCharacter name) .printCharacter parts
  | printNumber {name : String} {parts : List (List Char)}
      (isParts : parts = [keyed "" name.toList]) : Written (.printNumber name) .printNumber parts
  | pop {name : String} {parts : List (List Char)}
      (isParts : parts = [keyed "" name.toList]) : Written (.pop name) .pop parts
  | push {name : String} {value : Expr} {inner : List Char} {parts : List (List Char)}
      (wrote : value.transcript = .ok inner)
      (isParts : parts = [keyed "" name.toList, keyed " expr: " inner]) :
      Written (.push name value) .push parts
  | assign {name : String} {targetLine : Nat} {value : Expr} {inner : List Char}
      {parts : List (List Char)} (wrote : value.transcript = .ok inner)
      (isParts : parts =
        [keyed "variable: " (writtenReference (some name)), keyed " expr: " inner]) :
      Written (.assign (some name) targetLine value) .assignment parts
  | jump {tag : String} {parts : List (List Char)} (isParts : parts = [keyed "" tag.toList]) :
      Written (.jump tag) .jump parts
  | jumpIf {question : Question} {tag : String} {jumpLine : Nat} {test : List Char}
      {parts : List (List Char)} (wrote : question.transcript = .ok test)
      (isParts : parts = [keyed "test: " test, keyed " " (writtenJump tag)]) :
      Written (.jumpIf question tag jumpLine) .conditionalJump parts
  | ask {question : Question} {parts : List (List Char)} :
      Written (.ask question) .comparison parts
  | remark {value : Expr} {kind : NodeKind} {parts : List (List Char)}
      (isExpression : kind.isExpression) : Written (.remark value) kind parts

/-- What is genuinely an expression is written as one. -/
theorem Expr.Written.isExpression {expression : Expr} {kind : NodeKind} {parts : List (List Char)}
    (written : expression.Written kind parts) (isGenuine : expression.isGenuine) :
    kind.isExpression := by
  cases written with
  | foreign => cases isGenuine
  | character | number | unary | binary => rfl

/-- Plain actions are written as a label with parts. -/
theorem Action.written_of_transcript {action : Action} (plain : action.IsPlain)
    {text : List Char} (wrote : action.transcript = .ok text) :
    ∃ kind parts, action.Written kind parts ∧ kind.Calls parts text := by
  -- A deed is written like a scene or a jump, with the name alone.
  have deed (kind : NodeKind) {name : String} (plainName : Text.IsPlain name.toList) :
      kind.Calls [keyed "" name.toList] (writtenDeed kind.label name) := by
    refine ⟨?_, ?_, List.cons_ne_nil _ _⟩
    · simp [writtenDeed, called, listed, keyed]
    · exact List.forall_mem_singleton.mpr plainName.isPart
  cases action with
  | scene tag =>
      obtain rfl := Except.ok.inj wrote
      exact ⟨_, _, .scene rfl,
        NodeKind.scene.calls_one "" (by decide) (by decide) (Text.IsPlain.isPart plain)⟩
  | declare name =>
      obtain rfl := Except.ok.inj wrote
      exact ⟨_, _, .declare rfl,
        NodeKind.declaration.calls_one "name: " (by decide) (by decide) (Text.IsPlain.isPart plain)⟩
  | scanNumber name =>
      obtain rfl := Except.ok.inj wrote
      exact ⟨_, _, .scanNumber rfl, deed .scanNumber plain⟩
  | scanCharacter name =>
      obtain rfl := Except.ok.inj wrote
      exact ⟨_, _, .scanCharacter rfl, deed .scanCharacter plain⟩
  | printCharacter name =>
      obtain rfl := Except.ok.inj wrote
      exact ⟨_, _, .printCharacter rfl, deed .printCharacter plain⟩
  | printNumber name =>
      obtain rfl := Except.ok.inj wrote
      exact ⟨_, _, .printNumber rfl, deed .printNumber plain⟩
  | pop name =>
      obtain rfl := Except.ok.inj wrote
      exact ⟨_, _, .pop rfl, deed .pop plain⟩
  | push name value =>
      simp only [Action.transcript] at wrote
      obtain ⟨inner, wroteInner, wrote⟩ := exists_of_bind wrote
      obtain rfl := Except.ok.inj wrote
      obtain ⟨_, _, -, calls⟩ := Expr.written_of_transcript plain.2 wroteInner
      exact ⟨_, _, .push wroteInner rfl,
        NodeKind.push.calls_two "" " expr: " (by decide) (by decide) (by decide)
          plain.1.isPart calls.isPart⟩
  | assign target targetLine value =>
      obtain ⟨⟨known, rfl, plainName⟩, plainValue⟩ := plain
      simp only [Action.transcript] at wrote
      obtain ⟨inner, wroteInner, wrote⟩ := exists_of_bind wrote
      obtain rfl := Except.ok.inj wrote
      obtain ⟨_, _, -, calls⟩ := Expr.written_of_transcript plainValue wroteInner
      have reference : NodeKind.character.Calls [keyed "name: " known.toList]
          (writtenReference (some known)) :=
        NodeKind.character.calls_one "name: " (by decide) (by decide) plainName.isPart
      exact ⟨_, _, .assign wroteInner rfl,
        NodeKind.assignment.calls_two "variable: " " expr: " (by decide) (by decide) (by decide)
          reference.isPart calls.isPart⟩
  | jump tag =>
      obtain rfl := Except.ok.inj wrote
      exact ⟨_, _, .jump rfl,
        NodeKind.jump.calls_one "" (by decide) (by decide) (Text.IsPlain.isPart plain)⟩
  | jumpIf question tag jumpLine =>
      simp only [Action.transcript] at wrote
      obtain ⟨test, wroteTest, wrote⟩ := exists_of_bind wrote
      obtain rfl := Except.ok.inj wrote
      obtain ⟨_, _, -, -, calls⟩ := Question.calls_of_transcript plain.1 wroteTest
      have target : NodeKind.jump.Calls [keyed "" tag.toList] (writtenJump tag) :=
        NodeKind.jump.calls_one "" (by decide) (by decide) plain.2.isPart
      exact ⟨_, _, .jumpIf wroteTest rfl,
        NodeKind.conditionalJump.calls_two "test: " " " (by decide) (by decide) (by decide)
          calls.isPart target.isPart⟩
  | ask question =>
      obtain ⟨_, _, -, -, calls⟩ := Question.calls_of_transcript plain wrote
      exact ⟨_, _, .ask, calls⟩
  | remark value =>
      obtain ⟨kind, parts, written, calls⟩ := Expr.written_of_transcript plain.1 wrote
      exact ⟨kind, parts, .remark (written.isExpression plain.2), calls⟩

/-- Names in parts with the same key are the same. -/
theorem eq_of_keyed {key name other : String} {parts : List (List Char)}
    (isParts : parts = [keyed key name.toList]) (isPartsOther : parts = [keyed key other.toList]) :
    name = other :=
  String.toList_inj.mp (keyed_inj (List.singleton_inj.mp (isParts.symm.trans isPartsOther)))

/-- So are the texts in two parts. -/
theorem eq_of_keyed_pair {key nextKey : String} {first second firstOther secondOther : List Char}
    {parts : List (List Char)} (isParts : parts = [keyed key first, keyed nextKey second])
    (isPartsOther : parts = [keyed key firstOther, keyed nextKey secondOther]) :
    first = firstOther ∧ second = secondOther := by
  obtain ⟨sameFirst, sameSecond⟩ := List.cons.inj (isParts.symm.trans isPartsOther)
  exact ⟨keyed_inj sameFirst, keyed_inj (List.singleton_inj.mp sameSecond)⟩

theorem writtenReference_inj {name other : String}
    (same : writtenReference (some name) = writtenReference (some other)) : name = other := by
  have sameName := List.append_cancel_right same
  exact String.toList_inj.mp (List.append_cancel_left sameName)

theorem writtenJump_inj {tag other : String} (same : writtenJump tag = writtenJump other) :
    tag = other := by
  have sameTag := List.append_cancel_right same
  exact String.toList_inj.mp (List.append_cancel_left sameTag)

/-- Plain actions of one kind with the same parts and the same transcript differ in their lines
only. -/
theorem Action.unlined_eq_of_written {action other : Action} (plain : action.IsPlain)
    (alsoPlain : other.IsPlain) {text : List Char} (wrote : action.transcript = .ok text)
    (alsoWrote : other.transcript = .ok text) {kind : NodeKind} {parts : List (List Char)}
    (written : action.Written kind parts) (writtenOther : other.Written kind parts) :
    action.unlined = other.unlined := by
  cases written with
  | scene isParts | declare isParts | scanNumber isParts | scanCharacter isParts
  | printCharacter isParts | printNumber isParts | pop isParts | jump isParts =>
      -- Only the same action, with the same name, or a remark can be of this kind.
      cases writtenOther
      case remark isExpression => cases isExpression
      rename_i isPartsOther
      rw [eq_of_keyed isParts isPartsOther]
  | push wroteInner isParts =>
      cases writtenOther with
      | push wroteOther isPartsOther =>
          obtain ⟨sameName, rfl⟩ := eq_of_keyed_pair isParts isPartsOther
          rw [unlined, unlined, String.toList_inj.mp sameName,
            Expr.unlined_eq_of_transcript plain.2 alsoPlain.2 wroteInner wroteOther]
      | remark isExpression => cases isExpression
  | assign wroteInner isParts =>
      cases writtenOther with
      | assign wroteOther isPartsOther =>
          obtain ⟨sameTarget, rfl⟩ := eq_of_keyed_pair isParts isPartsOther
          rw [unlined, unlined, writtenReference_inj sameTarget,
            Expr.unlined_eq_of_transcript plain.2 alsoPlain.2 wroteInner wroteOther]
      | remark isExpression => cases isExpression
  | jumpIf wroteTest isParts =>
      cases writtenOther with
      | jumpIf wroteOther isPartsOther =>
          obtain ⟨rfl, sameJump⟩ := eq_of_keyed_pair isParts isPartsOther
          rw [unlined, unlined, writtenJump_inj sameJump,
            Question.unlined_eq_of_transcript plain.1 alsoPlain.1 wroteTest wroteOther]
      | remark isExpression => cases isExpression
  | @ask question =>
      cases writtenOther with
      | @ask asked =>
          have sameQuestion : question.unlined = asked.unlined :=
            Question.unlined_eq_of_transcript plain alsoPlain wrote alsoWrote
          rw [unlined, unlined, sameQuestion]
      | remark isExpression => cases isExpression
  | @remark value _ _ isExpression =>
      cases writtenOther with
      | @remark remarked =>
          have sameValue : value.unlined = remarked.unlined :=
            Expr.unlined_eq_of_transcript plain.1 alsoPlain.1 wrote alsoWrote
          rw [unlined, unlined, sameValue]
      | scene | declare | scanNumber | scanCharacter | printCharacter | printNumber | pop | push
      | assign | jump | jumpIf | ask => cases isExpression

/-- Whatever is written behind them, plain nodes are told apart by their transcripts, but for their
lines. -/
theorem Action.unlined_eq_of_transcript {action other : Action} (plain : action.IsPlain)
    (alsoPlain : other.IsPlain) {text second : List Char} (wrote : action.transcript = .ok text)
    (alsoWrote : other.transcript = .ok second) {rest behind : List Char}
    (same : text ++ rest = second ++ behind) :
    action.unlined = other.unlined ∧ rest = behind := by
  obtain ⟨kind, parts, written, calls⟩ := written_of_transcript plain wrote
  obtain ⟨_, _, writtenOther, callsOther⟩ := written_of_transcript alsoPlain alsoWrote
  obtain ⟨rfl, rfl, rfl⟩ := calls.inj callsOther same
  obtain rfl := List.append_cancel_right same
  exact ⟨unlined_eq_of_written plain alsoPlain wrote alsoWrote written writtenOther, rfl⟩

/-- A node in the place of an expression is known by its transcript, and that is plain if the node
is and is no expression. -/
theorem Action.isPlain_foreign {action : Action} (plain : action.IsPlain)
    (noExpression : ∀ value, action ≠ .remark value) {text : List Char}
    (wrote : action.transcript = .ok text) (full : String) (line : Nat) :
    (Expr.foreign (.ofTranscript (String.ofList text) full) line).IsPlain := by
  obtain ⟨kind, parts, written, calls⟩ := written_of_transcript plain wrote
  rw [← String.toList_ofList (l := text)] at calls
  refine ⟨rfl, kind, parts, ?_, calls⟩
  cases written with
  | remark => exact absurd rfl (noExpression _)
  | scene | declare | scanNumber | scanCharacter | printCharacter | printNumber | pop | push
  | assign | jump | jumpIf | ask => rfl

/-! ### Plays -/

namespace CommandLine

theorem codePoints_inj {text other : List Char}
    (same : CodePoints.ofList text = CodePoints.ofList other) : text = other :=
  List.map_injective_iff.mpr (fun _ _ => Char.toNat_inj.mp) same

/-- Statements that are printed in full are printed one after the other, each on a line. -/
theorem exists_of_printStatements_cons {statement : Statement} {rest : List Statement}
    {output : CodePoints}
    (printed : printStatements (statement :: rest) = (output, .code 0)) :
    ∃ text behind, statement.action.transcript = .ok text ∧
      printStatements rest = (behind, .code 0) ∧
      output = CodePoints.ofList (text ++ ['\n']) ++ behind := by
  unfold printStatements at printed
  cases wrote : statement.action.transcript with
  | error limit =>
      rw [Statement.transcript, wrote] at printed
      cases printed
  | ok text =>
      rw [Statement.transcript, wrote] at printed
      obtain ⟨isOutput, isCode⟩ := Prod.mk.inj printed
      refine ⟨text, (printStatements rest).1, rfl, Prod.ext rfl isCode, ?_⟩
      rw [← isOutput, CodePoints.ofString, String.toList_append, String.toList_ofList]
      rfl

/-- What is printed of statements are characters. -/
theorem exists_text_of_printStatements {statements : List Statement} {output : CodePoints}
    (printed : printStatements statements = (output, .code 0)) :
    ∃ text, output = CodePoints.ofList text := by
  induction statements generalizing output with
  | nil =>
      cases printed
      exact ⟨[], rfl⟩
  | cons statement rest inductionHypothesis =>
      obtain ⟨text, behind, -, printedRest, rfl⟩ := exists_of_printStatements_cons printed
      obtain ⟨restText, rfl⟩ := inductionHypothesis printedRest
      exact ⟨text ++ ['\n'] ++ restText, List.map_append.symm⟩

/-- Plain statements of which the same is printed differ in their lines only. -/
theorem unlined_eq_of_printStatements {statements others : List Statement}
    (plain : ∀ statement ∈ statements, statement.action.IsPlain)
    (alsoPlain : ∀ statement ∈ others, statement.action.IsPlain) {output : CodePoints}
    (printed : printStatements statements = (output, .code 0))
    (alsoPrinted : printStatements others = (output, .code 0)) :
    statements.map Statement.unlined = others.map Statement.unlined := by
  have someLine {text : List Char} {behind : CodePoints} :
      CodePoints.ofList (text ++ ['\n']) ++ behind ≠ [] := by
    simp [CodePoints.ofList]
  induction statements generalizing others output with
  | nil =>
      cases others with
      | nil => rfl
      | cons other others =>
          cases printed
          obtain ⟨_, _, -, -, isOutput⟩ := exists_of_printStatements_cons alsoPrinted
          exact absurd isOutput.symm someLine
  | cons statement statements inductionHypothesis =>
      obtain ⟨text, behind, wrote, printedRest, rfl⟩ := exists_of_printStatements_cons printed
      cases others with
      | nil => exact absurd (Prod.mk.inj alsoPrinted).1.symm someLine
      | cons other others =>
          obtain ⟨second, behindOther, alsoWrote, alsoPrintedRest, sameOutput⟩ :=
            exists_of_printStatements_cons alsoPrinted
          obtain ⟨plainFirst, plainRest⟩ := List.forall_mem_cons.mp plain
          obtain ⟨plainOther, plainOthers⟩ := List.forall_mem_cons.mp alsoPlain
          obtain ⟨rest, rfl⟩ := exists_text_of_printStatements printedRest
          obtain ⟨restOther, rfl⟩ := exists_text_of_printStatements alsoPrintedRest
          rw [CodePoints.ofList, CodePoints.ofList, CodePoints.ofList, CodePoints.ofList,
            ← List.map_append, ← List.map_append, List.append_assoc, List.append_assoc]
            at sameOutput
          obtain ⟨sameNode, sameBehind⟩ :=
            Action.unlined_eq_of_transcript plainFirst plainOther wrote alsoWrote
              (codePoints_inj sameOutput)
          obtain rfl := List.append_cancel_left sameBehind
          rw [List.map_cons, List.map_cons, Statement.unlined, Statement.unlined, sameNode,
            inductionHypothesis plainRest plainOthers printedRest alsoPrintedRest]

end CommandLine

end Playhouse

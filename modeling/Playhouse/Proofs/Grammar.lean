/-
Module: Playhouse.Proofs.Grammar
Purpose: The grammar of noun phrases as a relation, and the agreement of the
  reader of expressions with it.
Main exports: Derives, splitOperands_derives, derives_rules, Derives.isRead,
  readExpression_iff_derives
-/
import Playhouse.Proofs.Numeral
import Playhouse.Proofs.Phrase

namespace Playhouse

/-!
The reader of expressions looks at the first token only, and finds the end of a
left operand by counting.  The grammar knows nothing of counting: a binary
operation is its token, a phrase, a conjunction and a phrase.  The two agree
because the count passes over a whole phrase without a change, so that it is back
at zero just behind the left operand.
-/

/-! ### The grammar -/

/-- The phrases of the language with the expressions for which they stand, lines
left out of account. -/
inductive Derives (vocabulary : Vocabulary) (company : Company) : List Token → Expr → Prop where
  | listener {lexeme : Lexeme} {line : Nat} {name : String}
      (isSecond : lexeme.isSecondPerson) (listens : company.IsListener name) :
      Derives vocabulary company [⟨.lexeme lexeme, line⟩] (.character (some name) 0)
  | speaker {lexeme : Lexeme} {line : Nat} (isFirst : lexeme.isFirstPerson) :
      Derives vocabulary company [⟨.lexeme lexeme, line⟩] (.character company.speaker 0)
  | character {name : String} {line : Nat} (isDeclared : name ∈ company.declared) :
      Derives vocabulary company [⟨.lexeme (.character name), line⟩]
        (.character (some name) 0)
  | unary {operation : UnaryOperation} {line : Nat} {tokens : List Token} {operand : Expr}
      (inner : Derives vocabulary company tokens operand) :
      Derives vocabulary company (⟨.lexeme (.unary operation), line⟩ :: tokens)
        (.unary operation operand 0)
  | binary {operation : BinaryOperation} {line conjunctionLine : Nat}
      {left right : List Token} {lhs rhs : Expr}
      (leftDerives : Derives vocabulary company left lhs)
      (rightDerives : Derives vocabulary company right rhs) :
      Derives vocabulary company
        (⟨.lexeme (.binary operation), line⟩ ::
          (left ++ ⟨.lexeme .conjunction, conjunctionLine⟩ :: right))
        (.binary operation lhs rhs 0)
  | possessive {lexeme : Lexeme} {line : Nat} {tokens : List Token} {expression : Expr}
      (isPossessive : lexeme.isPossessive)
      (inner : Derives vocabulary company tokens expression) :
      Derives vocabulary company (⟨.lexeme lexeme, line⟩ :: tokens) expression
  | numeral {tokens : List Token} {word : String} {words : List String}
      (spelled : Spells tokens (word :: words)) :
      Derives vocabulary company tokens
        (.number (vocabulary.numeralValue (word :: words)) 0)

/-! ### Finding the conjunction -/

/-- The count passes over a token that is neither an operation nor a conjunction. -/
theorem splitOperands_plain {token : Token} (depth : Nat) (rest : List Token)
    (noConjunction : token.kind ≠ .lexeme .conjunction)
    (noOperation : ∀ operation, token.kind ≠ .lexeme (.binary operation)) :
    splitOperands depth (token :: rest) =
      (splitOperands depth rest).map fun operands => (token :: operands.1, operands.2) := by
  conv => lhs; unfold splitOperands
  split
  · contradiction
  · rename_i operation isOperation
    exact absurd isOperation (noOperation operation)
  · rfl

/-- A binary operation raises the count. -/
theorem splitOperands_operation (depth : Nat) (operation : BinaryOperation) (line : Nat)
    (rest : List Token) :
    splitOperands depth (⟨.lexeme (.binary operation), line⟩ :: rest) =
      (splitOperands (depth + 1) rest).map fun operands =>
        (⟨.lexeme (.binary operation), line⟩ :: operands.1, operands.2) := by
  conv => lhs; unfold splitOperands

/-- A conjunction lowers the count, unless it is the one looked for. -/
theorem splitOperands_conjunction (depth line : Nat) (rest : List Token) :
    splitOperands (depth + 1) (⟨.lexeme .conjunction, line⟩ :: rest) =
      (splitOperands depth rest).map fun operands =>
        (⟨.lexeme .conjunction, line⟩ :: operands.1, operands.2) := by
  conv => lhs; unfold splitOperands

/-- The count passes over a run of words. -/
theorem splitOperands_spelled {tokens : List Token} {words : List String}
    (spelled : Spells tokens words) (depth : Nat) (rest : List Token) :
    splitOperands depth (tokens ++ rest) =
      (splitOperands depth rest).map fun operands => (tokens ++ operands.1, operands.2) := by
  induction tokens generalizing words with
  | nil => simp
  | cons token tail inductionHypothesis =>
      obtain ⟨word, others, rfl, isWord, tailSpelled⟩ := spells_cons_iff.mp spelled
      rw [List.cons_append,
        splitOperands_plain depth _ (by simp [isWord]) (by simp [isWord]),
        inductionHypothesis tailSpelled, Option.map_map]
      rfl

section

variable {vocabulary : Vocabulary} {company : Company}

/-- The count passes over a whole phrase and is then what it was before. -/
theorem splitOperands_phrase {phrase : List Token} {expression : Expr}
    (derives : Derives vocabulary company phrase expression) (depth : Nat)
    (rest : List Token) :
    splitOperands depth (phrase ++ rest) =
      (splitOperands depth rest).map fun operands => (phrase ++ operands.1, operands.2) := by
  induction derives generalizing depth rest with
  | @listener lexeme line name isSecond listens =>
      cases lexeme <;> simp_all [Lexeme.isSecondPerson, splitOperands]
  | @speaker lexeme line isFirst =>
      cases lexeme <;> simp_all [Lexeme.isFirstPerson, splitOperands]
  | character isDeclared => simp [splitOperands]
  | unary inner innerPassed =>
      rw [List.cons_append, splitOperands_plain depth _ (by simp) (by simp), innerPassed,
        Option.map_map]
      rfl
  | binary leftDerives rightDerives leftPassed rightPassed =>
      -- The operation raises the count, and its conjunction lowers it again.
      rw [List.cons_append, List.append_assoc, splitOperands_operation, leftPassed,
        List.cons_append, splitOperands_conjunction, rightPassed, Option.map_map,
        Option.map_map, Option.map_map]
      congr 1
      funext operands
      simp
  | @possessive lexeme line tokens expression isPossessive inner innerPassed =>
      have noConjunction : TokenKind.lexeme lexeme ≠ .lexeme .conjunction := by
        cases lexeme <;> simp_all [Lexeme.isPossessive]
      have noOperation operation : TokenKind.lexeme lexeme ≠ .lexeme (.binary operation) := by
        cases lexeme <;> simp_all [Lexeme.isPossessive]
      rw [List.cons_append, splitOperands_plain depth _ noConjunction noOperation, innerPassed,
        Option.map_map]
      rfl
  | numeral spelled => exact splitOperands_spelled spelled depth rest

/-- The conjunction behind a phrase is the one that is found. -/
theorem splitOperands_derives {left : List Token} {lhs : Expr}
    (leftDerives : Derives vocabulary company left lhs) (line : Nat) (right : List Token) :
    splitOperands 0 (left ++ ⟨.lexeme .conjunction, line⟩ :: right) = some (left, right) := by
  rw [splitOperands_phrase leftDerives]
  simp [splitOperands]

end

/-! ### Agreement -/

/-- The faults of phrases: their shape is wrong, or the stage does not suit them. -/
def IsPhraseFault : ReadFault → Prop
  | .parse fault =>
      fault.cause.kind = "ExpressionViolation" ∨ fault.cause.kind = "StructuralViolation"
  | .lexicon _ => False

section

variable {vocabulary : Vocabulary} {company : Company}

/-- What is read can be derived, and what is refused is refused for its shape or
for the stage. -/
theorem derives_rules (hasNouns : vocabulary.HasNouns) (company : Company) :
    PhraseRules vocabulary company
      (fun tokens expression => Derives vocabulary company tokens expression.unlined)
      IsPhraseFault where
  listener _ isSecond listens := .listener isSecond listens
  speaker _ isFirst := .speaker isFirst
  character _ isDeclared := .character isDeclared
  unary _ _ inner := .unary inner
  binary _ _ _ leftDerives rightDerives := .binary leftDerives rightDerives
  possessive _ isPossessive inner := .possessive isPossessive inner
  numeral word line rest := by
    by_cases isRun : ∃ words, Spells rest words
    · obtain ⟨words, spelled⟩ := isRun
      obtain ⟨lastLine, read⟩ := readNumeral_spelled hasNouns spelled word line 1
      rw [Int.one_mul] at read
      exact Consulting.ensures_of_ok read
        (.numeral (spells_cons_iff.mpr ⟨word, words, rfl, rfl, spelled⟩))
    · obtain ⟨token, refused⟩ :=
        readNumeral_unspelled hasNouns (not_exists.mp isRun) word line 1
      exact Consulting.ensures_of_error refused (Or.inl rfl)
  shapeless _ _ isShape := Or.inl isShape
  undeclared _ _ := Or.inr rfl
  unheard _ _ := Or.inr rfl

/-- What can be derived is read. -/
theorem Derives.isRead (hasNouns : vocabulary.HasNouns) (endLine : Nat) {tokens : List Token}
    {expression : Expr} (derives : Derives vocabulary company tokens expression) :
    ∃ read, (readExpression vocabulary company endLine 1 tokens).outcome = .ok read ∧
      read.unlined = expression := by
  induction derives with
  | @listener lexeme line name isSecond listens =>
      refine ⟨.character (some name) line, ?_, rfl⟩
      have addressed : company.addressee line = .ok name := by
        rw [Company.addressee, listener?_eq_some_iff.mpr listens]
      cases lexeme <;> simp_all [Lexeme.isSecondPerson, readExpression, expectEnd,
        Consulting.outcome_bind, Consulting.mapError_ok]
  | @speaker lexeme line isFirst =>
      refine ⟨.character company.speaker line, ?_, rfl⟩
      cases lexeme <;> simp_all [Lexeme.isFirstPerson, readExpression, expectEnd,
        Consulting.outcome_bind, Consulting.mapError_ok]
  | @character name line isDeclared =>
      refine ⟨.character (some name) line, ?_, rfl⟩
      simp [readExpression, expectEnd, Consulting.outcome_bind, Consulting.mapError_ok, isDeclared]
  | @unary operation line tokens operand inner innerRead =>
      obtain ⟨read, isRead, rfl⟩ := innerRead
      refine ⟨.unary operation read line, ?_, rfl⟩
      rw [readExpression, Consulting.outcome_bind, isRead]
      rfl
  | @binary operation line conjunctionLine left right lhs rhs leftDerives rightDerives
      leftRead rightRead =>
      obtain ⟨readLhs, lhsRead, rfl⟩ := leftRead
      obtain ⟨readRhs, rhsRead, rfl⟩ := rightRead
      refine ⟨.binary operation readLhs readRhs line, ?_, rfl⟩
      have split := splitOperands_derives leftDerives conjunctionLine right
      rw [readExpression]
      split
      · rename_i noSplit
        rw [noSplit] at split
        cases split
      · rename_i operands found
        obtain rfl : operands = (left, right) := Option.some.inj (found.symm.trans split)
        rw [Consulting.outcome_bind, lhsRead]
        dsimp only
        rw [Consulting.outcome_bind, rhsRead]
        rfl
  | @possessive lexeme line tokens expression isPossessive inner innerRead =>
      cases lexeme <;> simp_all [Lexeme.isPossessive, readExpression]
  | @numeral tokens word words spelled =>
      obtain ⟨line, rest, rfl, restSpelled⟩ := spelled.head
      obtain ⟨lastLine, isRead⟩ := readNumeral_spelled hasNouns restSpelled word line 1
      rw [Int.one_mul] at isRead
      rw [readExpression]
      exact ⟨_, isRead, rfl⟩

/-- The reader of expressions accepts exactly the phrases of the grammar and gives
what they stand for; it refuses all others for their shape or for the stage.  The
grammar is unambiguous: tokens stand for one expression at most, and a left
operand ends at one conjunction only. -/
theorem readExpression_iff_derives (hasNouns : vocabulary.HasNouns) (company : Company)
    (endLine : Nat) (tokens : List Token) :
    (∀ expression,
      (∃ read, (readExpression vocabulary company endLine 1 tokens).outcome = .ok read ∧
        read.unlined = expression) ↔ Derives vocabulary company tokens expression) ∧
    ((∀ expression, ¬ Derives vocabulary company tokens expression) →
      ∃ fault, (readExpression vocabulary company endLine 1 tokens).outcome =
          .error (.parse fault) ∧
        (fault.cause.kind = "ExpressionViolation" ∨
          fault.cause.kind = "StructuralViolation")) ∧
    (∀ first second, Derives vocabulary company tokens first →
      Derives vocabulary company tokens second → first = second) ∧
    (∀ left right otherLeft otherRight line otherLine lhs otherLhs,
      tokens = left ++ ⟨.lexeme .conjunction, line⟩ :: right →
      tokens = otherLeft ++ ⟨.lexeme .conjunction, otherLine⟩ :: otherRight →
      Derives vocabulary company left lhs → Derives vocabulary company otherLeft otherLhs →
      left = otherLeft ∧ right = otherRight) := by
  have ensured := (derives_rules hasNouns company).ensures endLine rfl tokens
  refine ⟨fun expression => ⟨?_, fun derives => derives.isRead hasNouns endLine⟩, ?_, ?_, ?_⟩
  · rintro ⟨read, isRead, rfl⟩
    exact ensured.ok isRead
  · intro underivable
    cases outcome : (readExpression vocabulary company endLine 1 tokens).outcome with
    | ok read => exact absurd (ensured.ok outcome) (underivable read.unlined)
    | error fault =>
        have isPhraseFault := ensured.error outcome
        cases fault with
        | lexicon fault => exact isPhraseFault.elim
        | parse fault => exact ⟨fault, rfl, isPhraseFault⟩
  · intro first second firstDerives secondDerives
    obtain ⟨read, isRead, rfl⟩ := firstDerives.isRead hasNouns endLine
    obtain ⟨other, otherRead, rfl⟩ := secondDerives.isRead hasNouns endLine
    rw [isRead] at otherRead
    cases otherRead
    rfl
  · rintro left right otherLeft otherRight line otherLine lhs otherLhs rfl same
      leftDerives otherDerives
    have split := splitOperands_derives leftDerives line right
    rw [same, splitOperands_derives otherDerives] at split
    cases split
    exact ⟨rfl, rfl⟩

end

/-- "The sum of the difference between you and my big goat and twice Juliet", said
by Romeo to Juliet. -/
theorem readExpression_iff_derives_nested :
    Vocabulary.bundled.HasNouns ∧
      ∃ read,
        (readExpression .bundled ⟨["Juliet", "Romeo"], ["Juliet", "Romeo"], some "Romeo"⟩ 1 1
          [⟨.lexeme (.binary .add), 1⟩, ⟨.lexeme (.binary .subtract), 1⟩,
            ⟨.lexeme .secondPerson, 1⟩, ⟨.lexeme .conjunction, 1⟩,
            ⟨.lexeme .firstPersonPossessive, 1⟩, ⟨.lexeme (.other "big"), 1⟩,
            ⟨.lexeme (.other "goat"), 1⟩, ⟨.lexeme .conjunction, 1⟩,
            ⟨.lexeme (.unary .twice), 1⟩, ⟨.lexeme (.character "Juliet"), 1⟩]).outcome = .ok read ∧
        read.unlined =
          .binary .add
            (.binary .subtract (.character (some "Juliet") 0) (.number (-2) 0) 0)
            (.unary .twice (.character (some "Juliet") 0) 0) 0 := by
  have value : Vocabulary.bundled.numeralValue ["big", "goat"] = -2 := by decide +kernel
  have you : Derives .bundled ⟨["Juliet", "Romeo"], ["Juliet", "Romeo"], some "Romeo"⟩
      [⟨.lexeme .secondPerson, 1⟩] (.character (some "Juliet") 0) :=
    .listener rfl ⟨"Romeo", rfl, rfl⟩
  have goat : Derives .bundled ⟨["Juliet", "Romeo"], ["Juliet", "Romeo"], some "Romeo"⟩
      [⟨.lexeme .firstPersonPossessive, 1⟩, ⟨.lexeme (.other "big"), 1⟩,
        ⟨.lexeme (.other "goat"), 1⟩]
      (.number (Vocabulary.bundled.numeralValue ["big", "goat"]) 0) :=
    .possessive rfl (.numeral rfl)
  rw [value] at goat
  refine ⟨Vocabulary.hasNouns_bundled,
    ((readExpression_iff_derives Vocabulary.hasNouns_bundled _ _ _).1 _).mpr ?_⟩
  exact .binary (.binary you goat) (.unary (.character (by decide)))

end Playhouse

/-
Module: Playhouse.Script.Expression
Purpose: Understanding the noun phrases that stand for numbers.
Main exports: Company, Company.listener?, readNumeral, splitOperands, readExpression
-/
import Playhouse.Node
import Playhouse.Script.Consulting

namespace Playhouse

/-! ### The company -/

/-- The characters of a play: those declared, those on stage, and the one who
speaks. -/
structure Company where
  declared : NameSet
  onStage : NameSet
  speaker : Option String
deriving Repr, Inhabited, DecidableEq

namespace Company

/-- The one character on stage beside the speaker, if there is just one. -/
def listener? (company : Company) : Option String :=
  match company.speaker with
  | none => none
  | some speaker =>
      match company.onStage.filter (· != speaker) with
      | [listener] => some listener
      | _ => none

/-- The character to whom a second person refers. -/
def addressee (company : Company) (line : Nat) : Except ParseFault String :=
  match company.listener? with
  | some name => .ok name
  | none => .error ⟨.listenerMissing, line⟩

end Company

/-! ### Numerals -/

/-- The sign that a noun gives to a numeral. -/
def nounSign : Category → Int
  | .negativeNoun => -1
  | .nothing => 0
  | _ => 1

/-- A phrase is over where no token is left. -/
def expectEnd : List Token → Except ParseFault Unit
  | [] => .ok ()
  | token :: _ => .error ⟨.unexpectedInExpression token.kind, token.line⟩

/-- Read a numeral: words of which every one but the last doubles the value,
unless it is a noun, and the last gives the sign.  A noun may take two words.
`word` is the word in hand and `factor` the value so far. -/
def readNumeral (vocabulary : Vocabulary) (word : String) (line : Nat) (factor : Int)
    (rest : List Token) : Consulting Expr :=
  match rest with
  | ⟨.lexeme (.other second), secondLine⟩ :: afterSecond => do
      match ← vocabulary.categoryOf (word ++ " " ++ second) Category.nouns with
      | some category =>
          match afterSecond with
          | ⟨.lexeme (.other third), thirdLine⟩ :: afterThird =>
              readNumeral vocabulary third thirdLine factor afterThird
          | remaining => do
              Consulting.ofExcept (expectEnd remaining)
              pure (.number (factor * nounSign category) line)
      | none =>
          match ← vocabulary.categoryOf word Category.nouns with
          | some _ => readNumeral vocabulary second secondLine factor afterSecond
          | none => readNumeral vocabulary second secondLine (factor * 2) afterSecond
  | remaining => do
      let category ← vocabulary.categoryOf word Category.nouns
      Consulting.ofExcept (expectEnd remaining)
      pure (.number (factor * (category.map nounSign).getD 1) line)

/-! ### Expressions -/

/-- The two operands of a binary operation, on either side of the conjunction
that belongs to it.  `depth` counts inner operations whose conjunction is still
to come. -/
def splitOperands (depth : Nat) : List Token → Option (List Token × List Token)
  | [] => none
  | token :: rest =>
      match token.kind with
      | .lexeme .conjunction =>
          match depth with
          | 0 => some ([], rest)
          | depth + 1 =>
              (splitOperands depth rest).map fun operands => (token :: operands.1, operands.2)
      | .lexeme (.binary _) =>
          (splitOperands (depth + 1) rest).map fun operands => (token :: operands.1, operands.2)
      | _ => (splitOperands depth rest).map fun operands => (token :: operands.1, operands.2)

/-- Splitting loses the conjunction and nothing else. -/
theorem splitOperands_length {depth : Nat} {tokens : List Token}
    {operands : List Token × List Token} (split : splitOperands depth tokens = some operands) :
    operands.1.length + operands.2.length + 1 = tokens.length := by
  induction tokens generalizing depth operands with
  | nil => simp [splitOperands] at split
  | cons token rest inductionHypothesis =>
      unfold splitOperands at split
      split at split
      · split at split
        · cases split
          simp
        · obtain ⟨inner, innerSplit, rfl⟩ := Option.map_eq_some_iff.mp split
          have := inductionHypothesis innerSplit
          simp only [List.length_cons]
          omega
      · obtain ⟨inner, innerSplit, rfl⟩ := Option.map_eq_some_iff.mp split
        have := inductionHypothesis innerSplit
        simp only [List.length_cons]
        omega
      · obtain ⟨inner, innerSplit, rfl⟩ := Option.map_eq_some_iff.mp split
        have := inductionHypothesis innerSplit
        simp only [List.length_cons]
        omega

/-- Read an expression by its first token.  `endLine` is the line reported when
an expression is missing, and `factor` the value of a numeral's first unit. -/
def readExpression (vocabulary : Vocabulary) (company : Company) (endLine : Nat)
    (factor : Int) (tokens : List Token) : Consulting Expr :=
  match tokens with
  | [] => Consulting.fail .expressionExpected endLine
  | ⟨kind, line⟩ :: rest =>
      match kind with
      | .lexeme .secondPerson | .lexeme .secondPersonReflexive => do
          Consulting.ofExcept (expectEnd rest)
          let name ← Consulting.ofExcept (company.addressee line)
          pure (.character (some name) line)
      | .lexeme .firstPerson | .lexeme .firstPersonReflexive => do
          Consulting.ofExcept (expectEnd rest)
          pure (.character company.speaker line)
      | .lexeme (.character name) => do
          Consulting.ofExcept (expectEnd rest)
          if company.declared.contains name then pure (.character (some name) line)
          else Consulting.fail (.undeclared name) line
      | .lexeme (.unary operation) => do
          let operand ← readExpression vocabulary company endLine 1 rest
          pure (.unary operation operand line)
      | .lexeme (.binary operation) =>
          match _split : splitOperands 0 rest with
          | none => Consulting.fail .conjunctionMissing line
          | some operands => do
              let lhs ← readExpression vocabulary company endLine 1 operands.1
              let rhs ← readExpression vocabulary company endLine 1 operands.2
              pure (.binary operation lhs rhs line)
      | .lexeme .firstPersonPossessive | .lexeme .secondPersonPossessive
      | .lexeme .thirdPersonPossessive => readExpression vocabulary company endLine factor rest
      | .lexeme (.other word) => readNumeral vocabulary word line factor rest
      | other => Consulting.fail (.unexpectedInExpression other) line
termination_by tokens.length
decreasing_by
  all_goals simp only [List.length_cons]
  all_goals first | omega | (have shorter := splitOperands_length _split; omega)

end Playhouse

/-
Module: Playhouse.Proofs.Phrase
Purpose: A rule for proving what the reader of expressions gives and how it
  refuses, one obligation for each kind of phrase.
Main exports: Company.IsListener, listener?_eq_some_iff, eq_append_of_splitOperands,
  PhraseRules, PhraseRules.ensures
-/
import Playhouse.Proofs.Consultation
import Playhouse.Script.Expression

namespace Playhouse

/-! ### Kinds of lexemes -/

namespace Lexeme

/-- Whether a lexeme refers to the listener. -/
def isSecondPerson : Lexeme → Bool
  | secondPerson | secondPersonReflexive => true
  | _ => false

/-- Whether a lexeme refers to the speaker. -/
def isFirstPerson : Lexeme → Bool
  | firstPerson | firstPersonReflexive => true
  | _ => false

/-- Whether a lexeme says to whom something belongs. -/
def isPossessive : Lexeme → Bool
  | firstPersonPossessive | secondPersonPossessive | thirdPersonPossessive => true
  | _ => false

end Lexeme

/-! ### The listener -/

/-- Somebody speaks, and of the others just one is on stage. -/
def Company.IsListener (company : Company) (listener : String) : Prop :=
  ∃ speaker, company.speaker = some speaker ∧
    company.onStage.filter (· != speaker) = [listener]

theorem listener?_eq_some_iff {company : Company} {name : String} :
    company.listener? = some name ↔ company.IsListener name := by
  unfold Company.listener? Company.IsListener
  cases company.speaker with
  | none => simp
  | some speaker =>
      dsimp only
      split
      · rename_i listener others
        simp [others]
      · rename_i noneAlone
        simp only [reduceCtorEq, Option.some.injEq, false_iff]
        rintro ⟨other, rfl, alone⟩
        exact noneAlone name alone

/-- The listener is addressed, if there is one. -/
theorem addressee_ensures {company : Company} {line : Nat} {bad : ReadFault → Prop}
    (unheard : (∀ name, ¬ company.IsListener name) → bad (.parse ⟨.listenerMissing, line⟩)) :
    (Consulting.ofExcept (company.addressee line)).Ensures company.IsListener bad := by
  unfold Company.addressee
  cases heard : company.listener? with
  | some name => exact Consulting.ensures_pure (listener?_eq_some_iff.mp heard)
  | none =>
      refine Consulting.ensures_fail (unheard fun name listens => ?_)
      rw [listener?_eq_some_iff.mpr listens] at heard
      cases heard

/-! ### The conjunction of a binary operation -/

/-- What is found is a conjunction with the operands on either side. -/
theorem eq_append_of_splitOperands {depth : Nat} {tokens : List Token}
    {operands : List Token × List Token} (split : splitOperands depth tokens = some operands) :
    ∃ line, tokens = operands.1 ++ ⟨.lexeme .conjunction, line⟩ :: operands.2 := by
  induction tokens generalizing depth operands with
  | nil => simp [splitOperands] at split
  | cons token rest inductionHypothesis =>
      -- Wherever the search goes on, the token belongs to the left operand.
      have goesOn {inner : Nat}
          (further : (splitOperands inner rest).map
            (fun found => (token :: found.1, found.2)) = some operands) :
          ∃ line, token :: rest = operands.1 ++ ⟨.lexeme .conjunction, line⟩ :: operands.2 := by
        obtain ⟨found, foundSplit, rfl⟩ := Option.map_eq_some_iff.mp further
        obtain ⟨line, same⟩ := inductionHypothesis foundSplit
        exact ⟨line, by rw [same]; rfl⟩
      obtain ⟨kind, line⟩ := token
      unfold splitOperands at split
      split at split
      · rename_i isConjunction
        split at split
        · cases split
          cases isConjunction
          exact ⟨line, rfl⟩
        · exact goesOn split
      · exact goesOn split
      · exact goesOn split

/-! ### The rule -/

/-- What has to be shown of each kind of phrase so that everything read is `good`
for its tokens and every refusal is `bad`. -/
structure PhraseRules (vocabulary : Vocabulary) (company : Company)
    (good : List Token → Expr → Prop) (bad : ReadFault → Prop) : Prop where
  listener : ∀ {lexeme : Lexeme} {name : String} (line : Nat), lexeme.isSecondPerson →
    company.IsListener name → good [⟨.lexeme lexeme, line⟩] (.character (some name) line)
  speaker : ∀ {lexeme : Lexeme} (line : Nat), lexeme.isFirstPerson →
    good [⟨.lexeme lexeme, line⟩] (.character company.speaker line)
  character : ∀ {name : String} (line : Nat), name ∈ company.declared →
    good [⟨.lexeme (.character name), line⟩] (.character (some name) line)
  unary : ∀ {tokens : List Token} {operand : Expr} (operation : UnaryOperation) (line : Nat),
    good tokens operand →
      good (⟨.lexeme (.unary operation), line⟩ :: tokens) (.unary operation operand line)
  binary : ∀ {left right : List Token} {lhs rhs : Expr} (operation : BinaryOperation)
    (line conjunctionLine : Nat), good left lhs → good right rhs →
      good
        (⟨.lexeme (.binary operation), line⟩ ::
          (left ++ ⟨.lexeme .conjunction, conjunctionLine⟩ :: right))
        (.binary operation lhs rhs line)
  possessive : ∀ {lexeme : Lexeme} {tokens : List Token} {expression : Expr} (line : Nat),
    lexeme.isPossessive → good tokens expression →
      good (⟨.lexeme lexeme, line⟩ :: tokens) expression
  numeral : ∀ (word : String) (line : Nat) (rest : List Token),
    (readNumeral vocabulary word line 1 rest).Ensures
      (good (⟨.lexeme (.other word), line⟩ :: rest)) bad
  /-- A phrase whose shape is wrong. -/
  shapeless : ∀ (cause : ParseCause) (line : Nat), cause.kind = "ExpressionViolation" →
    bad (.parse ⟨cause, line⟩)
  undeclared : ∀ (name : String) (line : Nat), bad (.parse ⟨.undeclared name, line⟩)
  unheard : ∀ (line : Nat), (∀ name, ¬ company.IsListener name) →
    bad (.parse ⟨.listenerMissing, line⟩)

namespace PhraseRules

variable {vocabulary : Vocabulary} {company : Company} {good : List Token → Expr → Prop}
  {bad : ReadFault → Prop}

/-- A pronoun and a name stand alone. -/
theorem ensures_alone (rules : PhraseRules vocabulary company good bad) {token : Token}
    {next : Unit → Consulting Expr} (single : (next ()).Ensures (good [token]) bad)
    (rest : List Token) :
    (Consulting.ofExcept (expectEnd rest) >>= next).Ensures (good (token :: rest)) bad := by
  cases rest with
  | nil =>
      have ended : (Consulting.ofExcept (expectEnd [])).Ensures (fun _ => True) bad :=
        Consulting.ensures_pure trivial
      exact Consulting.ensures_bind ended fun _ _ => single
  | cons other others =>
      have refused : (Consulting.ofExcept (expectEnd (other :: others))).Ensures
          (fun _ => False) bad := Consulting.ensures_fail (rules.shapeless _ _ rfl)
      exact Consulting.ensures_bind refused fun _ impossible => impossible.elim

theorem ensures_listener (rules : PhraseRules vocabulary company good bad) {lexeme : Lexeme}
    (isSecond : lexeme.isSecondPerson) (line : Nat) (rest : List Token) :
    (do
      Consulting.ofExcept (expectEnd rest)
      let name ← Consulting.ofExcept (company.addressee line)
      pure (Expr.character (some name) line)).Ensures
      (good (⟨.lexeme lexeme, line⟩ :: rest)) bad :=
  rules.ensures_alone
    (Consulting.ensures_bind (addressee_ensures (rules.unheard line)) fun _ listens =>
      Consulting.ensures_pure (rules.listener line isSecond listens))
    rest

theorem ensures_possessive (rules : PhraseRules vocabulary company good bad) {lexeme : Lexeme}
    (isPossessive : lexeme.isPossessive) (line : Nat) {rest : List Token}
    {computation : Consulting Expr} (inner : computation.Ensures (good rest) bad) :
    computation.Ensures (good (⟨.lexeme lexeme, line⟩ :: rest)) bad :=
  ⟨fun read => rules.possessive line isPossessive (inner.ok read), inner.error⟩

/-- Everything read is good for its tokens, and every refusal is bad. -/
theorem ensures (rules : PhraseRules vocabulary company good bad) (endLine : Nat)
    {factor : Int} (isOne : factor = 1) (tokens : List Token) :
    (readExpression vocabulary company endLine factor tokens).Ensures (good tokens) bad := by
  induction factor, tokens using readExpression.induct with
  | case1 factor =>
      rw [readExpression]
      exact Consulting.ensures_fail (rules.shapeless _ _ rfl)
  | case2 factor line rest =>
      rw [readExpression]
      exact rules.ensures_listener rfl line rest
  | case3 factor line rest =>
      rw [readExpression]
      exact rules.ensures_listener rfl line rest
  | case4 factor line rest =>
      rw [readExpression]
      exact rules.ensures_alone (Consulting.ensures_pure (rules.speaker line rfl)) rest
  | case5 factor line rest =>
      rw [readExpression]
      exact rules.ensures_alone (Consulting.ensures_pure (rules.speaker line rfl)) rest
  | case6 factor line rest name =>
      rw [readExpression]
      apply rules.ensures_alone
      split
      · rename_i isDeclared
        exact Consulting.ensures_pure
          (rules.character line (List.contains_iff_mem.mp isDeclared))
      · exact Consulting.ensures_fail (rules.undeclared name line)
  | case7 factor line rest operation inner =>
      rw [readExpression]
      exact Consulting.ensures_bind (inner rfl) fun operand isGood =>
        Consulting.ensures_pure (rules.unary operation line isGood)
  | case8 factor line rest operation noSplit =>
      rw [readExpression]
      split
      · exact Consulting.ensures_fail (rules.shapeless _ _ rfl)
      · rename_i found
        rw [noSplit] at found
        cases found
  | case9 factor line rest operation operands isSplit left right =>
      rw [readExpression]
      split
      · exact Consulting.ensures_fail (rules.shapeless _ _ rfl)
      · rename_i others found
        obtain rfl : others = operands := Option.some.inj (found.symm.trans isSplit)
        obtain ⟨conjunctionLine, rfl⟩ := eq_append_of_splitOperands isSplit
        exact Consulting.ensures_bind (left rfl) fun lhs lhsGood =>
          Consulting.ensures_bind (right rfl) fun rhs rhsGood =>
            Consulting.ensures_pure
              (rules.binary operation line conjunctionLine lhsGood rhsGood)
  | case10 factor line rest inner =>
      rw [readExpression]
      exact rules.ensures_possessive rfl line (inner isOne)
  | case11 factor line rest inner =>
      rw [readExpression]
      exact rules.ensures_possessive rfl line (inner isOne)
  | case12 factor line rest inner =>
      rw [readExpression]
      exact rules.ensures_possessive rfl line (inner isOne)
  | case13 factor line rest word =>
      subst isOne
      rw [readExpression]
      exact rules.numeral word line rest
  | case14 factor line rest other =>
      rw [readExpression]
      · exact Consulting.ensures_fail (rules.shapeless _ _ rfl)
      all_goals assumption

end PhraseRules

end Playhouse

/-
Module: Playhouse.Proofs.Speech
Purpose: What can be said in a play: expressions and statements that name only
  declared characters, and the phrases that two characters exchange.
Main exports: Expr.Sayable, Action.Sayable, Company.Staged, Company.Converse,
  readNumeral_ensures, sayable_rules
-/
import Mathlib.Algebra.Group.Int.Defs
import Playhouse.Proofs.NameSet
import Playhouse.Proofs.Phrase
import Playhouse.Review

namespace Playhouse

/-! ### Sayable expressions and statements -/

/-- A number that a run of words can stand for: zero or a power of two with a
sign. -/
def IsNumeral (value : Int) : Prop :=
  ∃ (doublings : Nat) (sign : Int), (sign = 1 ∨ sign = 0 ∨ sign = -1) ∧
    value = 2 ^ doublings * sign

/-- An expression that names only declared characters and holds only numbers that
words can stand for. -/
def Expr.Sayable (declared : NameSet) : Expr → Prop
  | character name _ => ∃ known ∈ declared, name = some known
  | number value _ => IsNumeral value
  | unary _ operand _ => operand.Sayable declared
  | binary _ lhs rhs _ => lhs.Sayable declared ∧ rhs.Sayable declared
  | foreign _ _ => False

def Question.Sayable (declared : NameSet) (question : Question) : Prop :=
  question.lhs.Sayable declared ∧ question.rhs.Sayable declared

def Action.Sayable (declared : NameSet) : Action → Prop
  | scene _ | jump _ => True
  | declare name | scanNumber name | scanCharacter name | printCharacter name
  | printNumber name | pop name => name ∈ declared
  | push name value => name ∈ declared ∧ value.Sayable declared
  | assign target _ value => (∃ known ∈ declared, target = some known) ∧ value.Sayable declared
  | jumpIf question _ _ | ask question => question.Sayable declared
  | remark value => value.Sayable declared

section

variable {declared more : NameSet}

theorem Expr.Sayable.mono (grown : ∀ name ∈ declared, name ∈ more) {expression : Expr}
    (sayable : expression.Sayable declared) : expression.Sayable more := by
  induction expression with
  | character name line =>
      obtain ⟨known, isDeclared, isKnown⟩ := sayable
      exact ⟨known, grown known isDeclared, isKnown⟩
  | number value line => exact sayable
  | unary operation operand line inductionHypothesis => exact inductionHypothesis sayable
  | binary operation lhs rhs line leftHypothesis rightHypothesis =>
      exact ⟨leftHypothesis sayable.1, rightHypothesis sayable.2⟩
  | foreign transcript line => exact sayable

theorem Question.Sayable.mono (grown : ∀ name ∈ declared, name ∈ more) {question : Question}
    (sayable : question.Sayable declared) : question.Sayable more :=
  ⟨sayable.1.mono grown, sayable.2.mono grown⟩

/-- More declarations take nothing away from what can be said. -/
theorem Action.Sayable.mono (grown : ∀ name ∈ declared, name ∈ more) {action : Action}
    (sayable : action.Sayable declared) : action.Sayable more := by
  cases action with
  | scene tag => trivial
  | jump tag => trivial
  | push name value => exact ⟨grown name sayable.1, sayable.2.mono grown⟩
  | assign target line value =>
      obtain ⟨⟨known, isDeclared, isKnown⟩, valueSayable⟩ := sayable
      exact ⟨⟨known, grown known isDeclared, isKnown⟩, valueSayable.mono grown⟩
  | jumpIf question tag line => exact Question.Sayable.mono grown sayable
  | ask question => exact Question.Sayable.mono grown sayable
  | remark value => exact Expr.Sayable.mono grown sayable
  | _ => exact grown _ sayable

/-- The names in a sayable expression are those of declared characters. -/
theorem Expr.Sayable.names {expression : Expr} (sayable : expression.Sayable declared)
    {name : Option String} (named : name ∈ expression.names) :
    ∃ known ∈ declared, name = some known := by
  induction expression with
  | character other line =>
      rw [List.mem_singleton.mp named]
      exact sayable
  | number value line => cases named
  | unary operation operand line inductionHypothesis => exact inductionHypothesis sayable named
  | binary operation lhs rhs line leftHypothesis rightHypothesis =>
      rcases List.mem_append.mp named with inLeft | inRight
      · exact leftHypothesis sayable.1 inLeft
      · exact rightHypothesis sayable.2 inRight
  | foreign transcript line => cases named

/-- The names in a sayable statement are those of declared characters. -/
theorem Action.Sayable.names {action : Action} (sayable : action.Sayable declared)
    {name : Option String} (named : name ∈ action.names) :
    ∃ known ∈ declared, name = some known := by
  cases action with
  | scene tag => cases named
  | declare other => cases named
  | jump tag => cases named
  | ask question => cases named
  | remark value => cases named
  | push other value =>
      rcases List.mem_cons.mp named with isTarget | inValue
      · exact ⟨other, sayable.1, isTarget⟩
      · exact sayable.2.names inValue
  | assign target line value =>
      rcases List.mem_cons.mp named with isTarget | inValue
      · rw [isTarget]
        exact sayable.1
      · exact sayable.2.names inValue
  | jumpIf question tag line =>
      rcases List.mem_append.mp named with inLeft | inRight
      · exact sayable.1.names inLeft
      · exact sayable.2.names inRight
  | _ => exact ⟨_, sayable, List.mem_singleton.mp named⟩

end

/-! ### Two characters in conversation -/

namespace Company

/-- A stage in order: those on stage are declared, each is there once, and the
speaker is one of them. -/
structure Staged (company : Company) : Prop where
  ordered : NameSet.Ordered company.onStage
  declared : ∀ name ∈ company.onStage, name ∈ company.declared
  speaker : ∀ name, company.speaker = some name → name ∈ company.onStage

/-- Exactly two characters are on stage, and the first speaks to the second. -/
structure Converse (company : Company) (speaker listener : String) : Prop where
  speaks : company.speaker = some speaker
  apart : speaker ≠ listener
  present : company.onStage = [speaker, listener] ∨ company.onStage = [listener, speaker]

variable {company : Company} {speaker listener : String}

/-- On a stage of two there is a conversation as soon as one of them speaks. -/
theorem Staged.converse (staged : company.Staged) (two : company.onStage.length = 2)
    (speaks : company.speaker = some speaker) : ∃ listener, company.Converse speaker listener := by
  obtain ⟨first, second, present⟩ : ∃ first second, company.onStage = [first, second] := by
    match company.onStage, two with
    | [first, second], _ => exact ⟨first, second, rfl⟩
  have differ : first ≠ second := by
    have distinct := staged.ordered.nodup
    rw [present] at distinct
    simpa using distinct
  have isPresent := staged.speaker speaker speaks
  rw [present] at isPresent
  rcases List.mem_cons.mp isPresent with rfl | isSecond
  · exact ⟨second, speaks, differ, Or.inl present⟩
  · obtain rfl := List.mem_singleton.mp isSecond
    exact ⟨first, speaks, differ.symm, Or.inr present⟩

/-- In a conversation the one who does not speak is the listener. -/
theorem Converse.isListener_iff (converse : company.Converse speaker listener) {name : String} :
    company.IsListener name ↔ name = listener := by
  have alone : company.onStage.filter (· != speaker) = [listener] := by
    rcases converse.present with present | present <;>
      simp [present, converse.apart.symm]
  unfold IsListener
  rw [converse.speaks]
  constructor
  · rintro ⟨other, isSpeaker, isAlone⟩
    cases isSpeaker
    rw [alone] at isAlone
    exact (List.singleton_inj.mp isAlone).symm
  · rintro rfl
    exact ⟨speaker, rfl, alone⟩

theorem Converse.listener_mem (converse : company.Converse speaker listener) :
    listener ∈ company.onStage := by
  rcases converse.present with present | present <;> simp [present]

end Company

/-! ### Phrases in a conversation -/

section

variable {vocabulary : Vocabulary}

/-- A word list that cannot be fetched, of a class that ends a numeral. -/
def Vocabulary.LacksNouns (vocabulary : Vocabulary) (fault : LexiconFault) : Prop :=
  ∃ category ∈ Category.nouns, vocabulary.list category = .error fault

/-- Looking a word up fails only for want of a list. -/
theorem categoryOf_ensures {bad : ReadFault → Prop} (word : String) {categories : List Category}
    (lacking : ∀ category ∈ categories, ∀ fault, vocabulary.list category = .error fault →
      bad (.lexicon fault)) :
    (vocabulary.categoryOf word categories).Ensures (fun _ => True) bad := by
  induction categories with
  | nil => exact Consulting.ensures_pure trivial
  | cons category rest inductionHypothesis =>
      have consulted : (vocabulary.consult category).Ensures (fun _ => True) bad := by
        constructor
        · intro list _
          trivial
        · intro fault failed
          unfold Vocabulary.consult at failed
          cases listed : vocabulary.list category with
          | ok list =>
              rw [listed] at failed
              cases failed
          | error missing =>
              rw [listed] at failed
              cases failed
              exact lacking category (List.mem_cons_self ..) missing listed
      refine Consulting.ensures_bind consulted fun list _ => ?_
      split
      · exact Consulting.ensures_pure trivial
      · exact inductionHypothesis fun other member =>
          lacking other (List.mem_cons_of_mem _ member)

theorem expectEnd_ensures {bad : ReadFault → Prop}
    (shapeless : ∀ kind line, bad (.parse ⟨.unexpectedInExpression kind, line⟩))
    (tokens : List Token) :
    (Consulting.ofExcept (expectEnd tokens)).Ensures (fun _ => True) bad := by
  cases tokens with
  | nil => exact Consulting.ensures_pure trivial
  | cons token rest => exact Consulting.ensures_fail (shapeless token.kind token.line)

/-- A last word, noun or not, gives a sign. -/
theorem isNumeral_sign (category : Option Category) :
    IsNumeral ((category.map nounSign).getD 1) := by
  refine ⟨0, (category.map nounSign).getD 1, ?_, by simp⟩
  rcases category with _ | category
  · exact Or.inl rfl
  · cases category <;> simp [nounSign]

theorem isNumeral_double {value : Int} (isNumeral : IsNumeral value) : IsNumeral (2 * value) := by
  obtain ⟨doublings, sign, isSign, rfl⟩ := isNumeral
  refine ⟨doublings + 1, sign, isSign, ?_⟩
  rw [Int.pow_succ, Int.mul_comm _ 2, Int.mul_assoc]

/-- Whatever the vocabulary, a run of words gives a signed power of two or zero,
and fails only for its shape or for want of a list. -/
theorem readNumeral_ensures {bad : ReadFault → Prop}
    (lacking : ∀ fault, vocabulary.LacksNouns fault → bad (.lexicon fault))
    (shapeless : ∀ kind line, bad (.parse ⟨.unexpectedInExpression kind, line⟩))
    (word : String) (line : Nat) (factor : Int) (rest : List Token) :
    (readNumeral vocabulary word line factor rest).Ensures
      (fun expression => ∃ value lastLine, IsNumeral value ∧
        expression = .number (factor * value) lastLine) bad := by
  have lookedUp phrase : (vocabulary.categoryOf phrase Category.nouns).Ensures
      (fun _ => True) bad :=
    categoryOf_ensures phrase fun category member fault failed =>
      lacking fault ⟨category, member, failed⟩
  induction word, line, factor, rest using readNumeral.induct with
  | case1 word line factor second secondLine afterSecond afterPair afterNoun afterOther =>
      rw [readNumeral]
      refine Consulting.ensures_bind (lookedUp _) fun pair _ => ?_
      cases pair with
      | some category =>
          dsimp only
          split
          · exact afterPair
          · exact Consulting.ensures_bind (expectEnd_ensures shapeless _) fun _ _ =>
              Consulting.ensures_pure ⟨_, line, isNumeral_sign (some category), rfl⟩
      | none =>
          refine Consulting.ensures_bind (lookedUp _) fun single _ => ?_
          cases single with
          | some category => exact afterNoun
          | none =>
              refine ⟨fun read => ?_, afterOther.error⟩
              obtain ⟨value, lastLine, isNumeral, rfl⟩ := afterOther.ok read
              refine ⟨2 * value, lastLine, isNumeral_double isNumeral, ?_⟩
              rw [Int.mul_assoc]
  | case2 word line factor remaining noWord =>
      rw [readNumeral]
      · refine Consulting.ensures_bind (lookedUp _) fun category _ => ?_
        exact Consulting.ensures_bind (expectEnd_ensures shapeless _) fun _ _ =>
          Consulting.ensures_pure ⟨_, line, isNumeral_sign category, rfl⟩
      · exact noWord

/-- Every phrase of a conversation is sayable. -/
theorem sayable_rules {company : Company} (staged : company.Staged) {speaker listener : String}
    (converse : company.Converse speaker listener) :
    PhraseRules vocabulary company (fun _ expression => expression.Sayable company.declared)
      (fun _ => True) where
  listener _ _ listens := by
    obtain rfl := converse.isListener_iff.mp listens
    exact ⟨_, staged.declared _ converse.listener_mem, rfl⟩
  speaker _ _ :=
    ⟨speaker, staged.declared _ (staged.speaker _ converse.speaks), converse.speaks⟩
  character _ isDeclared := ⟨_, isDeclared, rfl⟩
  unary _ _ inner := inner
  binary _ _ _ left right := ⟨left, right⟩
  possessive _ _ inner := inner
  numeral word line rest := by
    have ensured : (readNumeral vocabulary word line 1 rest).Ensures _ (fun _ => True) :=
      readNumeral_ensures (fun _ _ => trivial) (fun _ _ => trivial) word line 1 rest
    refine ⟨fun read => ?_, ensured.error⟩
    obtain ⟨value, lastLine, isNumeral, rfl⟩ := ensured.ok read
    rw [Int.one_mul]
    exact isNumeral
  shapeless _ _ _ := trivial
  undeclared _ _ := trivial
  unheard _ _ := trivial

/-- What is read in a conversation is sayable. -/
theorem sayable_of_readExpression {company : Company} (staged : company.Staged)
    {speaker listener : String} (converse : company.Converse speaker listener) {endLine : Nat}
    {tokens : List Token} {expression : Expr}
    (read : (readExpression vocabulary company endLine 1 tokens).outcome = .ok expression) :
    expression.Sayable company.declared :=
  ((sayable_rules staged converse).ensures endLine rfl tokens).ok read

end

end Playhouse

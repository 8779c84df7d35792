/-
Module: Playhouse.Proofs.Wording
Purpose: Words for every expression that can be said, and the sentences in which
  they are read back.
Main exports: numeralWords, numeralValue_numeralWords, Expr.wording, derives_of_wording,
  readSentence_inner, readQuery_inner
-/
import Playhouse.Proofs.Grammar
import Playhouse.Proofs.Speech
import Playhouse.Script.Sentence

namespace Playhouse

/-! ### Numerals -/

/-- The words for a number: `nothing` for zero, and otherwise an adjective for
every doubling and a noun for the sign. -/
def numeralWords (value : Int) : List String :=
  if value = 0 then ["nothing"]
  else List.replicate value.natAbs.log2 "big" ++ [if value < 0 then "goat" else "cat"]

/-- Adjectives in front of a noun double its sign. -/
theorem numeralValue_replicate {vocabulary : Vocabulary} {adjective noun : String}
    (noNoun : vocabulary.nounOf adjective = none)
    (noPair : vocabulary.nounOf (adjective ++ " " ++ adjective) = none)
    (noLastPair : vocabulary.nounOf (adjective ++ " " ++ noun) = none) (doublings : Nat) :
    vocabulary.numeralValue (List.replicate doublings adjective ++ [noun]) =
      2 ^ doublings * vocabulary.signOf noun := by
  induction doublings with
  | zero => simp [Vocabulary.numeralValue_singleton]
  | succ doublings inductionHypothesis =>
      have doubled : vocabulary.numeralValue
          (adjective :: (List.replicate doublings adjective ++ [noun])) =
          2 * vocabulary.numeralValue (List.replicate doublings adjective ++ [noun]) := by
        cases doublings with
        | zero =>
            rw [List.replicate_zero, List.nil_append, Vocabulary.numeralValue_cons noLastPair,
              noNoun]
            rfl
        | succ fewer =>
            rw [List.replicate_succ, List.cons_append, Vocabulary.numeralValue_cons noPair,
              noNoun]
            rfl
      rw [List.replicate_succ, List.cons_append, doubled, inductionHypothesis, Int.pow_succ,
        Int.mul_comm _ 2, Int.mul_assoc]

/-- The words for numbers among the nouns: the adjective is none, alone or in front
of another word. -/
theorem nounOf_numeralWords :
    Vocabulary.bundled.nounOf "big" = none ∧
      Vocabulary.bundled.nounOf ("big" ++ " " ++ "big") = none ∧
      Vocabulary.bundled.nounOf ("big" ++ " " ++ "cat") = none ∧
      Vocabulary.bundled.nounOf ("big" ++ " " ++ "goat") = none ∧
      Vocabulary.bundled.nounOf "cat" = some .neutralNoun ∧
      Vocabulary.bundled.nounOf "goat" = some .negativeNoun ∧
      Vocabulary.bundled.nounOf "nothing" = some .nothing := by decide +kernel

theorem numeralValue_cat (doublings : Nat) :
    Vocabulary.bundled.numeralValue (List.replicate doublings "big" ++ ["cat"]) =
      2 ^ doublings := by
  obtain ⟨noNoun, noPair, noCat, _, cat, _, _⟩ := nounOf_numeralWords
  rw [numeralValue_replicate noNoun noPair noCat, Vocabulary.signOf, cat]
  exact Int.mul_one _

theorem numeralValue_goat (doublings : Nat) :
    Vocabulary.bundled.numeralValue (List.replicate doublings "big" ++ ["goat"]) =
      -2 ^ doublings := by
  obtain ⟨noNoun, noPair, _, noGoat, _, goat, _⟩ := nounOf_numeralWords
  rw [numeralValue_replicate noNoun noPair noGoat, Vocabulary.signOf, goat]
  exact Int.mul_neg_one _

theorem numeralValue_nothing : Vocabulary.bundled.numeralValue ["nothing"] = 0 := by
  obtain ⟨_, _, _, _, _, _, nothing⟩ := nounOf_numeralWords
  rw [Vocabulary.numeralValue_singleton, Vocabulary.signOf, nothing]
  rfl

/-- The words for a number have it as their value. -/
theorem numeralValue_numeralWords {value : Int} (isNumeral : IsNumeral value) :
    Vocabulary.bundled.numeralValue (numeralWords value) = value := by
  obtain ⟨doublings, sign, isSign, rfl⟩ := isNumeral
  have positive : (0 : Int) < 2 ^ doublings := Int.pow_pos (by decide)
  have magnitude : ((2 : Int) ^ doublings).natAbs = 2 ^ doublings := by
    rw [Int.natAbs_pow]
    rfl
  unfold numeralWords
  rcases isSign with rfl | rfl | rfl
  · rw [Int.mul_one, if_neg (by omega), magnitude, Nat.log2_two_pow, if_neg (by omega),
      numeralValue_cat]
  · rw [Int.mul_zero, if_pos rfl, numeralValue_nothing]
  · rw [Int.mul_neg, Int.mul_one, if_neg (by omega), Int.natAbs_neg, magnitude,
      Nat.log2_two_pow, if_pos (by omega), numeralValue_goat]

/-! ### Expressions -/

/-- The tokens for an expression.  Characters are always called by their names. -/
def Expr.wording : Expr → List TokenKind
  | character name _ => [.lexeme (.character (name.getD ""))]
  | number value _ => (numeralWords value).map fun word => .lexeme (.other word)
  | unary operation operand _ => .lexeme (.unary operation) :: operand.wording
  | binary operation lhs rhs _ =>
      .lexeme (.binary operation) :: (lhs.wording ++ .lexeme .conjunction :: rhs.wording)
  | foreign _ _ => []

theorem numeralWords_ne_nil (value : Int) : ∃ word words, numeralWords value = word :: words := by
  apply List.exists_cons_of_ne_nil
  unfold numeralWords
  split <;> simp

/-- The tokens for an expression that can be said are a phrase for it, on whatever
lines they stand. -/
theorem derives_of_wording {company : Company} {expression : Expr}
    (sayable : expression.Sayable company.declared) {tokens : List Token}
    (worded : tokens.map Token.kind = expression.wording) :
    Derives Vocabulary.bundled company tokens expression.unlined := by
  induction expression generalizing tokens with
  | character name line =>
      obtain ⟨known, isDeclared, rfl⟩ := sayable
      obtain ⟨⟨kind, tokenLine⟩, rfl, isName⟩ := List.map_eq_singleton_iff.mp worded
      cases isName
      exact .character isDeclared
  | number value line =>
      obtain ⟨word, words, isWords⟩ := numeralWords_ne_nil value
      have derives : Derives Vocabulary.bundled company tokens
          (.number (Vocabulary.bundled.numeralValue (word :: words)) 0) :=
        .numeral (by rw [← isWords]; exact worded)
      rw [← isWords, numeralValue_numeralWords sayable] at derives
      exact derives
  | unary operation operand line inductionHypothesis =>
      obtain ⟨⟨kind, tokenLine⟩, rest, rfl, isOperation, restWorded⟩ :=
        List.map_eq_cons_iff.mp worded
      cases isOperation
      exact .unary (inductionHypothesis sayable restWorded)
  | binary operation lhs rhs line leftHypothesis rightHypothesis =>
      obtain ⟨⟨kind, tokenLine⟩, rest, rfl, isOperation, restWorded⟩ :=
        List.map_eq_cons_iff.mp worded
      obtain ⟨left, others, rfl, leftWorded, othersWorded⟩ :=
        List.map_eq_append_iff.mp restWorded
      obtain ⟨⟨joint, jointLine⟩, right, rfl, isConjunction, rightWorded⟩ :=
        List.map_eq_cons_iff.mp othersWorded
      cases isOperation
      cases isConjunction
      exact .binary (leftHypothesis sayable.1 leftWorded) (rightHypothesis sayable.2 rightWorded)
  | foreign transcript line => exact sayable.elim

/-! ### Sentences -/

/-- Whether a token belongs inside a sentence and is neither its end nor a
comparison. -/
def Token.isInner (token : Token) : Bool :=
  match token.kind with
  | .lexeme .punctuation => false
  | .lexeme (.compare _) => false
  | .lexeme _ => true
  | _ => false

/-- The tokens for an expression, without lines. -/
def Expr.tokens (expression : Expr) : List Token :=
  expression.wording.map fun kind => ⟨kind, 0⟩

theorem Expr.kind_tokens (expression : Expr) :
    expression.tokens.map Token.kind = expression.wording := by
  rw [tokens, List.map_map]
  exact List.map_id expression.wording

theorem Expr.isInner_wording (expression : Expr) :
    ∀ kind ∈ expression.wording, Token.isInner ⟨kind, 0⟩ := by
  induction expression with
  | character name line => simp [wording, Token.isInner]
  | number value line => simp [wording, Token.isInner]
  | unary operation operand line inductionHypothesis =>
      simp only [wording, List.forall_mem_cons]
      exact ⟨rfl, inductionHypothesis⟩
  | binary operation lhs rhs line leftHypothesis rightHypothesis =>
      simp only [wording, List.forall_mem_cons, List.forall_mem_append]
      exact ⟨rfl, leftHypothesis, rfl, rightHypothesis⟩
  | foreign transcript line => simp [wording]

theorem Expr.isInner_tokens (expression : Expr) : ∀ token ∈ expression.tokens, token.isInner := by
  intro token member
  obtain ⟨kind, isKind, rfl⟩ := List.mem_map.mp member
  exact expression.isInner_wording kind isKind

/-- An expression that can be said takes at least one token. -/
theorem Expr.Sayable.tokens_ne_nil {declared : NameSet} {expression : Expr}
    (sayable : expression.Sayable declared) : expression.tokens ≠ [] := by
  cases expression with
  | number value line =>
      obtain ⟨word, words, isWords⟩ := numeralWords_ne_nil value
      simp [tokens, wording, isWords]
  | foreign transcript line => exact sayable.elim
  | _ => simp [tokens, wording]

/-- A sentence is read up to its mark. -/
theorem readSentence_inner {words : List Token} (inner : ∀ token ∈ words, token.isInner)
    (startLine endLine : Nat) (rest : List Token) :
    readSentence startLine (words ++ ⟨.lexeme .punctuation, endLine⟩ :: rest) =
      .ok ⟨words, endLine, rest⟩ := by
  induction words with
  | nil => rfl
  | cons token others inductionHypothesis =>
      obtain ⟨isInner, othersInner⟩ := List.forall_mem_cons.mp inner
      rw [List.cons_append, readSentence, inductionHypothesis othersInner]
      split <;> simp_all [Token.isInner, bind, Except.bind, pure, Except.pure]

/-- The right side of a question is read up to its mark, provided that it has one
word at least. -/
theorem readRightSide_inner {words : List Token} (inner : ∀ token ∈ words, token.isInner)
    {begun : Bool} (some : begun = true ∨ words ≠ []) (startLine endLine : Nat)
    (comparison : Comparison) (rest : List Token) :
    readRightSide startLine comparison begun
        (words ++ ⟨.lexeme .punctuation, endLine⟩ :: rest) =
      .ok ⟨[], comparison, words, endLine, rest⟩ := by
  induction words generalizing begun with
  | nil =>
      obtain rfl : begun = true := by simpa using some
      rfl
  | cons token others inductionHypothesis =>
      obtain ⟨isInner, othersInner⟩ := List.forall_mem_cons.mp inner
      rw [List.cons_append, readRightSide, inductionHypothesis othersInner (Or.inl rfl)]
      split <;> simp_all [Token.isInner, bind, Except.bind, pure, Except.pure]

/-- The left side of a question is read up to the comparison, provided that it has
one word at least. -/
theorem readLeftSide_inner {words : List Token} (inner : ∀ token ∈ words, token.isInner)
    {begun : Bool} (some : begun = true ∨ words ≠ []) {startLine line : Nat}
    {comparison : Comparison} {rest : List Token} {query : Query}
    (right : readRightSide startLine comparison false rest = .ok query)
    (noLeft : query.lhs = []) :
    readLeftSide startLine begun (words ++ ⟨.lexeme (.compare comparison), line⟩ :: rest) =
      .ok { query with lhs := words } := by
  induction words generalizing begun with
  | nil =>
      obtain rfl : begun = true := by simpa using some
      obtain ⟨left, found, rhs, endLine, after⟩ := query
      obtain rfl : left = [] := noLeft
      exact right
  | cons token others inductionHypothesis =>
      obtain ⟨isInner, othersInner⟩ := List.forall_mem_cons.mp inner
      rw [List.cons_append, readLeftSide, inductionHypothesis othersInner (Or.inl rfl)]
      split <;> simp_all [Token.isInner, bind, Except.bind, pure, Except.pure]

/-- A question is read as its two sides and its comparison. -/
theorem readQuery_inner {lhs rhs : List Token} (lhsInner : ∀ token ∈ lhs, token.isInner)
    (rhsInner : ∀ token ∈ rhs, token.isInner) (someLeft : lhs ≠ []) (someRight : rhs ≠ [])
    (startLine line endLine : Nat) (comparison : Comparison) (rest : List Token) :
    readQuery startLine
        (lhs ++ ⟨.lexeme (.compare comparison), line⟩ ::
          (rhs ++ ⟨.lexeme .punctuation, endLine⟩ :: rest)) =
      .ok ⟨lhs, comparison, rhs, endLine, rest⟩ :=
  readLeftSide_inner lhsInner (Or.inr someLeft)
    (readRightSide_inner rhsInner (Or.inr someRight) startLine endLine comparison rest) rfl

end Playhouse

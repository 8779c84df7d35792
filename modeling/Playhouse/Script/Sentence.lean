/-
Module: Playhouse.Script.Sentence
Purpose: Cutting sentences and questions out of a sequence of tokens.
Main exports: Token.isPunctuation, afterPunctuation?, Sentence, readSentence, Query,
  readQuery
-/
import Playhouse.Script.Fault

namespace Playhouse

/-- Whether a token ends a sentence. -/
def Token.isPunctuation (token : Token) : Bool :=
  token.kind == .lexeme .punctuation

/-- What follows the first mark that ends a sentence. -/
def afterPunctuation? : List Token → Option (List Token)
  | [] => none
  | token :: rest => if token.isPunctuation then some rest else afterPunctuation? rest

theorem afterPunctuation?_length {tokens rest : List Token}
    (found : afterPunctuation? tokens = some rest) : rest.length < tokens.length := by
  induction tokens with
  | nil => simp [afterPunctuation?] at found
  | cons token others inductionHypothesis =>
      unfold afterPunctuation? at found
      split at found
      · cases found
        simp
      · exact Nat.lt_succ_of_lt (inductionHypothesis found)

/-! ### Sentences -/

/-- The words of a sentence up to its mark, the line of the mark, and what
follows. -/
structure Sentence where
  words : List Token
  endLine : Nat
  rest : List Token
deriving Repr, Inhabited

/-- Read the rest of a sentence that started on a given line.  Only words and
the mark at the end may occur in it. -/
def readSentence (startLine : Nat) : List Token → Except ParseFault Sentence
  | [] => .error ⟨.sentenceUnfinished, startLine⟩
  | token :: rest =>
      match token.kind with
      | .lexeme .punctuation => .ok ⟨[], token.line, rest⟩
      | .lexeme _ => do
          let sentence ← readSentence startLine rest
          pure { sentence with words := token :: sentence.words }
      | other => .error ⟨.unexpectedInSentence other, token.line⟩

theorem readSentence_length {startLine : Nat} {tokens : List Token} {sentence : Sentence}
    (read : readSentence startLine tokens = .ok sentence) :
    sentence.rest.length < tokens.length := by
  induction tokens generalizing sentence with
  | nil => simp [readSentence] at read
  | cons token rest inductionHypothesis =>
      unfold readSentence at read
      split at read
      · cases read
        simp
      · cases inner : readSentence startLine rest with
        | error fault => simp [inner, bind, Except.bind] at read
        | ok shorter =>
            simp only [inner, bind, Except.bind, pure, Except.pure, Except.ok.injEq] at read
            have shorterLength := inductionHypothesis inner
            subst read
            exact Nat.lt_succ_of_lt shorterLength
      · simp at read

/-! ### Questions -/

/-- The parts of a question: its two sides, the comparison between them, the
line of the mark at its end, and what follows. -/
structure Query where
  lhs : List Token
  comparison : Comparison
  rhs : List Token
  endLine : Nat
  rest : List Token
deriving Repr, Inhabited

/-- Read the right side of a question up to its mark.  `begun` says that some of
the right side has been read already. -/
def readRightSide (startLine : Nat) (comparison : Comparison) (begun : Bool) :
    List Token → Except ParseFault Query
  | [] => .error ⟨.questionUnfinished, startLine⟩
  | token :: rest =>
      match token.kind with
      | .lexeme (.compare _) => .error ⟨.secondComparison, token.line⟩
      | .lexeme .punctuation =>
          if begun then .ok ⟨[], comparison, [], token.line, rest⟩
          else .error ⟨.rightSideMissing, token.line⟩
      | .lexeme _ => do
          let query ← readRightSide startLine comparison true rest
          pure { query with rhs := token :: query.rhs }
      | other => .error ⟨.unexpectedInQuestion other, token.line⟩

/-- Read a question from its left side on.  `begun` says that some of the left
side has been read already. -/
def readLeftSide (startLine : Nat) (begun : Bool) : List Token → Except ParseFault Query
  | [] => .error ⟨.questionUnfinished, startLine⟩
  | token :: rest =>
      match token.kind with
      | .lexeme (.compare comparison) =>
          if begun then readRightSide startLine comparison false rest
          else .error ⟨.leftSideMissing, token.line⟩
      | .lexeme .punctuation => .error ⟨.comparisonMissing, token.line⟩
      | .lexeme _ => do
          let query ← readLeftSide startLine true rest
          pure { query with lhs := token :: query.lhs }
      | other => .error ⟨.unexpectedInQuestion other, token.line⟩

/-- Read a question whose verb stood on a given line. -/
def readQuery (startLine : Nat) (tokens : List Token) : Except ParseFault Query :=
  readLeftSide startLine false tokens

theorem readRightSide_length {startLine : Nat} {comparison : Comparison} {begun : Bool}
    {tokens : List Token} {query : Query}
    (read : readRightSide startLine comparison begun tokens = .ok query) :
    query.rest.length < tokens.length := by
  induction tokens generalizing begun query with
  | nil => simp [readRightSide] at read
  | cons token rest inductionHypothesis =>
      unfold readRightSide at read
      split at read
      · simp at read
      · split at read
        · cases read
          simp
        · simp at read
      · cases inner : readRightSide startLine comparison true rest with
        | error fault => simp [inner, bind, Except.bind] at read
        | ok shorter =>
            simp only [inner, bind, Except.bind, pure, Except.pure, Except.ok.injEq] at read
            have shorterLength := inductionHypothesis inner
            subst read
            exact Nat.lt_succ_of_lt shorterLength
      · simp at read

theorem readLeftSide_length {startLine : Nat} {begun : Bool} {tokens : List Token}
    {query : Query} (read : readLeftSide startLine begun tokens = .ok query) :
    query.rest.length < tokens.length := by
  induction tokens generalizing begun query with
  | nil => simp [readLeftSide] at read
  | cons token rest inductionHypothesis =>
      unfold readLeftSide at read
      split at read
      · split at read
        · exact Nat.lt_succ_of_lt (readRightSide_length read)
        · simp at read
      · simp at read
      · cases inner : readLeftSide startLine true rest with
        | error fault => simp [inner, bind, Except.bind] at read
        | ok shorter =>
            simp only [inner, bind, Except.bind, pure, Except.pure, Except.ok.injEq] at read
            have shorterLength := inductionHypothesis inner
            subst read
            exact Nat.lt_succ_of_lt shorterLength
      · simp at read

end Playhouse

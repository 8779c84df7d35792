/-
Module: Playhouse.Performance.House
Purpose: The state of a performance and the effect of one statement on it.
Main exports: Stacks, Labels, Labels.ofStatements, House, House.opening, House.execute
-/
import Playhouse.Performance.Arithmetic
import Playhouse.Performance.Input
import Playhouse.Performance.Output

namespace Playhouse

open Text

/-- The numbers put away by every character, last one first. -/
abbrev Stacks := Ledger String (List Int)

/-- Where every scene begins. -/
abbrev Labels := Ledger String Nat

/-- Enter the scenes of some statements, the first of which has the number
`position`.  A repeated tag leads to its last scene. -/
def Labels.enter (labels : Labels) (position : Nat) : List Statement → Labels
  | [] => labels
  | statement :: rest =>
      match statement.action with
      | .scene tag => Labels.enter (labels.put tag position) (position + 1) rest
      | _ => Labels.enter labels (position + 1) rest

/-- Where the scenes of a play begin. -/
def Labels.ofStatements (statements : List Statement) : Labels :=
  Labels.enter [] 0 statements

/-- The state of a performance. -/
structure House (σ : Type) where
  /-- The characters' numbers. -/
  store : Store
  memories : Stacks
  /-- The number of statements begun. -/
  steps : Nat
  /-- What has been printed, last piece first. -/
  printed : List CodePoints
  /-- The input that is left, with all else outside the play. -/
  input : σ

namespace House

variable {σ : Type}

/-- The house at the start of a performance: what was printed before and the
input that is left stay as they are. -/
def opening (printed : List CodePoints) (input : σ) : House σ :=
  ⟨[], [], 0, printed, input⟩

/-- Give a character a number. -/
def assign (house : House σ) (name : Option String) (value : Int) : House σ :=
  { house with store := house.store.put name value }

/-- Print a piece of text. -/
def print (house : House σ) (piece : CodePoints) : House σ :=
  { house with printed := piece :: house.printed }

/-- The pieces printed, in the order of printing. -/
def pieces (house : House σ) : List CodePoints :=
  house.printed.reverse

/-- All that has been printed. -/
def output (house : House σ) : CodePoints :=
  house.pieces.flatten

/-- The effect of a statement: the position to which it jumps, if it does, or
the mishap, and the house afterwards. -/
abbrev Effect (σ : Type) := Except Mishap (Option Nat) × House σ

/-- Go on with the next statement. -/
def proceed (house : House σ) : Effect σ := (.ok none, house)

/-- Stop. -/
def stop (house : House σ) (cause : MishapCause) (line : Nat) : Effect σ :=
  (.error ⟨cause, line⟩, house)

/-- Use a value, or stop with the mishap that kept it from being had. -/
def withValue (house : House σ) (value : Except Mishap Int) (use : Int → Effect σ) : Effect σ :=
  match value with
  | .ok number => use number
  | .error mishap => (.error mishap, house)

/-- A character appears: it starts with zero and keeps a stack that it had. -/
def declare (house : House σ) (name : String) : House σ :=
  { house with
    store := house.store.put (some name) 0
    memories :=
      if (house.memories.get? name).isSome then house.memories
      else house.memories.put name [] }

def scanNumber (provider : Provider σ) (house : House σ) (name : String) (line : Nat) : Effect σ :=
  match provider.nextNumber house.input with
  | (.ok number, input) => proceed ({ house with input := input }.assign (some name) number)
  | (.error fault, input) => stop { house with input := input } (.input fault) line

/-- Read a character's code; at the end of the characters it is -1. -/
def scanCharacter (provider : Provider σ) (house : House σ) (name : String) : Effect σ :=
  match provider.nextCharacter house.input with
  | (some character, input) =>
      proceed ({ house with input := input }.assign (some name) character.toNat)
  | (none, input) => proceed ({ house with input := input }.assign (some name) (-1))

/-- Hand a piece over to be printed. -/
def hand (sink : Sink σ) (house : House σ) (piece : Piece) (line : Nat) : Effect σ :=
  match sink.take piece house.input with
  | (.ok text, outside) => proceed ({ house with input := outside }.print text)
  | (.error refusal, outside) => stop { house with input := outside } refusal.cause line

def printNumber (sink : Sink σ) (house : House σ) (name : String) (line : Nat) : Effect σ :=
  house.withValue (house.store.read (some name) line) fun value =>
    hand sink house (.number value) line

def printCharacter (sink : Sink σ) (house : House σ) (name : String) (line : Nat) : Effect σ :=
  house.withValue (house.store.read (some name) line) fun value =>
    if 0 ≤ value ∧ value < codePointBound then hand sink house (.character value.toNat) line
    else house.stop (.quoting value (.unprintable value)) line

def push (house : House σ) (name : String) (value : Expr) : Effect σ :=
  house.withValue (value.evaluate house.store) fun number =>
    proceed
      { house with
        memories := house.memories.put name (number :: (house.memories.get? name).getD []) }

def pop (house : House σ) (name : String) (line : Nat) : Effect σ :=
  match house.memories.get? name with
  | some (number :: others) =>
      proceed ({ house with memories := house.memories.put name others }.assign (some name) number)
  | _ => house.stop (.emptyStack name) line

def jump (labels : Labels) (house : House σ) (tag : String) (line : Nat) : Effect σ :=
  match labels.get? tag with
  | some position => (.ok (some position), house)
  | none => house.stop (.noSuchScene tag) line

def jumpIf (labels : Labels) (house : House σ) (question : Question) (tag : String)
    (line : Nat) : Effect σ :=
  house.withValue (question.lhs.evaluate house.store) fun lhs =>
    house.withValue (question.rhs.evaluate house.store) fun rhs =>
      if question.predicate.holds lhs rhs then jump labels house tag line else proceed house

/-- Carry out one statement. -/
def execute (provider : Provider σ) (sink : Sink σ) (labels : Labels) (statement : Statement)
    (house : House σ) : Effect σ :=
  match statement.action with
  | .scene _ => proceed house
  | .declare name => proceed (house.declare name)
  | .scanNumber name => scanNumber provider house name statement.line
  | .scanCharacter name => scanCharacter provider house name
  | .printCharacter name => printCharacter sink house name statement.line
  | .printNumber name => printNumber sink house name statement.line
  | .push name value => house.push name value
  | .pop name => house.pop name statement.line
  | .assign target _ value =>
      house.withValue (value.evaluate house.store) fun number =>
        proceed (house.assign target number)
  | .jump tag => jump labels house tag statement.line
  | .jumpIf question tag jumpLine => jumpIf labels house question tag jumpLine
  | .ask _ => proceed house
  | .remark _ => proceed house

end House

end Playhouse

/-
Module: Playhouse.Script.State
Purpose: The structure of a play: which part may follow which, and which part a
  token may open.
Main exports: State, NextStates, NextStates.standard, TokenKind.states, TokenKind.keeps
-/
import Playhouse.Token

namespace Playhouse

/-- The parts of a play. -/
inductive State where
  | start
  | title
  | characterDeclaration
  | act
  | scene
  | stage
  | characterSpeaking
  | dialogue
deriving Repr, Inhabited, DecidableEq

namespace State

def all : List State :=
  [start, title, characterDeclaration, act, scene, stage, characterSpeaking, dialogue]

/-- The name of a part in messages about the table of parts. -/
def label : State → String
  | start => "START"
  | title => "TITLE"
  | characterDeclaration => "CHARACTER_DECLARATION"
  | act => "ACT"
  | scene => "SCENE"
  | stage => "STAGE"
  | characterSpeaking => "CHARACTER_SPEAKING"
  | dialogue => "DIALOGUE"

/-- The name of a part in messages about a play. -/
def name : State → String
  | start => "start"
  | title => "title"
  | characterDeclaration => "character_declaration"
  | act => "act"
  | scene => "scene"
  | stage => "stage"
  | characterSpeaking => "character_speaking"
  | dialogue => "dialogue"

def ofLabel? (label : String) : Option State :=
  all.find? fun state => state.label == label

end State

/-- Which parts may follow a part. -/
abbrev NextStates := State → List State

/-- The structure of a play: a title, the characters, then acts made of scenes,
in which stage directions and speeches alternate. -/
def NextStates.standard : NextStates
  | .start => [.title]
  | .title => [.characterDeclaration]
  | .characterDeclaration => [.characterDeclaration, .act]
  | .act => [.scene]
  | .scene => [.scene, .stage, .characterSpeaking]
  | .stage => [.stage, .characterSpeaking, .scene, .act]
  | .characterSpeaking => [.characterSpeaking, .dialogue]
  | .dialogue => [.dialogue, .stage, .characterSpeaking, .act, .scene]

/-- The parts that a token may open. -/
def TokenKind.states : TokenKind → List State
  | act _ _ => [.act]
  | scene _ _ => [.scene]
  | enter _ | exit _ => [.stage]
  | speaking _ => [.characterSpeaking]
  | printNumber | printCharacter | scanNumber | scanCharacter | jump _ | conditionalJump _ _
  | pushStack | popStack => [.dialogue]
  | lexeme _ | other _ => [.dialogue, .characterDeclaration, .title]

/-- Whether a token goes on with the part that has been under way. -/
def TokenKind.keeps (kind : TokenKind) (state : State) : Bool :=
  match state, kind with
  | .characterDeclaration, lexeme (.character _) => true
  | .scene, scene _ _ => true
  | .stage, enter _ => true
  | .stage, exit _ => true
  | .dialogue, lexeme _ => true
  | _, _ => false

end Playhouse

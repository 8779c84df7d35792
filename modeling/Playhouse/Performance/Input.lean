/-
Module: Playhouse.Performance.Input
Purpose: Where a performance takes its numbers and characters from.
Main exports: Provider, Prompter, Prompter.provider, Console, Console.provider,
  Silence, Silence.provider
-/
import Playhouse.Performance.Mishap
import Playhouse.Text.Blank

namespace Playhouse

open Text

/-- A source of input with a state of its own.  At the end of the characters
there is none. -/
structure Provider (σ : Type) where
  nextNumber : σ → Except InputFault Int × σ
  nextCharacter : σ → Option Char × σ

/-! ### Prepared input -/

/-- Numbers and characters prepared in advance. -/
structure Prompter where
  numbers : List Int
  characters : List Char
deriving Repr, Inhabited, DecidableEq

def Prompter.nextNumber (prompter : Prompter) : Except InputFault Int × Prompter :=
  match prompter.numbers with
  | [] => (.error .noNumberLeft, prompter)
  | number :: rest => (.ok number, { prompter with numbers := rest })

def Prompter.nextCharacter (prompter : Prompter) : Option Char × Prompter :=
  match prompter.characters with
  | [] => (none, prompter)
  | character :: rest => (some character, { prompter with characters := rest })

def Prompter.provider : Provider Prompter :=
  ⟨Prompter.nextNumber, Prompter.nextCharacter⟩

/-! ### A stream of characters -/

/-- A stream from which characters are read one by one and numbers line by line. -/
structure Console where
  stream : List Char
deriving Repr, Inhabited, DecidableEq

/-- The first line of a stream, its line feed included, and what follows. -/
def takeLine : List Char → List Char × List Char
  | [] => ([], [])
  | c :: rest =>
      if c == '\n' then ([c], rest)
      else
        let (line, after) := takeLine rest
        (c :: line, after)

/-- Take a line and read it as a number; the line is gone even if it holds none. -/
def Console.nextNumber (console : Console) : Except InputFault Int × Console :=
  match takeLine console.stream with
  | ([], after) => (.error .endOfInput, ⟨after⟩)
  | (line, after) =>
      match readInteger (strip line) with
      | .ok number => (.ok number, ⟨after⟩)
      | .error _ => (.error (.notANumber (strip line)), ⟨after⟩)

def Console.nextCharacter (console : Console) : Option Char × Console :=
  match console.stream with
  | [] => (none, console)
  | character :: rest => (some character, ⟨rest⟩)

def Console.provider : Provider Console :=
  ⟨Console.nextNumber, Console.nextCharacter⟩

/-! ### No input -/

/-- Input that never ends and says nothing. -/
structure Silence where
deriving Repr, Inhabited, DecidableEq

/-- Every number is zero, and so is the code of every character. -/
def Silence.provider : Provider Silence :=
  ⟨fun silence => (.ok 0, silence), fun silence => (some (Char.ofNat 0), silence)⟩

end Playhouse

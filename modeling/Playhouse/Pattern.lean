/-
Module: Playhouse.Pattern
Purpose: Patterns that recognise the beginning of a text, with ordered choice
  and full backtracking.
Main exports: Appetite, Pattern, Pattern.fill, Mark, Pattern.run, Found, Pattern.match?
-/
import Playhouse.Text.WordCharacter

namespace Playhouse

open Text

/-!
A pattern is tried at one place of a text and may fit in several ways.  The ways
are tried in a fixed order: an eager repetition takes as much as it can and
gives back one character at a time, a reluctant one starts with as little as it
may, and of two alternatives the first is exhausted before the second.  The
first way that lets the rest of the pattern fit wins.
-/

/-- Whether a repetition tries long stretches first or short ones. -/
inductive Appetite where
  | eager
  | reluctant
deriving Repr, Inhabited, DecidableEq

/-- Patterns with places left open for word classes, named by `κ`. -/
inductive Pattern (κ : Type) where
  /-- Fits the empty stretch. -/
  | nothing
  /-- Fits one character of a kind. -/
  | one (kind : Char → Bool)
  /-- Fits a stretch of characters of one kind, at least `least` and, if a bound
  is given, at most `most` of them. -/
  | many (kind : Char → Bool) (least : Nat) (most : Option Nat) (appetite : Appetite)
  /-- Fits the empty stretch where a word begins or ends. -/
  | edge
  /-- Fits the empty stretch in front of a character of a kind. -/
  | ahead (kind : Char → Bool)
  /-- A place left open for the words of a class. -/
  | slot (key : κ)
  /-- Fits what `body` fits and keeps the stretch for later. -/
  | group (body : Pattern κ)
  /-- One pattern after another. -/
  | seq (first second : Pattern κ)
  /-- The first pattern or, failing that, the second. -/
  | alt (first second : Pattern κ)

namespace Pattern

instance {κ : Type} : Append (Pattern κ) := ⟨Pattern.seq⟩

/-- Put patterns into the open places, from left to right, stopping at the first
place that cannot be filled. -/
def fill {κ ε : Type} (contents : κ → Except ε (Pattern Empty)) :
    Pattern κ → Except ε (Pattern Empty)
  | nothing => .ok nothing
  | one kind => .ok (one kind)
  | many kind least most appetite => .ok (many kind least most appetite)
  | edge => .ok edge
  | ahead kind => .ok (ahead kind)
  | slot key => contents key
  | group body => do
      let filled ← body.fill contents
      pure (group filled)
  | seq first second => do
      let filledFirst ← first.fill contents
      let filledSecond ← second.fill contents
      pure (seq filledFirst filledSecond)
  | alt first second => do
      let filledFirst ← first.fill contents
      let filledSecond ← second.fill contents
      pure (alt filledFirst filledSecond)

/-- The open places of a pattern from left to right. -/
def slots {κ : Type} : Pattern κ → List κ
  | slot key => [key]
  | group body => body.slots
  | seq first second | alt first second => first.slots ++ second.slots
  | _ => []

end Pattern

/-! ### Recognition -/

/-- How far a recognition has come. -/
structure Mark where
  /-- The character just passed. -/
  before : Option Char
  /-- The number of characters passed since the start. -/
  passed : Nat
  /-- Where the stretches kept so far start and end, counted in characters passed. -/
  kept : List (Nat × Nat)
deriving Repr, Inhabited, DecidableEq

/-- The mark after passing one more character. -/
def Mark.pass (mark : Mark) (c : Char) : Mark :=
  { mark with before := some c, passed := mark.passed + 1 }

/-- Whether a word begins or ends between two neighbouring characters; outside
the text there is no word. -/
def isEdge (before after : Option Char) : Bool :=
  before.any isWordCharacter != after.any isWordCharacter

namespace Pattern

variable {α : Type}

/-- Go on with `next` here, provided that no more repetitions are owed. -/
def settle (next : Mark → List Char → Option α) (least : Nat) (mark : Mark)
    (rest : List Char) : Option α :=
  if least = 0 then next mark rest else none

/-- Repeat while the kind allows, longest stretch first. -/
def runEager (kind : Char → Bool) (next : Mark → List Char → Option α)
    (least : Nat) (most : Option Nat) (mark : Mark) : List Char → Option α
  | [] => settle next least mark []
  | c :: rest =>
      if most ≠ some 0 ∧ kind c = true then
        match runEager kind next (least - 1) (most.map (· - 1)) (mark.pass c) rest with
        | some result => some result
        | none => settle next least mark (c :: rest)
      else settle next least mark (c :: rest)

/-- Repeat while the kind allows, shortest stretch first. -/
def runReluctant (kind : Char → Bool) (next : Mark → List Char → Option α)
    (least : Nat) (most : Option Nat) (mark : Mark) : List Char → Option α
  | [] => settle next least mark []
  | c :: rest =>
      match settle next least mark (c :: rest) with
      | some result => some result
      | none =>
          if most ≠ some 0 ∧ kind c = true then
            runReluctant kind next (least - 1) (most.map (· - 1)) (mark.pass c) rest
          else none

/-- Try the ways in which a pattern fits the beginning of `rest`, in order, and
give the first result that `next` finds after one of them. -/
def run : Pattern Empty → (Mark → List Char → Option α) → Mark → List Char → Option α
  | nothing, next, mark, rest => next mark rest
  | one kind, next, mark, rest =>
      match rest with
      | [] => none
      | c :: tail => if kind c then next (mark.pass c) tail else none
  | many kind least most .eager, next, mark, rest =>
      runEager kind next least most mark rest
  | many kind least most .reluctant, next, mark, rest =>
      runReluctant kind next least most mark rest
  | edge, next, mark, rest =>
      if isEdge mark.before rest.head? then next mark rest else none
  | ahead kind, next, mark, rest =>
      if rest.head?.any kind then next mark rest else none
  | group body, next, mark, rest =>
      body.run
        (fun inner tail =>
          next { inner with kept := inner.kept ++ [(mark.passed, inner.passed)] } tail)
        mark rest
  | seq first second, next, mark, rest =>
      first.run (fun inner tail => second.run next inner tail) mark rest
  | alt first second, next, mark, rest =>
      match first.run next mark rest with
      | some result => some result
      | none => second.run next mark rest

end Pattern

/-- A recognised stretch and the parts of it that were kept. -/
structure Found where
  text : List Char
  groups : List (List Char)
deriving Repr, Inhabited, DecidableEq

/-- The stretch of a text between two places. -/
def stretch (text : List Char) (place : Nat × Nat) : List Char :=
  (text.drop place.1).take (place.2 - place.1)

/-- Recognise a pattern at the beginning of `rest`, where `before` is the
character in front of it. -/
def Pattern.match? (pattern : Pattern Empty) (before : Option Char) (rest : List Char) :
    Option Found :=
  (pattern.run (fun mark _ => some mark) ⟨before, 0, []⟩ rest).map fun mark =>
    ⟨rest.take mark.passed, mark.kept.map (stretch rest)⟩

end Playhouse

/-
Module: Playhouse.Pattern.Reader
Purpose: Reading patterns from their written form, character by character.
Main exports: Flags, Matcher, Pattern.matcher, Item, sequence, Draft, Draft.step, Draft.finish,
  readWritten, readPattern
-/
import Playhouse.Breakdown
import Playhouse.Pattern.Phrase

namespace Playhouse

open Text

/-! ### What a written pattern is read as -/

/-- The marks that say how a written pattern is to be read, as their sum. -/
structure Flags where
  sum : Int
deriving DecidableEq

/-- The mark of a pattern that does not tell small letters from capitals. -/
def Flags.ofCaseless (caseless : Bool) : Flags :=
  ⟨if caseless then 2 else 0⟩

instance : Coe Bool Flags := ⟨Flags.ofCaseless⟩

/-- Something that finds a stretch of a text where it is asked to: between the characters
already passed and those that are left.  What it finds is at the start of what is left. -/
structure Matcher where
  find : (passed rest : List Char) → Option Found
  begins : ∀ {passed rest : List Char} {found : Found}, find passed rest = some found →
    found.text <+: rest

/-- A pattern at work. -/
def Pattern.matcher (pattern : Pattern Empty) : Matcher where
  find passed rest := pattern.match? passed.getLast? rest
  begins isFound := by
    obtain ⟨mark, -, rfl⟩ := Option.map_eq_some_iff.mp isFound
    exact List.take_prefix _ _

/-! ### Drafts -/

/-!
A written pattern is read from left to right.  What has been read of it is a draft: the items
of the alternative that is being read, the alternatives in front of it, and the same for every
group around it that is still open.
-/

/-- An item of a written pattern.  A single place may become a repetition by the sign behind
it, and a repetition may become a reluctant one. -/
inductive Item where
  | place (kind : Char → Bool)
  | repeated (kind : Char → Bool) (least : Nat) (most : Option Nat)
  | whole (pattern : Pattern Empty)

def Item.pattern : Item → Pattern Empty
  | place kind => .one kind
  | repeated kind least most => .many kind least most .eager
  | whole pattern => pattern

/-- Items one after the other.  The last one comes first. -/
def sequence (items : List Item) : Pattern Empty :=
  items.foldl (fun behind item => .seq item.pattern behind) .nothing

/-- What a group is for: its stretch is kept or not, or only looked at. -/
inductive Enclosure where
  | kept
  | unkept
  | ahead
deriving DecidableEq

/-- An open group: where it was opened, and what stands in front of it. -/
structure Frame where
  enclosure : Enclosure
  position : Nat
  choices : List (Pattern Empty)
  items : List Item

/-- A set of characters in square brackets, as far as it has been read. -/
structure CharacterSet where
  /-- Where it was opened. -/
  position : Nat
  /-- Whether it is the other characters that are meant, if that is settled. -/
  negated : Option Bool
  kinds : List (Char → Bool)
  /-- The last single character, from which a range may go on. -/
  last : Option Char
  /-- Whether a hyphen stands behind that character. -/
  hyphen : Bool
  /-- Whether a backslash was the last to be read. -/
  escaped : Bool

/-- What the next character of a written pattern belongs to. -/
inductive Mode where
  | plain
  | escaped
  /-- A group that was just opened. -/
  | opened
  /-- A group that was opened with a question mark. -/
  | marked
  | set (set : CharacterSet)
  | count (text : List Char)

/-- A written pattern, as far as it has been read.  Alternatives and items come last one
first, and so do the open groups. -/
structure Draft where
  mode : Mode
  frames : List Frame
  choices : List (Pattern Empty)
  items : List Item
  position : Nat

/-- A complaint about a written pattern. -/
def misprint (message : String) (position : Nat) : Breakdown :=
  ⟨"error", message ++ " at position " ++ toString position⟩

/-- The complaint about a notation that is not read here. -/
def unknownNotation (position : Nat) : Breakdown :=
  ⟨"NotImplementedError", "notation at position " ++ toString position⟩

/-! ### Sets of characters -/

/-- The characters from one to another, with or without regard to case. -/
def rangeKind (caseless : Bool) (first last : Char) (c : Char) : Bool :=
  if caseless then
    (List.range (last.toNat + 1 - first.toNat)).any fun distance =>
      sameLetter (Char.ofNat (first.toNat + distance)) c
  else first ≤ c && c ≤ last

namespace CharacterSet

/-- The kinds that a set names, with its last character and its hyphen. -/
def allKinds (caseless : Bool) (set : CharacterSet) : List (Char → Bool) :=
  set.kinds ++ (set.last.map (letterKind caseless)).toList ++
    (if set.hyphen then [letterKind caseless '-'] else [])
where
  letterKind := Pattern.letterKind

/-- The characters that a set admits. -/
def kind (caseless : Bool) (set : CharacterSet) (c : Char) : Bool :=
  let isNamed := (set.allKinds caseless).any fun kind => kind c
  if set.negated = some true then !isNamed else isNamed

/-- A set with one more kind of characters. -/
def withKind (caseless : Bool) (set : CharacterSet) (kind : Char → Bool) : CharacterSet :=
  { set with
    negated := some (set.negated.getD false)
    kinds := set.allKinds caseless ++ [kind], last := none, hyphen := false, escaped := false }

/-- A set with one more character, which may be the end of a range. -/
def withCharacter (caseless : Bool) (set : CharacterSet) (c : Char) :
    Except Breakdown CharacterSet :=
  match set.last, set.hyphen with
  | some first, true =>
      if first ≤ c then
        .ok ({ set with last := none, hyphen := false }.withKind caseless
          (rangeKind caseless first c))
      else .error (misprint ("bad character range " ++ String.ofList [first, '-', c]) set.position)
  | last, _ =>
      .ok
        { set with
          negated := some (set.negated.getD false)
          kinds := set.kinds ++ (last.map (Pattern.letterKind caseless)).toList
          last := some c, escaped := false }

end CharacterSet

/-! ### One character after another -/

namespace Draft

/-- The draft of a pattern of which nothing has been read. -/
def empty : Draft :=
  ⟨.plain, [], [], [], 0⟩

/-- A draft with one more item. -/
def put (draft : Draft) (item : Item) : Draft :=
  { draft with mode := .plain, items := item :: draft.items }

/-- The alternatives of the innermost group. -/
def alternatives (draft : Draft) : List (Pattern Empty) :=
  (sequence draft.items :: draft.choices).reverse

/-- Open a group. -/
def enter (draft : Draft) (enclosure : Enclosure) (position : Nat) : Draft :=
  { draft with
    mode := .plain, frames := ⟨enclosure, position, draft.choices, draft.items⟩ :: draft.frames
    choices := [], items := [] }

/-- Close the innermost group. -/
def close (draft : Draft) : Except Breakdown Draft :=
  match draft.frames with
  | [] => .error (misprint "unbalanced parenthesis" draft.position)
  | frame :: frames =>
      let around (item : Item) : Draft :=
        { draft with frames := frames, choices := frame.choices, items := item :: frame.items }
      match frame.enclosure with
      | .kept => .ok (around (.whole (.group (.choice draft.alternatives))))
      | .unkept => .ok (around (.whole (.choice draft.alternatives)))
      | .ahead =>
          match draft.choices, draft.items with
          | [], [.place kind] => .ok (around (.whole (.ahead kind)))
          | _, _ => .error (unknownNotation draft.position)

/-- Repeat the last item. -/
def repeatLast (draft : Draft) (least : Nat) (most : Option Nat) : Except Breakdown Draft :=
  match draft.items with
  | [] => .error (misprint "nothing to repeat" draft.position)
  | .place kind :: items => .ok ({ draft with items := items }.put (.repeated kind least most))
  | .repeated _ _ _ :: _ => .error (misprint "multiple repeat" draft.position)
  | .whole _ :: _ => .error (unknownNotation draft.position)

/-- A question mark: the last item may be missing, or its repetition is reluctant. -/
def query (draft : Draft) : Except Breakdown Draft :=
  match draft.items with
  | .repeated kind least most :: items =>
      .ok ({ draft with items := items }.put (.whole (.many kind least most .reluctant)))
  | _ => draft.repeatLast 0 (some 1)

/-- The value of some decimal digits. -/
def valueOf (digits : List Char) : Nat :=
  digits.foldl (fun value digit => 10 * value + (digit.toNat - 48)) 0

/-- The bounds of a repetition, as they stand between braces. -/
def bounds? (text : List Char) : Option (Nat × Option Nat) :=
  let least := text.takeWhile Char.isDigit
  match text.dropWhile Char.isDigit with
  | [] => if least.isEmpty then none else some (valueOf least, some (valueOf least))
  | ',' :: most =>
      if most.all Char.isDigit && !(least.isEmpty && most.isEmpty) then
        some (valueOf least, if most.isEmpty then none else some (valueOf most))
      else none
  | _ => none

/-- The signs of the notation. -/
def isSign (c : Char) : Bool :=
  ['\\', '[', '(', ')', '|', '.', '*', '+', '?', '^', '$', '\x7b'].contains c

/-- Read a sign. -/
def readSign (draft : Draft) (c : Char) : Except Breakdown Draft :=
  match c with
  | '\\' => .ok { draft with mode := .escaped }
  | '[' => .ok { draft with mode := .set ⟨draft.position, none, [], none, false, false⟩ }
  | '(' => .ok { draft with mode := .opened }
  | ')' => draft.close
  | '|' => .ok { draft with choices := sequence draft.items :: draft.choices, items := [] }
  | '.' => .ok (draft.put (.place (· != '\n')))
  | '*' => draft.repeatLast 0 none
  | '+' => draft.repeatLast 1 none
  | '?' => draft.query
  | '\x7b' => .ok { draft with mode := .count [] }
  | _ => .error (unknownNotation draft.position)

/-- Read a character that belongs to nothing in front of it. -/
def readPlain (caseless : Bool) (draft : Draft) (c : Char) : Except Breakdown Draft :=
  if isSign c then draft.readSign c
  else .ok (draft.put (.place (Pattern.letterKind caseless c)))

/-- Read a character behind a backslash.  Letters and digits have a meaning there, and all
other characters stand for themselves. -/
def readEscaped (caseless : Bool) (draft : Draft) (c : Char) : Except Breakdown Draft :=
  if c.isAlphanum then
    match c with
    | 's' => .ok (draft.put (.place isBlank))
    | 'S' => .ok (draft.put (.place (!isBlank ·)))
    | 'w' => .ok (draft.put (.place isWordCharacter))
    | 'W' => .ok (draft.put (.place (!isWordCharacter ·)))
    | 'b' => .ok (draft.put (.whole .edge))
    | _ =>
        if c.isDigit || "ABDZdafnrtuUvxN".toList.contains c then
          .error (unknownNotation draft.position)
        else .error (misprint ("bad escape \\" ++ c.toString) (draft.position - 1))
  else .ok (draft.put (.place (Pattern.letterKind caseless c)))

/-- Read a character inside square brackets. -/
def readInSet (caseless : Bool) (draft : Draft) (set : CharacterSet) (c : Char) :
    Except Breakdown Draft :=
  let goOn (set : CharacterSet) : Draft := { draft with mode := .set set }
  if set.escaped then
    if c.isAlphanum then
      if set.hyphen then .error (unknownNotation draft.position)
      else
        match c with
        | 's' => .ok (goOn (set.withKind caseless isBlank))
        | 'w' => .ok (goOn (set.withKind caseless isWordCharacter))
        | 't' => (set.withCharacter caseless '\t').map goOn
        | 'n' => (set.withCharacter caseless '\n').map goOn
        | _ => .error (unknownNotation draft.position)
    else (set.withCharacter caseless c).map goOn
  else
    match c with
    | '\\' => .ok (goOn { set with escaped := true })
    | ']' =>
        -- The first character of a set belongs to it, whatever it is.
        if set.kinds.isEmpty && set.last.isNone then (set.withCharacter caseless c).map goOn
        else .ok (draft.put (.place (set.kind caseless)))
    | '^' =>
        if set.negated.isNone then .ok (goOn { set with negated := some true })
        else (set.withCharacter caseless c).map goOn
    | '-' =>
        if set.last.isSome && !set.hyphen then .ok (goOn { set with hyphen := true })
        else (set.withCharacter caseless c).map goOn
    | _ => (set.withCharacter caseless c).map goOn

/-- Read one character. -/
def readNext (caseless : Bool) (draft : Draft) (c : Char) : Except Breakdown Draft :=
  match draft.mode with
  | .plain => draft.readPlain caseless c
  | .escaped => draft.readEscaped caseless c
  | .opened =>
      if c = '?' then .ok { draft with mode := .marked }
      else (draft.enter .kept (draft.position - 1)).readPlain caseless c
  | .marked =>
      match c with
      | ':' => .ok (draft.enter .unkept (draft.position - 2))
      | '=' => .ok (draft.enter .ahead (draft.position - 2))
      | _ => .error (unknownNotation draft.position)
  | .set set => draft.readInSet caseless set c
  | .count text =>
      if c = '\x7d' then
        match bounds? text.reverse with
        | some (least, most) =>
            if most.any (· < least) then
              .error (misprint "min repeat greater than max repeat" (draft.position - text.length))
            else { draft with mode := .plain }.repeatLast least most
        | none => .error (unknownNotation draft.position)
      else .ok { draft with mode := .count (c :: text) }

/-- Read one character and count it. -/
def step (caseless : Bool) (draft : Draft) (c : Char) : Except Breakdown Draft := do
  let next ← draft.readNext caseless c
  pure { next with position := draft.position + 1 }

/-- Read a text. -/
def readAll (caseless : Bool) (draft : Draft) (text : List Char) : Except Breakdown Draft :=
  text.foldlM (step caseless) draft

/-- The pattern of a draft, at the end of the writing. -/
def finish (draft : Draft) : Except Breakdown (Pattern Empty) :=
  match draft.mode, draft.frames with
  | .plain, [] => .ok (.choice draft.alternatives)
  | .plain, frame :: _ =>
      .error (misprint "missing ), unterminated subpattern" frame.position)
  | .escaped, _ => .error (misprint "bad escape (end of pattern)" (draft.position - 1))
  | .opened, _ => .error (misprint "missing ), unterminated subpattern" (draft.position - 1))
  | .marked, _ => .error (misprint "unexpected end of pattern" draft.position)
  | .set set, _ => .error (misprint "unterminated character set" set.position)
  | .count _, _ => .error (unknownNotation draft.position)

end Draft

/-! ### Reading -/

/-- Read a written pattern, with or without regard to case. -/
def readWritten (caseless : Bool) (text : List Char) : Except Breakdown (Pattern Empty) := do
  let draft ← Draft.empty.readAll caseless text
  draft.finish

/-- Read a written pattern with the marks that belong to it.  The first mark disregards case,
and another is for all scripts and changes nothing.  One mark is for bytes only, and one is
for a single script. -/
def readPattern (text : String) (flags : Flags) : Except Breakdown Matcher := do
  let isSet (bit : Nat) : Bool := flags.sum.toNat.testBit bit
  let pattern ← readWritten (isSet 1) text.toList
  if isSet 2 then throw (.badValue "cannot use LOCALE flag with a str pattern")
  if isSet 5 && isSet 8 then throw (.badValue "ASCII and UNICODE flags are incompatible")
  if flags.sum.toNat ∉ [0, 2, 32, 34] then throw (unknownNotation 0)
  pure pattern.matcher

end Playhouse

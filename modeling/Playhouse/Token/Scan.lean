/-
Module: Playhouse.Token.Scan
Purpose: Cutting a source text into tokens.
Main exports: FilledRule, Vocabulary.fill, Step, Scan, scanFrom, scan, Scan.tokens
-/
import Playhouse.Lexicon.Shelf
import Playhouse.Token.Rule

namespace Playhouse

/-!
At every place of the source the rules are tried in order, and the first one
that finds a non-empty stretch wins.  Where no rule finds anything, a single
character becomes a token of its own.  Every step therefore moves forward, and
the steps together cover the source without gap or overlap.

The lists behind a rule's word classes matter only once the rule is tried, so a
list that cannot be had does no harm before that.
-/

/-- A rule with the words of its classes filled in, or the reason why they
cannot be had. -/
structure FilledRule where
  categories : List Category
  pattern : Except LexiconFault (Pattern Empty)
  build : Found → Option TokenKind

/-- Fill the words of a vocabulary into a rule. -/
def Vocabulary.fill (vocabulary : Vocabulary) (rule : Rule) : FilledRule :=
  { categories := rule.pattern.slots
    pattern :=
      rule.pattern.fill fun category => do
        let list ← vocabulary.list category
        pure (list.pattern rule.caseless)
    build := rule.build }

/-- One step through the source. -/
structure Step where
  /-- The stretch of source that the step covers. -/
  text : List Char
  /-- The line on which the stretch starts. -/
  line : Nat
  /-- The token made from it, unless it is skipped. -/
  kind : Option TokenKind
  /-- The number of rules tried, the successful one included. -/
  tried : Nat
deriving Repr, Inhabited, DecidableEq

/-- The token of a step. -/
def Step.token? (step : Step) : Option Token :=
  step.kind.map fun kind => ⟨kind, step.line⟩

/-- What the rules make of the text at one place: a stretch with its token, or
nothing, after a number of rules. -/
inductive Attempt where
  | found (text : List Char) (kind : Option TokenKind) (tried : Nat)
  | unknown (tried : Nat)
  | blocked (fault : LexiconFault) (tried : Nat)
deriving Repr, Inhabited

/-- Try rules in order.  `tried` counts the rules tried before. -/
def attempt (before : Option Char) (rest : List Char) (tried : Nat) :
    List FilledRule → Attempt
  | [] => .unknown tried
  | rule :: rules =>
      match rule.pattern with
      | .error fault => .blocked fault tried
      | .ok pattern =>
          match pattern.match? before rest with
          | some found =>
              if found.text.isEmpty then attempt before rest (tried + 1) rules
              else .found found.text (rule.build found) (tried + 1)
          | none => attempt before rest (tried + 1) rules

/-- The steps through a source, up to its end or to the first list that cannot
be had. -/
structure Scan where
  steps : List Step
  /-- The failure that stopped the scan, and the number of rules tried without
  failure at that place. -/
  obstacle : Option (LexiconFault × Nat)
deriving Repr, Inhabited

/-- Put a step in front of a scan. -/
def Scan.cons (step : Step) (scan : Scan) : Scan :=
  { scan with steps := step :: scan.steps }

/-- The number of line feeds in a text. -/
def countNewlines (text : List Char) : Nat :=
  text.count '\n'

/-- Scan the rest of a source, which starts on `line` behind the character
`before`. -/
def scanFrom (rules : List FilledRule) (before : Option Char) (line : Nat)
    (rest : List Char) : Scan :=
  match rest with
  | [] => ⟨[], none⟩
  | c :: tail =>
      match attempt before (c :: tail) 0 rules with
      | .blocked fault tried => ⟨[], some (fault, tried)⟩
      | .unknown tried =>
          Scan.cons ⟨[c], line, some (.other c), tried⟩
            (scanFrom rules (some c) (line + countNewlines [c]) tail)
      | .found text kind tried =>
          Scan.cons ⟨text, line, kind, tried⟩
            (scanFrom rules (text.getLast?.or before) (line + countNewlines text)
              (tail.drop (text.length - 1)))
termination_by rest.length
decreasing_by
  all_goals simp only [List.length_drop, List.length_cons]; omega

/-- Scan a source with a table of rules. -/
def scan (table : List Rule) (vocabulary : Vocabulary) (source : List Char) : Scan :=
  scanFrom (table.map vocabulary.fill) none 1 source

namespace Scan

/-- The tokens of a scan, unless it was stopped. -/
def tokens (scan : Scan) : Except LexiconFault (List Token) :=
  match scan.obstacle with
  | some (fault, _) => .error fault
  | none => .ok (scan.steps.filterMap Step.token?)

/-- The greatest number of rules tried without failure at any place. -/
def reach (scan : Scan) : Nat :=
  (scan.steps.map Step.tried).foldl max ((scan.obstacle.map Prod.snd).getD 0)

/-- The word classes that were asked for, in the order of asking.  Rules are
tried from the top at every place, so this is the order of the table; of the
rule that could not be filled, the classes in front of the missing one were
asked for too. -/
def consulted (table : List Rule) (scan : Scan) : List Category :=
  let tried := (table.take scan.reach).flatMap fun rule => rule.pattern.slots
  match scan.obstacle with
  | some (.unreadable _ missing _, place) =>
      let blocked := ((table[place]?).map fun rule => rule.pattern.slots).getD []
      tried ++ blocked.takeWhile (· != missing)
  | _ => tried

end Scan

/-- The tokens of a source. -/
def tokenize (vocabulary : Vocabulary) (source : String) : Except LexiconFault (List Token) :=
  (scan Rule.table vocabulary source.toList).tokens

end Playhouse

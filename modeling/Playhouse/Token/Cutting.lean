/-
Module: Playhouse.Token.Cutting
Purpose: Cutting a source text into tokens by rules as they are written, with a lexicon that
  reads their patterns and keeps them.
Main exports: WrittenRule, WrittenRule.table, Slice, Obstacle, Cutting, Lexicon.findRule,
  cutFrom, cut
-/
import Playhouse.Lexicon
import Playhouse.Token.Scan

namespace Playhouse

/-!
A rule is written with a template for its pattern, and the lexicon is asked for that pattern
whenever the rule is tried.  Most of the time the lexicon has it already.  The token is made
by the rule itself: it is told what was found, where, and on which line, and it may break down.
-/

/-- One rule as it is written. -/
structure WrittenRule where
  template : String
  flags : Flags
  /-- The token made from what the pattern finds at the start of `rest`, on a line.  Without
  a token, what was found is skipped. -/
  build : (passed rest : List Char) → Found → Nat → Except Breakdown (Option Token)

/-- Write a rule down. -/
def Rule.written (template : String) (flags : Flags) (rule : Rule) : WrittenRule where
  template := template
  flags := flags
  build _ _ found line := .ok ((rule.build found).map fun kind => ⟨kind, line⟩)

/-! ### The table in writing -/

namespace Template

open Category (placeholder)

/-- A Roman numeral. -/
def numeral : String :=
  "(?=[MDCLXVI])M\x7b0,4\x7d(?:CM|CD|D?C\x7b0,3\x7d)(?:XC|XL|L?X\x7b0,3\x7d)" ++
    "(?:IX|IV|V?I\x7b0,3\x7d)"

/-- A free word. -/
def word : String := "[\\w\x27/-]+"

/-- A character's name in front of a speech. -/
def name : String := "[A-Za-z][A-Za-z \\t]*?"

/-- The words that send the play to another scene. -/
def jump : String :=
  "(?:let\\s+us|we\\s+must|we\\s+shall)\\s+(?:proceed|return)\\s+to\\s+scene\\s+(" ++ numeral ++
    ")\\s*[.!?]"

/-!
The templates follow with their flags.  The first flag is that of a pattern in which a small
letter and a capital are the same.
-/

/-- White space, headings, stage directions and speakers. -/
def structural : List (String × Bool) :=
  [("\\s+", false),
    ("Act (" ++ numeral ++ "): (.*)", false),
    ("Scene (" ++ numeral ++ "): (.*)", false),
    ("\\[\\s*Enter\\s+([A-Za-z\\s]+?)\\s+and\\s+([A-Za-z\\s]+?)\\s*\\]", false),
    ("\\[\\s*Enter\\s+([A-Za-z\\s]+?)\\s*\\]", false),
    ("\\[\\s*Exeunt\\s+([A-Za-z\\s]+?)\\s+and\\s+([A-Za-z\\s]+?)\\s*\\]", false),
    ("\\[\\s*(?:Exit|Exeunt)\\s+([A-Za-z\\s]+?)\\s*\\]", false),
    ("\\[\\s*Exeunt\\s*\\]", false),
    ("(" ++ name ++ ")\\s*:", false)]

/-- Commands of one fixed sentence each. -/
def commands : List (String × Bool) :=
  [("Listen\\s+to\\s+" ++ placeholder .secondPersonPossessive ++ "\\s+heart\\s*[.!?]", true),
    ("Open\\s+" ++ placeholder .secondPersonPossessive ++ "\\s+mind\\s*[.!?]", true),
    ("Speak\\s+" ++ placeholder .secondPersonPossessive ++ "\\s+mind\\s*[.!?]", true),
    ("Open\\s+" ++ placeholder .secondPersonPossessive ++ "\\s+heart\\s*[.!?]", true)]

/-- Phrases for arithmetic. -/
def operations : List (String × Bool) :=
  [("the\\s+product\\s+of|the\\s+sum\\s+of|the\\s+remainder\\s+of\\s+the\\s+quotient\\s+between" ++
      "|the\\s+quotient\\s+between|the\\s+difference\\s+between", true),
    ("the\\s+square\\s+of|the\\s+cube\\s+of|twice\\b|the\\s+square\\s+root\\s+of", true)]

/-- Jumps, and the conjunction that joins two operands. -/
def jumps : List (String × Bool) :=
  [("If\\s+so,\\s*" ++ jump, true),
    ("If\\s+not,\\s*" ++ jump, true),
    ("and\\b", false),
    (jump, true)]

/-- Phrases for comparisons. -/
def comparisons : List (String × Bool) :=
  [("as\\s+" ++ word ++ "\\s+as\\b", true),
    (placeholder .positiveComparative ++ "\\s+than\\b", true),
    ("more\\s+" ++ word ++ "\\s+than\\b", true),
    (placeholder .negativeComparative ++ "\\s+than\\b", true),
    ("less\\s+" ++ word ++ "\\s+than\\b", true)]

/-- Putting away and taking back. -/
def memories : List (String × Bool) :=
  [("Remember\\b", true), ("Recall\\b[^.!?]*[.!?]", true)]

/-- The word classes. -/
def classes : List (String × Bool) :=
  [(placeholder .character, true),
    (placeholder .secondPerson, true),
    (placeholder .secondPersonReflexive, true),
    (placeholder .firstPerson, true),
    (placeholder .firstPersonReflexive, true),
    (placeholder .secondPersonPossessive, true),
    (placeholder .firstPersonPossessive, true),
    (placeholder .thirdPersonPossessive, true),
    (placeholder .be, true),
    (placeholder .article, true)]

/-- Free words and the marks that end a sentence. -/
def remainders : List (String × Bool) :=
  [(word, false), ("[.!?]", false)]

/-- The templates of the table with their flags, in its order. -/
def table : List (String × Bool) :=
  structural ++ commands ++ operations ++ jumps ++ comparisons ++ memories ++ classes ++ remainders

end Template

/-- All rules in writing, in the order in which they are tried. -/
def WrittenRule.table : List WrittenRule :=
  List.zipWith (fun template rule => rule.written template.1 template.2) Template.table Rule.table

/-! ### Cutting -/

/-- One step through the source. -/
structure Slice where
  /-- The stretch of source that the step covers. -/
  text : List Char
  /-- The line on which the stretch starts. -/
  line : Nat
  /-- The token made from it, unless it is skipped. -/
  token? : Option Token
deriving Repr, Inhabited, DecidableEq

/-- What stops a cutting: a rule without a pattern, or one that breaks down over what it
found. -/
inductive Obstacle where
  | lexicon (fault : LexiconFault)
  | builder (breakdown : Breakdown)
deriving Repr, Inhabited, DecidableEq

/-- The slices of a source, up to its end or to the first obstacle. -/
structure Cutting where
  slices : List Slice
  obstacle : Option Obstacle
deriving Repr, Inhabited, DecidableEq

/-- Put a slice in front of a cutting. -/
def Cutting.cons (slice : Slice) (cutting : Cutting) : Cutting :=
  { cutting with slices := slice :: cutting.slices }

/-- The tokens of a cutting, unless it was stopped. -/
def Cutting.tokens (cutting : Cutting) : Except Obstacle (List Token) :=
  match cutting.obstacle with
  | some obstacle => .error obstacle
  | none => .ok (cutting.slices.filterMap Slice.token?)

/-- The first of some rules that finds a stretch which is not empty, with what it finds. -/
def Lexicon.findRule (passed rest : List Char) :
    List WrittenRule → Consult (Option (WrittenRule × Found))
  | [] => pure none
  | rule :: rules => do
      let compiled ← compile rule.template rule.flags
      match compiled.matcher.find passed rest with
      | some found =>
          if found.text.isEmpty then findRule passed rest rules else pure (some (rule, found))
      | none => findRule passed rest rules

/-- Cut the rest of a source, which starts on `line` behind the characters `passed`. -/
def cutFrom (table : List WrittenRule) (passed : List Char) (line : Nat) (rest : List Char)
    (lexicon : Lexicon) : Cutting × Lexicon :=
  match rest with
  | [] => (⟨[], none⟩, lexicon)
  | c :: tail =>
      match (Lexicon.findRule passed (c :: tail) table).run.run lexicon with
      | (.error fault, after) => (⟨[], some (.lexicon fault)⟩, after)
      | (.ok none, after) =>
          let further := cutFrom table (passed ++ [c]) (line + countNewlines [c]) tail after
          (further.1.cons ⟨[c], line, some ⟨.other c, line⟩⟩, further.2)
      | (.ok (some (rule, found)), after) =>
          match rule.build passed (c :: tail) found line with
          | .error breakdown => (⟨[], some (.builder breakdown)⟩, after)
          | .ok token? =>
              let further :=
                cutFrom table (passed ++ found.text) (line + countNewlines found.text)
                  (tail.drop (found.text.length - 1)) after
              (further.1.cons ⟨found.text, line, token?⟩, further.2)
termination_by rest.length
decreasing_by
  all_goals simp only [List.length_drop, List.length_cons]; omega

/-- Cut a source with a table of rules. -/
def cut (table : List WrittenRule) (source : List Char) (lexicon : Lexicon) : Cutting × Lexicon :=
  cutFrom table [] 1 source lexicon

end Playhouse

/-
Module: Playhouse.Proofs.TokenLines
Purpose: The lines of the tokens of a source: they never go back, and every one of them is a
  line of the source.
Main exports: InLineOrder, found_of_attempt, rest_of_attempt, Scan.Numbered, scanFrom_numbered,
  Scan.Numbered.inLineOrder, tokenize_lines
-/
import Playhouse.Token.Scan

namespace Playhouse

/-- Tokens whose lines never go back. -/
def InLineOrder (tokens : List Token) : Prop :=
  tokens.Pairwise fun token later => token.line ≤ later.line

/-! ### Stretches -/

theorem text_prefix_of_match? {pattern : Pattern Empty} {before : Option Char} {rest : List Char}
    {found : Found} (matched : pattern.match? before rest = some found) : found.text <+: rest := by
  obtain ⟨mark, _, rfl⟩ := Option.map_eq_some_iff.mp matched
  exact List.take_prefix mark.passed rest

/-- What the rules find is a stretch at the place where they are tried, and not empty. -/
theorem found_of_attempt {before : Option Char} {rest : List Char} {tried : Nat}
    {rules : List FilledRule} {text : List Char} {kind : Option TokenKind} {count : Nat}
    (attempted : attempt before rest tried rules = .found text kind count) :
    text <+: rest ∧ text ≠ [] := by
  induction rules generalizing tried with
  | nil => cases attempted
  | cons rule rules inductionHypothesis =>
      unfold attempt at attempted
      split at attempted
      · cases attempted
      · split at attempted
        · rename_i found matched
          split at attempted
          · exact inductionHypothesis attempted
          · rename_i nonempty
            cases attempted
            exact ⟨text_prefix_of_match? matched, by simpa using nonempty⟩
        · exact inductionHypothesis attempted

/-- A scan goes on right behind the stretch that was found. -/
theorem rest_of_attempt {before : Option Char} {c : Char} {tail : List Char} {tried : Nat}
    {rules : List FilledRule} {text : List Char} {kind : Option TokenKind} {count : Nat}
    (attempted : attempt before (c :: tail) tried rules = .found text kind count) :
    c :: tail = text ++ tail.drop (text.length - 1) := by
  obtain ⟨⟨behind, isRest⟩, nonempty⟩ := found_of_attempt attempted
  cases text with
  | nil => exact absurd rfl nonempty
  | cons first others =>
      obtain ⟨rfl, rfl⟩ := List.cons.inj isRest
      simp

/-! ### Steps -/

theorem Step.line_of_token? {step : Step} {token : Token} (isToken : step.token? = some token) :
    token.line = step.line := by
  obtain ⟨kind, _, rfl⟩ := Option.map_eq_some_iff.mp isToken
  rfl

/-- A scan of a stretch that starts on a line: its steps start on lines of the stretch, and
they never go back. -/
structure Scan.Numbered (scan : Scan) (line : Nat) (stretch : List Char) : Prop where
  within : ∀ step ∈ scan.steps, line ≤ step.line ∧ step.line ≤ line + countNewlines stretch
  forward : scan.steps.Pairwise fun step later => step.line ≤ later.line

theorem countNewlines_append (first second : List Char) :
    countNewlines (first ++ second) = countNewlines first + countNewlines second :=
  List.count_append

theorem Scan.Numbered.stopped {obstacle : Option (LexiconFault × Nat)} {line : Nat}
    {stretch : List Char} : (Scan.mk [] obstacle).Numbered line stretch :=
  ⟨fun _ member => (List.not_mem_nil member).elim, .nil⟩

/-- A step in front, whose stretch lies before that of the scan. -/
theorem Scan.Numbered.cons {scan : Scan} {step : Step} {behind : List Char}
    (numbered : scan.Numbered (step.line + countNewlines step.text) behind) :
    (Scan.cons step scan).Numbered step.line (step.text ++ behind) := by
  constructor
  · intro other member
    rw [countNewlines_append]
    rcases List.mem_cons.mp member with rfl | later
    · omega
    · have bounds := numbered.within other later
      omega
  · refine List.pairwise_cons.mpr ⟨fun later member => ?_, numbered.forward⟩
    have bounds := numbered.within later member
    omega

theorem scanFrom_numbered (rules : List FilledRule) (before : Option Char) (line : Nat)
    (rest : List Char) : (scanFrom rules before line rest).Numbered line rest := by
  induction before, line, rest using scanFrom.induct rules with
  | case1 before line =>
      rw [scanFrom]
      exact .stopped
  | case2 before line c tail fault tried blocked =>
      rw [scanFrom, blocked]
      exact .stopped
  | case3 before line c tail tried unknown inductionHypothesis =>
      rw [scanFrom, unknown]
      exact inductionHypothesis.cons
  | case4 before line c tail text kind tried attempted inductionHypothesis =>
      rw [scanFrom, attempted, rest_of_attempt attempted]
      exact inductionHypothesis.cons

/-! ### Tokens -/

/-- The tokens of a numbered scan are in the order of their lines. -/
theorem Scan.Numbered.inLineOrder {scan : Scan} {line : Nat} {stretch : List Char}
    (numbered : scan.Numbered line stretch) :
    InLineOrder (scan.steps.filterMap Step.token?) := by
  refine numbered.forward.filterMap _ ?_
  intro step later ordered token isToken laterToken isLater
  rw [Step.line_of_token? isToken, Step.line_of_token? isLater]
  exact ordered

/-- The lines of the tokens of a source are lines of the source, in order. -/
theorem tokenize_lines {vocabulary : Vocabulary} {source : String} {tokens : List Token}
    (cut : tokenize vocabulary source = .ok tokens) :
    InLineOrder tokens ∧
      ∀ token ∈ tokens, 1 ≤ token.line ∧ token.line ≤ 1 + countNewlines source.toList := by
  have numbered := scanFrom_numbered (Rule.table.map vocabulary.fill) none 1 source.toList
  unfold tokenize scan Scan.tokens at cut
  split at cut
  · cases cut
  · obtain rfl := Except.ok.inj cut
    refine ⟨numbered.inLineOrder, fun token member => ?_⟩
    obtain ⟨step, stepMember, isToken⟩ := List.mem_filterMap.mp member
    rw [Step.line_of_token? isToken]
    exact numbered.within step stepMember

end Playhouse

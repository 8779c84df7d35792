/-
Module: Playhouse.Proofs.Coverage
Purpose: Scanning loses nothing and invents nothing: the stretches of the steps are the source,
  cut into pieces, and every token bears the line on which its piece starts.
Main exports: Vocabulary.IsComplete, Step.Takes, Covers, Covers.text_eq, Covers.drop,
  scanFrom_covers, scan_covers
-/
import Playhouse.Proofs.TokenLines

namespace Playhouse

/-!
Where a scan stands is known from what it has passed: the character in front of the cursor is
the last one passed, and the line is one more than the line feeds passed.  Every step moves the
cursor over a stretch that is not empty, so the scan comes to the end of the source, and the
stretches laid end to end are the source.
-/

/-! ### Rules with their words -/

/-- A vocabulary whose lists can all be had. -/
def Vocabulary.IsComplete (vocabulary : Vocabulary) : Prop :=
  ∀ category, ∃ list, vocabulary.list category = .ok list

/-- A rule whose words are filled in. -/
def FilledRule.IsReady (rule : FilledRule) : Prop :=
  ∃ pattern, rule.pattern = .ok pattern

/-- A pattern is filled if all its places can be. -/
theorem Pattern.exists_fill {κ ε : Type} {contents : κ → Except ε (Pattern Empty)}
    (had : ∀ key, ∃ filled, contents key = .ok filled) (pattern : Pattern κ) :
    ∃ filled, pattern.fill contents = .ok filled := by
  induction pattern with
  | nothing | one kind | many kind least most appetite | edge | ahead kind => exact ⟨_, rfl⟩
  | slot key => exact had key
  | group body bodyFilled =>
      obtain ⟨filled, isFilled⟩ := bodyFilled
      exact ⟨.group filled, by rw [fill, isFilled]; rfl⟩
  | seq first second firstFilled secondFilled =>
      obtain ⟨filledFirst, isFirst⟩ := firstFilled
      obtain ⟨filledSecond, isSecond⟩ := secondFilled
      exact ⟨.seq filledFirst filledSecond, by rw [fill, isFirst, isSecond]; rfl⟩
  | alt first second firstFilled secondFilled =>
      obtain ⟨filledFirst, isFirst⟩ := firstFilled
      obtain ⟨filledSecond, isSecond⟩ := secondFilled
      exact ⟨.alt filledFirst filledSecond, by rw [fill, isFirst, isSecond]; rfl⟩

/-- A complete vocabulary fills every rule of a table. -/
theorem Vocabulary.IsComplete.isReady {vocabulary : Vocabulary}
    (complete : vocabulary.IsComplete) (table : List Rule) :
    ∀ rule ∈ table.map vocabulary.fill, rule.IsReady := by
  intro filled member
  obtain ⟨rule, _, rfl⟩ := List.mem_map.mp member
  apply Pattern.exists_fill
  intro category
  obtain ⟨list, had⟩ := complete category
  exact ⟨list.pattern rule.caseless, by rw [had]; rfl⟩

/-- Rules that are filled in never stop a scan. -/
theorem attempt_ne_blocked {rules : List FilledRule} (ready : ∀ rule ∈ rules, rule.IsReady)
    (before : Option Char) (rest : List Char) (tried : Nat) (fault : LexiconFault)
    (count : Nat) : attempt before rest tried rules ≠ .blocked fault count := by
  induction rules generalizing tried with
  | nil => simp [attempt]
  | cons rule rules inductionHypothesis =>
      obtain ⟨pattern, isFilled⟩ := ready rule List.mem_cons_self
      have further := inductionHypothesis fun other member =>
        ready other (List.mem_cons_of_mem rule member)
      rw [attempt, isFilled]
      dsimp only
      split
      · split
        · exact further (tried + 1)
        · simp
      · exact further (tried + 1)

/-! ### Steps laid end to end -/

/-- What a step takes behind the characters passed: the first stretch that a rule finds there,
or else a single character. -/
inductive Step.Takes (rules : List FilledRule) (passed rest : List Char) (step : Step) :
    Prop where
  | found
      (attempted : attempt passed.getLast? rest 0 rules = .found step.text step.kind step.tried)
  | unknown {c : Char}
      (attempted : attempt passed.getLast? rest 0 rules = .unknown step.tried)
      (text : step.text = [c]) (kind : step.kind = some (.other c))

/-- Steps that cover the rest of a source, each starting where the one before it ends. -/
inductive Covers (rules : List FilledRule) : List Char → List Char → List Step → Prop where
  | finished {passed : List Char} : Covers rules passed [] []
  | step {passed rest behind : List Char} {step : Step} {later : List Step}
      (isRest : rest = step.text ++ behind) (nonempty : step.text ≠ [])
      (line : step.line = 1 + countNewlines passed) (takes : step.Takes rules passed rest)
      (further : Covers rules (passed ++ step.text) behind later) :
      Covers rules passed rest (step :: later)

section

variable {rules : List FilledRule} {passed rest : List Char} {steps : List Step}

/-- The stretches of the steps are what is covered. -/
theorem Covers.text_eq (covers : Covers rules passed rest steps) :
    steps.flatMap Step.text = rest := by
  induction covers with
  | finished => rfl
  | step isRest nonempty line takes further inductionHypothesis =>
      rw [List.flatMap_cons, inductionHypothesis, isRest]

/-- Behind the stretches of some steps the others cover what is left. -/
theorem Covers.drop {earlier later : List Step}
    (covers : Covers rules passed rest (earlier ++ later)) :
    Covers rules (passed ++ earlier.flatMap Step.text) (later.flatMap Step.text) later := by
  induction earlier generalizing passed rest with
  | nil =>
      rw [List.nil_append] at covers
      rw [List.flatMap_nil, List.append_nil, covers.text_eq]
      exact covers
  | cons step earlier inductionHypothesis =>
      cases covers with
      | step isRest nonempty line takes further =>
          rw [List.flatMap_cons, ← List.append_assoc]
          exact inductionHypothesis further

/-- The first of the steps takes a stretch of its own, on the line where the scan stands. -/
theorem Covers.head {step : Step} {later : List Step}
    (covers : Covers rules passed rest (step :: later)) :
    step.text ≠ [] ∧ step.line = 1 + countNewlines passed ∧ step.Takes rules passed rest := by
  cases covers with
  | step isRest nonempty line takes further => exact ⟨nonempty, line, takes⟩

/-- A scan whose rules are filled in is not stopped and covers all that is left. -/
theorem scanFrom_covers (ready : ∀ rule ∈ rules, rule.IsReady) {before : Option Char}
    {line : Nat} (isBefore : before = passed.getLast?) (isLine : line = 1 + countNewlines passed) :
    (scanFrom rules before line rest).obstacle = none ∧
      Covers rules passed rest (scanFrom rules before line rest).steps := by
  induction before, line, rest using scanFrom.induct rules generalizing passed with
  | case1 before line =>
      rw [scanFrom]
      exact ⟨rfl, .finished⟩
  | case2 before line c tail fault tried blocked =>
      exact absurd blocked (attempt_ne_blocked ready _ _ _ _ _)
  | case3 before line c tail tried unknown inductionHypothesis =>
      subst isBefore isLine
      have moved : some c = (passed ++ [c]).getLast? := by simp
      have counted : 1 + countNewlines passed + countNewlines [c] =
          1 + countNewlines (passed ++ [c]) := by rw [countNewlines_append, Nat.add_assoc]
      obtain ⟨unstopped, further⟩ := inductionHypothesis moved counted
      rw [scanFrom, unknown]
      exact ⟨unstopped,
        .step rfl (List.cons_ne_nil c []) rfl (.unknown unknown rfl rfl) further⟩
  | case4 before line c tail text kind tried found inductionHypothesis =>
      subst isBefore isLine
      have counted : 1 + countNewlines passed + countNewlines text =
          1 + countNewlines (passed ++ text) := by rw [countNewlines_append, Nat.add_assoc]
      obtain ⟨unstopped, further⟩ := inductionHypothesis List.getLast?_append.symm counted
      rw [scanFrom, found]
      exact ⟨unstopped,
        .step (rest_of_attempt found) (found_of_attempt found).2 rfl (.found found) further⟩

end

/-- A scan of a source with words that can all be had is not stopped and covers the source. -/
theorem scan_covers {vocabulary : Vocabulary} (complete : vocabulary.IsComplete)
    (table : List Rule) (source : List Char) :
    (scan table vocabulary source).obstacle = none ∧
      Covers (table.map vocabulary.fill) [] source (scan table vocabulary source).steps :=
  scanFrom_covers (complete.isReady table) rfl rfl

end Playhouse

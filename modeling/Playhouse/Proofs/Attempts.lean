/-
Module: Playhouse.Proofs.Attempts
Purpose: Which rule makes a step of a scan, and what the pattern of the rule says of the step.
Main exports: FilledRule.Refuses, FilledRule.Finds, attempt_of_earlier, rule_of_attempt,
  Vocabulary.meaning, Vocabulary.exists_list_of_meaning, Rule.fits_of_finds, Rule.exists_finds,
  Rule.refuses_of_no_fit, Rule.Makes, Rule.makes_of_build, Rule.classes_or_builds,
  scanFrom_of_found, takes_of_mem_steps, takes_of_head_steps, rule_of_takes, exists_rule_of_step,
  rule_of_step
-/
import Playhouse.Proofs.Coverage
import Playhouse.Proofs.Fitting

namespace Playhouse

open Pattern

/-! ### The rule that wins -/

/-- A rule that is tried at a place in vain: it finds nothing there, or an empty stretch. -/
def FilledRule.Refuses (rule : FilledRule) (before : Option Char) (rest : List Char) : Prop :=
  ∃ pattern, rule.pattern = .ok pattern ∧
    ∀ found, pattern.match? before rest = some found → found.text = []

/-- A rule that finds something at a place. -/
structure FilledRule.Finds (rule : FilledRule) (before : Option Char) (rest : List Char)
    (found : Found) : Prop where
  matched : ∃ pattern, rule.pattern = .ok pattern ∧ pattern.match? before rest = some found
  nonempty : found.text ≠ []

section

variable {before : Option Char} {rest : List Char} {tried : Nat}

theorem FilledRule.IsReady.refuses_or_finds {rule : FilledRule} (ready : rule.IsReady)
    (before : Option Char) (rest : List Char) :
    rule.Refuses before rest ∨ ∃ found, rule.Finds before rest found := by
  obtain ⟨pattern, isPattern⟩ := ready
  cases matched : pattern.match? before rest with
  | none => exact Or.inl ⟨pattern, isPattern, by simp [matched]⟩
  | some found =>
      by_cases isEmpty : found.text = []
      · exact Or.inl ⟨pattern, isPattern, by simp [matched, isEmpty]⟩
      · exact Or.inr ⟨found, ⟨pattern, isPattern, matched⟩, isEmpty⟩

/-- A rule does not do both. -/
theorem FilledRule.Refuses.not_finds {rule : FilledRule} (refuses : rule.Refuses before rest)
    (found : Found) : ¬ rule.Finds before rest found := by
  rintro ⟨⟨pattern, isPattern, matched⟩, nonempty⟩
  obtain ⟨same, isSame, onlyEmpty⟩ := refuses
  cases isPattern.symm.trans isSame
  exact nonempty (onlyEmpty found matched)

theorem attempt_of_refuses {rule : FilledRule} (refuses : rule.Refuses before rest)
    (rules : List FilledRule) :
    attempt before rest tried (rule :: rules) = attempt before rest (tried + 1) rules := by
  obtain ⟨pattern, isPattern, onlyEmpty⟩ := refuses
  rw [attempt, isPattern]
  dsimp only
  cases matched : pattern.match? before rest with
  | none => rfl
  | some found => simp [onlyEmpty found matched]

theorem attempt_of_finds {rule : FilledRule} {found : Found}
    (finds : rule.Finds before rest found) (rules : List FilledRule) :
    attempt before rest tried (rule :: rules) =
      .found found.text (rule.build found) (tried + 1) := by
  obtain ⟨⟨pattern, isPattern, matched⟩, nonempty⟩ := finds
  rw [attempt, isPattern]
  dsimp only
  rw [matched]
  simp [nonempty]

/-- Rules that refuse leave the text to those after them. -/
theorem attempt_append_of_refuse {earlier : List FilledRule}
    (refuse : ∀ other ∈ earlier, other.Refuses before rest) (later : List FilledRule) :
    attempt before rest tried (earlier ++ later) =
      attempt before rest (tried + earlier.length) later := by
  induction earlier generalizing tried with
  | nil => rfl
  | cons other others inductionHypothesis =>
      obtain ⟨firstRefuses, othersRefuse⟩ := List.forall_mem_cons.mp refuse
      rw [List.cons_append, attempt_of_refuses firstRefuses, inductionHypothesis othersRefuse,
        List.length_cons, Nat.add_assoc, Nat.add_comm 1]

/-- A stretch is found by the first rule that does not refuse. -/
theorem attempt_of_earlier {earlier later : List FilledRule} {rule : FilledRule} {found : Found}
    (refuse : ∀ other ∈ earlier, other.Refuses before rest)
    (finds : rule.Finds before rest found) :
    attempt before rest tried (earlier ++ rule :: later) =
      .found found.text (rule.build found) (tried + earlier.length + 1) := by
  rw [attempt_append_of_refuse refuse, attempt_of_finds finds]

/-- What was found was found by a rule, and the rules before it refused. -/
theorem rule_of_attempt {rules : List FilledRule} {text : List Char} {kind : Option TokenKind}
    {count : Nat} (attempted : attempt before rest tried rules = .found text kind count) :
    ∃ earlier rule later found, rules = earlier ++ rule :: later ∧
      (∀ other ∈ earlier, other.Refuses before rest) ∧ rule.Finds before rest found ∧
      text = found.text ∧ kind = rule.build found ∧ count = tried + earlier.length + 1 := by
  induction rules generalizing tried with
  | nil => cases attempted
  | cons rule rules inductionHypothesis =>
      cases isPattern : rule.pattern with
      | error fault =>
          rw [attempt, isPattern] at attempted
          cases attempted
      | ok pattern =>
          have ready : rule.IsReady := ⟨pattern, isPattern⟩
          rcases ready.refuses_or_finds before rest with refuses | ⟨found, finds⟩
          · rw [attempt_of_refuses refuses] at attempted
            obtain ⟨earlier, winner, later, found, rfl, refuse, finds, isText, isKind, isCount⟩ :=
              inductionHypothesis attempted
            refine ⟨rule :: earlier, winner, later, found, rfl, ?_, finds, isText, isKind, ?_⟩
            · exact List.forall_mem_cons.mpr ⟨refuses, refuse⟩
            · rw [isCount, List.length_cons]
              omega
          · rw [attempt_of_finds finds] at attempted
            cases attempted
            exact ⟨[], rule, rules, found, rfl, by simp, finds, rfl, rfl, rfl⟩

/-- Where nothing was found, all rules refused. -/
theorem refuse_of_unknown {rules : List FilledRule} {count : Nat}
    (attempted : attempt before rest tried rules = .unknown count) :
    ∀ rule ∈ rules, rule.Refuses before rest := by
  induction rules generalizing tried with
  | nil => exact List.forall_mem_nil _
  | cons rule rules inductionHypothesis =>
      cases isPattern : rule.pattern with
      | error fault =>
          rw [attempt, isPattern] at attempted
          cases attempted
      | ok pattern =>
          have ready : rule.IsReady := ⟨pattern, isPattern⟩
          rcases ready.refuses_or_finds before rest with refuses | ⟨found, finds⟩
          · rw [attempt_of_refuses refuses] at attempted
            exact List.forall_mem_cons.mpr ⟨refuses, inductionHypothesis attempted⟩
          · rw [attempt_of_finds finds] at attempted
            cases attempted

/-- Of the first rules, one has made what was found, or all of them refused. -/
theorem finds_or_refuse_of_attempt {first others : List FilledRule} {text : List Char}
    {kind : Option TokenKind} {count : Nat}
    (attempted : attempt before rest tried (first ++ others) = .found text kind count) :
    (∃ rule ∈ first, ∃ found, kind = rule.build found) ∨
      ∀ rule ∈ first, rule.Refuses before rest := by
  obtain ⟨earlier, rule, later, found, isSplit, refuse, -, -, isKind, -⟩ :=
    rule_of_attempt attempted
  rcases List.append_eq_append_iff.mp isSplit with ⟨more, rfl, -⟩ | ⟨more, rfl, isRest⟩
  · exact Or.inr fun other member => refuse other (List.mem_append_left more member)
  · cases more with
    | nil => exact Or.inr fun other member => refuse other (by simpa using member)
    | cons head tail =>
        obtain ⟨rfl, -⟩ := List.cons.inj isRest
        exact Or.inl ⟨rule, by simp, found, isKind⟩

end

/-! ### Rules and their patterns -/

/-- A pattern is filled if the places that it has can be. -/
theorem Pattern.exists_fill_of_slots {κ ε : Type} {contents : κ → Except ε (Pattern Empty)}
    {pattern : Pattern κ} (had : ∀ key ∈ pattern.slots, ∃ filled, contents key = .ok filled) :
    ∃ filled, pattern.fill contents = .ok filled := by
  induction pattern with
  | nothing | one kind | many kind least most appetite | edge | ahead kind => exact ⟨_, rfl⟩
  | slot key => exact had key List.mem_cons_self
  | group body bodyFilled =>
      obtain ⟨filled, isFilled⟩ := bodyFilled had
      exact ⟨.group filled, by rw [fill, isFilled]; rfl⟩
  | seq first second firstFilled secondFilled =>
      obtain ⟨hadFirst, hadSecond⟩ := List.forall_mem_append.mp had
      obtain ⟨filledFirst, isFirst⟩ := firstFilled hadFirst
      obtain ⟨filledSecond, isSecond⟩ := secondFilled hadSecond
      exact ⟨.seq filledFirst filledSecond, by rw [fill, isFirst, isSecond]; rfl⟩
  | alt first second firstFilled secondFilled =>
      obtain ⟨hadFirst, hadSecond⟩ := List.forall_mem_append.mp had
      obtain ⟨filledFirst, isFirst⟩ := firstFilled hadFirst
      obtain ⟨filledSecond, isSecond⟩ := secondFilled hadSecond
      exact ⟨.alt filledFirst filledSecond, by rw [fill, isFirst, isSecond]; rfl⟩

/-- What the word classes mean in a vocabulary. -/
def Vocabulary.meaning (vocabulary : Vocabulary) (caseless : Bool) : Category → Meaning :=
  meanings fun category => do
    let list ← vocabulary.list category
    pure (list.pattern caseless)

/-- A class means what the pattern of its list does, if the list can be had. -/
theorem Vocabulary.exists_list_of_meaning {vocabulary : Vocabulary} {caseless : Bool}
    {category : Category} {before : Option Char} {text behind : List Char}
    {kept : List (List Char)}
    (fits : vocabulary.meaning caseless category before text behind kept) :
    ∃ list, vocabulary.list category = .ok list ∧
      (list.pattern caseless).Fits noPlaces before text behind kept := by
  obtain ⟨pattern, isPattern, fits⟩ := fits
  dsimp only at isPattern
  cases had : vocabulary.list category with
  | error fault =>
      rw [had] at isPattern
      cases isPattern
  | ok list =>
      rw [had] at isPattern
      cases isPattern
      exact ⟨list, rfl, fits⟩

namespace Rule

variable {vocabulary : Vocabulary} {rule : Rule} {before : Option Char} {rest : List Char}

/-- A rule without word classes is filled by every vocabulary. -/
theorem isReady_of_noSlots (noSlots : rule.pattern.slots = []) :
    (vocabulary.fill rule).IsReady := by
  apply exists_fill_of_slots
  rw [noSlots]
  simp

/-- What a rule finds fits its pattern. -/
theorem fits_of_finds {found : Found} (finds : (vocabulary.fill rule).Finds before rest found) :
    ∃ behind, rest = found.text ++ behind ∧
      rule.pattern.Fits (vocabulary.meaning rule.caseless) before found.text behind
        found.groups := by
  obtain ⟨⟨pattern, isFilled, matched⟩, -⟩ := finds
  obtain ⟨behind, isRest, fits⟩ := fits_of_match? matched
  exact ⟨behind, isRest, (fits_of_fill isFilled).mp fits⟩

/-- Where its pattern fits a stretch, and never an empty one, a rule finds something. -/
theorem exists_finds {text behind : List Char} {kept : List (List Char)}
    (ready : (vocabulary.fill rule).IsReady)
    (neverEmpty : ∀ kept,
      ¬ rule.pattern.Fits (vocabulary.meaning rule.caseless) before [] (text ++ behind) kept)
    (fits : rule.pattern.Fits (vocabulary.meaning rule.caseless) before text behind kept) :
    ∃ found, (vocabulary.fill rule).Finds before (text ++ behind) found := by
  obtain ⟨pattern, isFilled⟩ := ready
  obtain ⟨found, matched⟩ :=
    Option.isSome_iff_exists.mp (match?_isSome_of_fits ((fits_of_fill isFilled).mpr fits))
  refine ⟨found, ⟨pattern, isFilled, matched⟩, ?_⟩
  intro isEmpty
  obtain ⟨rest, isRest, foundFits⟩ := fits_of_match? matched
  rw [isEmpty, List.nil_append] at isRest
  rw [isEmpty, ← isRest] at foundFits
  exact neverEmpty _ ((fits_of_fill isFilled).mp foundFits)

/-- Where its pattern fits no stretch, a rule refuses. -/
theorem refuses_of_no_fit (ready : (vocabulary.fill rule).IsReady)
    (noFit : ∀ text behind kept, rest = text ++ behind →
      ¬ rule.pattern.Fits (vocabulary.meaning rule.caseless) before text behind kept) :
    (vocabulary.fill rule).Refuses before rest := by
  obtain ⟨pattern, isFilled⟩ := ready
  refine ⟨pattern, isFilled, fun found matched => ?_⟩
  obtain ⟨behind, isRest, fits⟩ := fits_of_match? matched
  exact absurd ((fits_of_fill isFilled).mp fits) (noFit _ _ _ isRest)

end Rule

/-! ### The tokens of the rules -/

namespace Rule

/-- The tokens that the rules of the language make, by the patterns that make them.  Headings,
directions, speakers and jumps carry what was found; the orders and the lexemes are told from
the rule. -/
inductive Makes (found : Found) : Pattern Category → TokenKind → Prop where
  | act : Makes found (heading "Act")
      (.act (String.ofList (nthGroup 0 found)) (String.ofList (Text.strip (nthGroup 1 found))))
  | scene : Makes found (heading "Scene")
      (.scene (String.ofList (nthGroup 0 found)) (String.ofList (Text.strip (nthGroup 1 found))))
  | enterTwo :
      Makes found (directionForTwo (literal false "Enter")) (.enter (keptNames found))
  | enterOne :
      Makes found (directionForOne (literal false "Enter")) (.enter (keptNames found))
  | exitTwo :
      Makes found (directionForTwo (literal false "Exeunt")) (.exit (keptNames found))
  | exitOne :
      Makes found (directionForOne (choice [literal false "Exit", literal false "Exeunt"]))
        (.exit (keptNames found))
  | exitAll :
      Makes found
        (literal false "[" ++ blanks ++ literal false "Exeunt" ++ blanks ++ literal false "]")
        (.exit (keptNames found))
  | speaking :
      Makes found (speechName ++ blanks ++ literal false ":")
        (.speaking (normalizeName (nthGroup 0 found)))
  | ifSo :
      Makes found (conditionalPhrase "If so,")
        (.conditionalJump true (String.ofList (nthGroup 0 found)))
  | ifNot :
      Makes found (conditionalPhrase "If not,")
        (.conditionalJump false (String.ofList (nthGroup 0 found)))
  | jump : Makes found jumpPhrase (.jump (String.ofList (nthGroup 0 found)))
  | order {pattern : Pattern Category} {kind : TokenKind}
      (isOrder : kind ∈ [.scanNumber, .scanCharacter, .printCharacter, .printNumber, .pushStack,
        .popStack]) : Makes found pattern kind
  | lexeme {pattern : Pattern Category} (lexeme : Lexeme) : Makes found pattern (.lexeme lexeme)

theorem makes_of_build {rule : Rule} (member : rule ∈ table) {found : Found} {kind : TokenKind}
    (built : rule.build found = some kind) : Makes found rule.pattern kind := by
  simp only [table, List.mem_append] at member
  rcases member with ((((((structuralRule | command) | operation) | jump) | comparison) | memory) |
    ofClass) | remainder
  · simp only [structural, List.mem_cons, List.not_mem_nil, or_false] at structuralRule
    rcases structuralRule with rfl | rfl | rfl | rfl | rfl | rfl | rfl | rfl | rfl
    · cases built
    · cases built
      exact .act
    · cases built
      exact .scene
    · cases built
      exact .enterTwo
    · cases built
      exact .enterOne
    · cases built
      exact .exitTwo
    · cases built
      exact .exitOne
    · cases built
      exact .exitAll
    · cases built
      exact .speaking
  · simp only [commands, List.mem_cons, List.not_mem_nil, or_false] at command
    rcases command with rfl | rfl | rfl | rfl <;> cases built <;> exact .order (by simp)
  · simp only [operations, List.mem_cons, List.not_mem_nil, or_false] at operation
    rcases operation with rfl | rfl <;> cases built <;> exact .lexeme _
  · simp only [jumps, List.mem_cons, List.not_mem_nil, or_false] at jump
    rcases jump with rfl | rfl | rfl | rfl
    · cases built
      exact .ifSo
    · cases built
      exact .ifNot
    · cases built
      exact .lexeme _
    · cases built
      exact .jump
  · simp only [comparisons, List.mem_cons, List.not_mem_nil, or_false] at comparison
    rcases comparison with rfl | rfl | rfl | rfl | rfl <;> cases built <;> exact .lexeme _
  · simp only [memories, List.mem_cons, List.not_mem_nil, or_false] at memory
    rcases memory with rfl | rfl <;> cases built <;> exact .order (by simp)
  · simp only [classes, List.mem_cons, List.not_mem_nil, or_false] at ofClass
    -- The last class, that of the articles, is skipped.
    rcases ofClass with rfl | rfl | rfl | rfl | rfl | rfl | rfl | rfl | rfl | rfl <;>
      cases built <;> exact .lexeme _
  · simp only [remainders, List.mem_cons, List.not_mem_nil, or_false] at remainder
    rcases remainder with rfl | rfl <;> cases built <;> exact .lexeme _

/-- Only white space and the words of a class are ever skipped, and only the words of a class are
taken for characters. -/
theorem classes_or_builds {rule : Rule} (member : rule ∈ table) (found : Found) :
    rule = plain someBlanks skip ∨ rule ∈ classes ∨
      ∃ kind, rule.build found = some kind ∧ ∀ name, kind ≠ .lexeme (.character name) := by
  simp only [table, List.mem_append] at member
  rcases member with ((((((structuralRule | command) | operation) | jump) | comparison) | memory) |
    ofClass) | remainder
  · simp only [structural, List.mem_cons, List.not_mem_nil, or_false] at structuralRule
    rcases structuralRule with rfl | others
    · exact Or.inl rfl
    · rcases others with rfl | rfl | rfl | rfl | rfl | rfl | rfl | rfl <;>
        exact Or.inr (Or.inr ⟨_, rfl, by simp⟩)
  · simp only [commands, List.mem_cons, List.not_mem_nil, or_false] at command
    rcases command with rfl | rfl | rfl | rfl <;> exact Or.inr (Or.inr ⟨_, rfl, by simp⟩)
  · simp only [operations, List.mem_cons, List.not_mem_nil, or_false] at operation
    rcases operation with rfl | rfl <;> exact Or.inr (Or.inr ⟨_, rfl, by simp⟩)
  · simp only [jumps, List.mem_cons, List.not_mem_nil, or_false] at jump
    rcases jump with rfl | rfl | rfl | rfl <;> exact Or.inr (Or.inr ⟨_, rfl, by simp⟩)
  · simp only [comparisons, List.mem_cons, List.not_mem_nil, or_false] at comparison
    rcases comparison with rfl | rfl | rfl | rfl | rfl <;> exact Or.inr (Or.inr ⟨_, rfl, by simp⟩)
  · simp only [memories, List.mem_cons, List.not_mem_nil, or_false] at memory
    rcases memory with rfl | rfl <;> exact Or.inr (Or.inr ⟨_, rfl, by simp⟩)
  · exact Or.inr (Or.inl ofClass)
  · simp only [remainders, List.mem_cons, List.not_mem_nil, or_false] at remainder
    rcases remainder with rfl | rfl <;> exact Or.inr (Or.inr ⟨_, rfl, by simp⟩)

end Rule

/-! ### Steps -/

/-- A scan takes what the rules find and goes on behind it. -/
theorem scanFrom_of_found {rules : List FilledRule} {before : Option Char} {text behind : List Char}
    {kind : Option TokenKind} {tried : Nat}
    (found : attempt before (text ++ behind) 0 rules = .found text kind tried) (line : Nat) :
    scanFrom rules before line (text ++ behind) =
      Scan.cons ⟨text, line, kind, tried⟩
        (scanFrom rules (text.getLast?.or before) (line + countNewlines text) behind) := by
  obtain ⟨c, others, rfl⟩ := List.exists_cons_of_ne_nil (found_of_attempt found).2
  rw [List.cons_append] at found ⊢
  rw [scanFrom, found]
  simp

/-- Every step of a scan takes what the rules find at its place, or a single character. -/
theorem takes_of_mem_steps {rules : List FilledRule} {before : Option Char} {line : Nat}
    {rest : List Char} {step : Step} (member : step ∈ (scanFrom rules before line rest).steps) :
    ∃ passed rest, step.Takes rules passed rest := by
  induction before, line, rest using scanFrom.induct rules with
  | case1 before line =>
      rw [scanFrom] at member
      cases member
  | case2 before line c tail fault tried blocked =>
      rw [scanFrom, blocked] at member
      cases member
  | case3 before line c tail tried unknown inductionHypothesis =>
      rw [scanFrom, unknown] at member
      rcases List.mem_cons.mp member with rfl | later
      · exact ⟨before.toList, c :: tail, .unknown (by cases before <;> exact unknown) rfl rfl⟩
      · exact inductionHypothesis later
  | case4 before line c tail text kind tried found inductionHypothesis =>
      rw [scanFrom, found] at member
      rcases List.mem_cons.mp member with rfl | later
      · exact ⟨before.toList, c :: tail, .found (by cases before <;> exact found)⟩
      · exact inductionHypothesis later

/-- The first step takes what is found at the place where the scan begins. -/
theorem takes_of_head_steps {rules : List FilledRule} {before : Option Char} {line : Nat}
    {rest : List Char} {step : Step}
    (isFirst : step ∈ (scanFrom rules before line rest).steps.head?) :
    step.Takes rules before.toList rest := by
  cases rest with
  | nil =>
      rw [scanFrom] at isFirst
      cases isFirst
  | cons c tail =>
      rw [scanFrom] at isFirst
      split at isFirst
      · cases isFirst
      · rename_i tried unknown
        cases isFirst
        exact .unknown (by cases before <;> exact unknown) rfl rfl
      · rename_i text kind tried found
        cases isFirst
        exact .found (by cases before <;> exact found)

/-- A step takes what a rule of the table finds, or a single character that all of them refuse. -/
theorem rule_of_takes {table : List Rule} {vocabulary : Vocabulary} {passed rest : List Char}
    {step : Step} (takes : step.Takes (table.map vocabulary.fill) passed rest) :
    (∃ c, step.text = [c] ∧ step.kind = some (.other c) ∧
        ∀ rule ∈ table, (vocabulary.fill rule).Refuses passed.getLast? rest) ∨
      ∃ rule ∈ table, ∃ groups, step.kind = rule.build ⟨step.text, groups⟩ ∧
        (vocabulary.fill rule).Finds passed.getLast? rest ⟨step.text, groups⟩ := by
  cases takes with
  | @unknown c attempted isText isOther =>
      refine Or.inl ⟨c, isText, isOther, fun rule isRule => ?_⟩
      exact refuse_of_unknown attempted _ (List.mem_map_of_mem isRule)
  | found attempted =>
      obtain ⟨earlier, filled, later, found, isSplit, -, finds, isText, isBuilt, -⟩ :=
        rule_of_attempt attempted
      have isFilled : filled ∈ table.map vocabulary.fill := by simp [isSplit]
      obtain ⟨rule, isRule, rfl⟩ := List.mem_map.mp isFilled
      obtain ⟨text, groups⟩ := found
      subst isText
      exact Or.inr ⟨rule, isRule, groups, isBuilt, finds⟩

/-- The token of a step is built by a rule whose pattern fits the stretch of the step, or it is a
single character. -/
theorem exists_rule_of_step {vocabulary : Vocabulary} {source : List Char} {step : Step}
    (member : step ∈ (scan Rule.table vocabulary source).steps) {kind : TokenKind}
    (isKind : step.kind = some kind) :
    (∃ c, step.text = [c] ∧ kind = .other c) ∨
      ∃ rule ∈ Rule.table, ∃ before behind groups, rule.build ⟨step.text, groups⟩ = some kind ∧
        rule.pattern.Fits (vocabulary.meaning rule.caseless) before step.text behind groups := by
  obtain ⟨passed, rest, takes⟩ := takes_of_mem_steps member
  rcases rule_of_takes takes with ⟨c, isText, isOther, -⟩ | ⟨rule, isRule, groups, isBuilt, finds⟩
  · rw [isKind] at isOther
    cases isOther
    exact Or.inl ⟨c, isText, rfl⟩
  · obtain ⟨behind, -, fits⟩ := Rule.fits_of_finds finds
    rw [isKind] at isBuilt
    exact Or.inr ⟨rule, isRule, _, behind, groups, isBuilt.symm, fits⟩

/-- In terms of the tokens that the rules make. -/
theorem rule_of_step {vocabulary : Vocabulary} {source : List Char} {step : Step}
    (member : step ∈ (scan Rule.table vocabulary source).steps) {kind : TokenKind}
    (isKind : step.kind = some kind) :
    (∃ c, step.text = [c] ∧ kind = .other c) ∨
      ∃ pattern caseless before behind groups, Rule.Makes ⟨step.text, groups⟩ pattern kind ∧
        pattern.Fits (vocabulary.meaning caseless) before step.text behind groups := by
  rcases exists_rule_of_step member isKind with other |
    ⟨rule, isRule, before, behind, groups, isBuilt, fits⟩
  · exact Or.inl other
  · exact Or.inr ⟨rule.pattern, rule.caseless, before, behind, groups,
      Rule.makes_of_build isRule isBuilt, fits⟩

end Playhouse

/-
Module: Playhouse.Proofs.Recognition
Purpose: What the rules make of a text of which only the first words are known.
Main exports: Pattern.forecast, Pattern.foretells_forecast, Pattern.isBarred,
  Pattern.run_of_isBarred, FilledRule.passesOver, FilledRule.takes, attempt_of_passed,
  Pattern.foresee_pattern_some
-/
import Playhouse.Token.Scan

namespace Playhouse

open Text

/-!
Whether a rule finds some words at the beginning of a text should not depend on
what follows them.  A forecast runs a pattern on the known words alone, behind
which the text may end or go on with a space, and gives up as soon as the unknown
rest would matter.  A rule on which the forecast gives up may still be ruled out
because it asks for a character that the text does not contain.
-/

namespace Pattern

/-! ### Forecasts -/

section

variable {α : Type}

/-- Go on with `next` here, provided that no more repetitions are owed. -/
def foresettle (next : Mark → List Char → Option (Option α)) (least : Nat) (mark : Mark)
    (known : List Char) : Option (Option α) :=
  if least = 0 then next mark known else some none

/-- Forecast an eager repetition. -/
def forecastEager (kind : Char → Bool) (next : Mark → List Char → Option (Option α))
    (least : Nat) (most : Option Nat) (mark : Mark) : List Char → Option (Option α)
  | [] => if kind ' ' then none else foresettle next least mark []
  | c :: rest =>
      if most ≠ some 0 ∧ kind c = true then
        match forecastEager kind next (least - 1) (most.map (· - 1)) (mark.pass c) rest with
        | some none => foresettle next least mark (c :: rest)
        | other => other
      else foresettle next least mark (c :: rest)

/-- Forecast a reluctant repetition. -/
def forecastReluctant (kind : Char → Bool) (next : Mark → List Char → Option (Option α))
    (least : Nat) (most : Option Nat) (mark : Mark) : List Char → Option (Option α)
  | [] => if kind ' ' then none else foresettle next least mark []
  | c :: rest =>
      match foresettle next least mark (c :: rest) with
      | some none =>
          if most ≠ some 0 ∧ kind c = true then
            forecastReluctant kind next (least - 1) (most.map (· - 1)) (mark.pass c) rest
          else some none
      | other => other

/-- What a pattern finds at the beginning of a text that starts with `known` and
then ends or goes on with a space.  Without an answer the rest of the text matters. -/
def forecast : Pattern Empty → (Mark → List Char → Option (Option α)) → Mark → List Char →
    Option (Option α)
  | nothing, next, mark, known => next mark known
  | one kind, next, mark, known =>
      match known with
      | [] => if kind ' ' then none else some none
      | c :: tail => if kind c then next (mark.pass c) tail else some none
  | many kind least most .eager, next, mark, known =>
      forecastEager kind next least most mark known
  | many kind least most .reluctant, next, mark, known =>
      forecastReluctant kind next least most mark known
  | edge, next, mark, known =>
      if isEdge mark.before known.head? then next mark known else some none
  | ahead kind, next, mark, known =>
      match known with
      | [] => if kind ' ' then none else some none
      | c :: tail => if kind c then next mark (c :: tail) else some none
  | group body, next, mark, known =>
      body.forecast
        (fun inner tail =>
          next { inner with kept := inner.kept ++ [(mark.passed, inner.passed)] } tail)
        mark known
  | seq first second, next, mark, known =>
      first.forecast (fun inner tail => second.forecast next inner tail) mark known
  | alt first second, next, mark, known =>
      match first.forecast next mark known with
      | some none => second.forecast next mark known
      | other => other

end

/-! ### Forecasts come true -/

/-- What may follow a word: the end of the text, or a space. -/
def EndsWord (tail : List Char) : Prop :=
  tail = [] ∨ ∃ rest, tail = ' ' :: rest

/-- Marks that differ at most in the stretches kept and in the character just
passed, as long as it is a word character in both or in neither. -/
structure Alike (mark other : Mark) : Prop where
  before : mark.before.any isWordCharacter = other.before.any isWordCharacter
  passed : mark.passed = other.passed

theorem Alike.pass {mark other : Mark} (alike : Alike mark other) (c : Char) :
    Alike (mark.pass c) (other.pass c) where
  before := rfl
  passed := congrArg (· + 1) alike.passed

variable {α β : Type}

/-- Answers about known words that come true for a given rest of the text, seen
through `view`. -/
def Foretells (tail : List Char) (view : β → α) (next : Mark → List Char → Option (Option α))
    (later : Mark → List Char → Option β) : Prop :=
  ∀ {mark other : Mark} {known : List Char} {result : Option α}, Alike mark other →
    next mark known = some result → (later other (known ++ tail)).map view = result

variable {tail : List Char} {view : β → α} {next : Mark → List Char → Option (Option α)}
  {later : Mark → List Char → Option β}

theorem foretells_settle (foretells : Foretells tail view next later) (least : Nat) :
    Foretells tail view (foresettle next least) (settle later least) := by
  intro mark other known result alike foreseen
  unfold foresettle at foreseen
  unfold settle
  split at foreseen
  · rename_i settled
    rw [if_pos settled]
    exact foretells alike foreseen
  · rename_i owed
    rw [if_neg owed]
    exact Option.some.inj foreseen

/-- Behind the known words a repetition that takes no space is over. -/
theorem runEager_tail (ends : EndsWord tail) {kind : Char → Bool} (noSpace : ¬ kind ' ')
    (least : Nat) (most : Option Nat) (mark : Mark) :
    runEager kind later least most mark tail = settle later least mark tail := by
  rcases ends with rfl | ⟨rest, rfl⟩
  · rfl
  · rw [runEager, if_neg (fun taken => noSpace taken.2)]

theorem runReluctant_tail (ends : EndsWord tail) {kind : Char → Bool} (noSpace : ¬ kind ' ')
    (least : Nat) (most : Option Nat) (mark : Mark) :
    runReluctant kind later least most mark tail = settle later least mark tail := by
  rcases ends with rfl | ⟨rest, rfl⟩
  · rfl
  · rw [runReluctant, if_neg (fun taken => noSpace taken.2)]
    split
    · rename_i found
      exact found.symm
    · rename_i missed
      exact missed.symm

theorem foretells_eager (ends : EndsWord tail) (foretells : Foretells tail view next later)
    (kind : Char → Bool) (least : Nat) (most : Option Nat) :
    Foretells tail view (forecastEager kind next least most)
      (runEager kind later least most) := by
  intro mark other known
  induction known generalizing mark other least most with
  | nil =>
      intro result alike foreseen
      rw [forecastEager] at foreseen
      split at foreseen
      · cases foreseen
      · rename_i noSpace
        rw [List.nil_append, runEager_tail ends noSpace]
        exact foretells_settle foretells least alike foreseen
  | cons c rest inductionHypothesis =>
      intro result alike foreseen
      have settled {result : Option α}
          (foreseen : foresettle next least mark (c :: rest) = some result) :
          (settle later least other (c :: (rest ++ tail))).map view = result :=
        foretells_settle foretells least alike foreseen
      rw [forecastEager] at foreseen
      rw [List.cons_append, runEager]
      split at foreseen
      · rename_i taken
        rw [if_pos taken]
        cases longer :
            forecastEager kind next (least - 1) (most.map (· - 1)) (mark.pass c) rest with
        | none =>
            rw [longer] at foreseen
            cases foreseen
        | some longest =>
            have ranOn := inductionHypothesis (least - 1) (most.map (· - 1)) (alike.pass c) longer
            rw [longer] at foreseen
            cases longest with
            | none =>
                rw [Option.map_eq_none_iff.mp ranOn]
                exact settled foreseen
            | some value =>
                obtain ⟨found, ran, rfl⟩ := Option.map_eq_some_iff.mp ranOn
                rw [ran]
                exact Option.some.inj foreseen
      · rename_i refused
        rw [if_neg refused]
        exact settled foreseen

theorem foretells_reluctant (ends : EndsWord tail) (foretells : Foretells tail view next later)
    (kind : Char → Bool) (least : Nat) (most : Option Nat) :
    Foretells tail view (forecastReluctant kind next least most)
      (runReluctant kind later least most) := by
  intro mark other known
  induction known generalizing mark other least most with
  | nil =>
      intro result alike foreseen
      rw [forecastReluctant] at foreseen
      split at foreseen
      · cases foreseen
      · rename_i noSpace
        rw [List.nil_append, runReluctant_tail ends noSpace]
        exact foretells_settle foretells least alike foreseen
  | cons c rest inductionHypothesis =>
      intro result alike foreseen
      rw [forecastReluctant] at foreseen
      rw [List.cons_append, runReluctant]
      cases short : foresettle next least mark (c :: rest) with
      | none =>
          rw [short] at foreseen
          cases foreseen
      | some shortest =>
          have settled : (settle later least other (c :: (rest ++ tail))).map view = shortest :=
            foretells_settle foretells least alike short
          rw [short] at foreseen
          cases shortest with
          | none =>
              rw [Option.map_eq_none_iff.mp settled]
              dsimp only at foreseen ⊢
              split at foreseen
              · rename_i taken
                rw [if_pos taken]
                exact inductionHypothesis (least - 1) (most.map (· - 1)) (alike.pass c) foreseen
              · rename_i refused
                rw [if_neg refused]
                exact Option.some.inj foreseen
          | some value =>
              obtain ⟨found, ran, rfl⟩ := Option.map_eq_some_iff.mp settled
              rw [ran]
              exact Option.some.inj foreseen

/-- Neither the end of a text nor a space belongs to a word. -/
theorem isEdge_append (ends : EndsWord tail) {mark other : Mark} (alike : Alike mark other)
    (known : List Char) :
    isEdge other.before (known ++ tail).head? = isEdge mark.before known.head? := by
  have sameAfter : (known ++ tail).head?.any isWordCharacter = known.head?.any isWordCharacter := by
    cases known with
    | cons c rest => rfl
    | nil =>
        rcases ends with rfl | ⟨rest, rfl⟩
        · rfl
        · have noWord : isWordCharacter ' ' = false := by decide
          simpa using noWord
  rw [isEdge, isEdge, alike.before, sameAfter]

/-- Forecasts come true, whatever the rest of the text is behind its space. -/
theorem foretells_forecast (ends : EndsWord tail) (pattern : Pattern Empty)
    (foretells : Foretells tail view next later) :
    Foretells tail view (pattern.forecast next) (pattern.run later) := by
  induction pattern generalizing next later with
  | nothing => exact foretells
  | slot key => cases key
  | one kind =>
      intro mark other known result alike foreseen
      cases known with
      | nil =>
          rw [forecast] at foreseen
          split at foreseen
          · cases foreseen
          · rename_i noSpace
            rcases ends with rfl | ⟨rest, rfl⟩
            · exact Option.some.inj foreseen
            · simpa [run, noSpace] using foreseen
      | cons c rest =>
          rw [forecast] at foreseen
          rw [List.cons_append, run]
          split at foreseen
          · rename_i taken
            rw [if_pos taken]
            exact foretells (alike.pass c) foreseen
          · rename_i refused
            rw [if_neg refused]
            exact Option.some.inj foreseen
  | many kind least most appetite =>
      cases appetite with
      | eager => exact foretells_eager ends foretells kind least most
      | reluctant => exact foretells_reluctant ends foretells kind least most
  | edge =>
      intro mark other known result alike foreseen
      rw [forecast] at foreseen
      rw [run, isEdge_append ends alike]
      split at foreseen
      · rename_i isEdge
        rw [if_pos isEdge]
        exact foretells alike foreseen
      · rename_i noEdge
        rw [if_neg noEdge]
        exact Option.some.inj foreseen
  | ahead kind =>
      intro mark other known result alike foreseen
      cases known with
      | nil =>
          rw [forecast] at foreseen
          split at foreseen
          · cases foreseen
          · rename_i noSpace
            rcases ends with rfl | ⟨rest, rfl⟩
            · exact Option.some.inj foreseen
            · simpa [run, noSpace] using foreseen
      | cons c rest =>
          rw [forecast] at foreseen
          rw [List.cons_append, run]
          split at foreseen
          · rename_i allowed
            rw [if_pos (by simpa using allowed)]
            exact foretells alike foreseen
          · rename_i refused
            rw [if_neg (by simpa using refused)]
            exact Option.some.inj foreseen
  | group body inductionHypothesis =>
      intro mark other known result alike foreseen
      rw [forecast] at foreseen
      rw [run]
      refine inductionHypothesis ?_ alike foreseen
      intro inner otherInner rest result innerAlike
      exact foretells ⟨innerAlike.before, innerAlike.passed⟩
  | seq first second firstHypothesis secondHypothesis =>
      exact firstHypothesis (secondHypothesis foretells)
  | alt first second firstHypothesis secondHypothesis =>
      intro mark other known result alike foreseen
      rw [forecast] at foreseen
      rw [run]
      cases firstForecast : first.forecast next mark known with
      | none =>
          rw [firstForecast] at foreseen
          cases foreseen
      | some firstResult =>
          have firstRun := firstHypothesis foretells alike firstForecast
          rw [firstForecast] at foreseen
          cases firstResult with
          | none =>
              rw [Option.map_eq_none_iff.mp firstRun]
              exact secondHypothesis foretells alike foreseen
          | some value =>
              obtain ⟨found, ran, rfl⟩ := Option.map_eq_some_iff.mp firstRun
              rw [ran]
              exact Option.some.inj foreseen

/-! ### Characters that are missing -/

/-- Whether a pattern asks for a character outside of an alphabet.  The end of a
pattern is looked at first, since the mark that closes a command stands there. -/
def isBarred (alphabet : List Char) : Pattern Empty → Bool
  | one kind => alphabet.all fun c => !kind c
  | many kind least _ _ => decide (least ≠ 0) && alphabet.all fun c => !kind c
  | group body => body.isBarred alphabet
  | seq first second => second.isBarred alphabet || first.isBarred alphabet
  | alt first second => first.isBarred alphabet && second.isBarred alphabet
  | _ => false

/-- A text that is spelled with the characters of an alphabet. -/
def SpelledIn (alphabet text : List Char) : Prop :=
  ∀ c ∈ text, c ∈ alphabet

variable {alphabet text : List Char}

theorem runEager_of_none (kind : Char → Bool) (least : Nat) (most : Option Nat) (mark : Mark)
    (stops : ∀ mark text, SpelledIn alphabet text → later mark text = none)
    (spelled : SpelledIn alphabet text) : runEager kind later least most mark text = none := by
  have settled {text : List Char} (spelled : SpelledIn alphabet text) (least : Nat)
      (mark : Mark) : settle later least mark text = none := by
    rw [settle, stops mark text spelled, ite_self]
  induction text generalizing least most mark with
  | nil => exact settled spelled least mark
  | cons c rest inductionHypothesis =>
      have restSpelled := (List.forall_mem_cons.mp spelled).2
      rw [runEager, inductionHypothesis _ _ _ restSpelled, settled spelled]
      split <;> rfl

theorem runReluctant_of_none (kind : Char → Bool) (least : Nat) (most : Option Nat)
    (mark : Mark) (stops : ∀ mark text, SpelledIn alphabet text → later mark text = none)
    (spelled : SpelledIn alphabet text) :
    runReluctant kind later least most mark text = none := by
  have settled {text : List Char} (spelled : SpelledIn alphabet text) (least : Nat)
      (mark : Mark) : settle later least mark text = none := by
    rw [settle, stops mark text spelled, ite_self]
  induction text generalizing least most mark with
  | nil => exact settled spelled least mark
  | cons c rest inductionHypothesis =>
      have restSpelled := (List.forall_mem_cons.mp spelled).2
      rw [runReluctant, settled spelled]
      dsimp only
      rw [inductionHypothesis _ _ _ restSpelled, ite_self]

/-- A pattern goes on with ends of its text only, so that it fails where all of
them fail. -/
theorem run_of_none (pattern : Pattern Empty) (mark : Mark)
    (stops : ∀ mark text, SpelledIn alphabet text → later mark text = none)
    (spelled : SpelledIn alphabet text) : pattern.run later mark text = none := by
  induction pattern generalizing later mark text with
  | nothing => exact stops mark text spelled
  | slot key => cases key
  | one kind =>
      cases text with
      | nil => rfl
      | cons c rest =>
          rw [run, stops _ _ (List.forall_mem_cons.mp spelled).2, ite_self]
  | many kind least most appetite =>
      cases appetite with
      | eager => exact runEager_of_none kind least most mark stops spelled
      | reluctant => exact runReluctant_of_none kind least most mark stops spelled
  | edge | ahead kind => rw [run, stops mark text spelled, ite_self]
  | group body inductionHypothesis =>
      exact inductionHypothesis mark (fun inner rest => stops _ rest) spelled
  | seq first second firstHypothesis secondHypothesis =>
      exact firstHypothesis mark (fun inner rest => secondHypothesis inner stops) spelled
  | alt first second firstHypothesis secondHypothesis =>
      rw [run, firstHypothesis mark stops spelled]
      exact secondHypothesis mark stops spelled

/-- A pattern that asks for a missing character fits nowhere. -/
theorem run_of_isBarred (pattern : Pattern Empty) (barred : pattern.isBarred alphabet)
    (later : Mark → List Char → Option β) (mark : Mark) (spelled : SpelledIn alphabet text) :
    pattern.run later mark text = none := by
  induction pattern generalizing later mark text with
  | nothing | edge | ahead kind => cases barred
  | slot key => cases key
  | one kind =>
      cases text with
      | nil => rfl
      | cons c rest =>
          have refused := List.all_eq_true.mp barred c (spelled c List.mem_cons_self)
          rw [run, if_neg (by simpa using refused)]
  | many kind least most appetite =>
      obtain ⟨owed, refused⟩ := Bool.and_eq_true_iff.mp barred
      have unsettled (text : List Char) : settle later least mark text = none :=
        if_neg (of_decide_eq_true owed)
      cases text with
      | nil => cases appetite <;> exact unsettled []
      | cons c rest =>
          have refusedFirst := List.all_eq_true.mp refused c (spelled c List.mem_cons_self)
          cases appetite with
          | eager => simp_all [run, runEager]
          | reluctant => simp_all [run, runReluctant]
  | group body inductionHypothesis => exact inductionHypothesis barred _ mark spelled
  | seq first second firstHypothesis secondHypothesis =>
      rcases Bool.or_eq_true_iff.mp barred with secondBarred | firstBarred
      · exact run_of_none first mark
          (fun inner rest => secondHypothesis secondBarred later inner) spelled
      · exact firstHypothesis firstBarred _ mark spelled
  | alt first second firstHypothesis secondHypothesis =>
      obtain ⟨firstBarred, secondBarred⟩ := Bool.and_eq_true_iff.mp barred
      rw [run, firstHypothesis firstBarred later mark spelled]
      exact secondHypothesis secondBarred later mark spelled

end Pattern

/-! ### Rules on known words -/

open Pattern

/-- What a pattern finds at the beginning of a text with these words in front, as
the number of characters passed. -/
def Pattern.foresee (pattern : Pattern Empty) (known : List Char) : Option (Option Nat) :=
  pattern.forecast (fun mark _ => some (some mark.passed)) ⟨none, 0, []⟩ known

/-- Whether a rule finds nothing where the known words begin, whatever follows them
in the letters of an alphabet. -/
def FilledRule.passesOver (alphabet known : List Char) (rule : FilledRule) : Bool :=
  match rule.pattern with
  | .error _ => false
  | .ok pattern => pattern.isBarred alphabet || pattern.foresee known == some none

/-- Whether a rule finds exactly the known words, whatever follows them. -/
def FilledRule.takes (known : List Char) (rule : FilledRule) : Bool :=
  match rule.pattern with
  | .error _ => false
  | .ok pattern => pattern.foresee known == some (some known.length)

section

variable {alphabet known tail : List Char} {before : Option Char} {pattern : Pattern Empty}

/-- Behind no word, recognition passes what was foreseen. -/
theorem passed_of_foresee (apart : before.any isWordCharacter = false) (ends : EndsWord tail)
    {result : Option Nat} (foreseen : pattern.foresee known = some result) :
    (pattern.run (fun mark _ => some mark) ⟨before, 0, []⟩ (known ++ tail)).map Mark.passed =
      result := by
  have alike : Alike ⟨none, 0, []⟩ ⟨before, 0, []⟩ := ⟨apart.symm, rfl⟩
  refine foretells_forecast ends pattern ?_ alike foreseen
  intro mark other known result alike foreseen
  rw [← Option.some.inj foreseen, alike.passed]
  rfl

theorem match?_of_isBarred (barred : pattern.isBarred alphabet)
    (spelled : SpelledIn alphabet (known ++ tail)) :
    pattern.match? before (known ++ tail) = none := by
  rw [match?, run_of_isBarred pattern barred _ _ spelled]
  rfl

theorem match?_of_foresee_none (apart : before.any isWordCharacter = false)
    (ends : EndsWord tail) (foreseen : pattern.foresee known = some none) :
    pattern.match? before (known ++ tail) = none := by
  rw [match?, Option.map_eq_none_iff.mp (passed_of_foresee apart ends foreseen)]
  rfl

theorem match?_of_foresee_some (apart : before.any isWordCharacter = false)
    (ends : EndsWord tail) (foreseen : pattern.foresee known = some (some known.length)) :
    ∃ groups, pattern.match? before (known ++ tail) = some ⟨known, groups⟩ := by
  obtain ⟨mark, ran, passed⟩ :=
    Option.map_eq_some_iff.mp (passed_of_foresee apart ends foreseen)
  refine ⟨mark.kept.map (stretch (known ++ tail)), ?_⟩
  rw [match?, ran, Option.map_some, passed, List.take_left']
  rfl

/-- A rule that finds nothing leaves the text to those after it. -/
theorem attempt_of_passesOver {rule : FilledRule} (passed : rule.passesOver alphabet known)
    (apart : before.any isWordCharacter = false) (ends : EndsWord tail)
    (spelled : SpelledIn alphabet (known ++ tail)) (tried : Nat) (rules : List FilledRule) :
    attempt before (known ++ tail) tried (rule :: rules) =
      attempt before (known ++ tail) (tried + 1) rules := by
  rw [FilledRule.passesOver] at passed
  rw [attempt]
  cases filled : rule.pattern with
  | error fault =>
      rw [filled] at passed
      cases passed
  | ok pattern =>
      rw [filled] at passed
      dsimp only
      rcases Bool.or_eq_true_iff.mp passed with barred | foreseen
      · rw [match?_of_isBarred barred spelled]
      · rw [match?_of_foresee_none apart ends (eq_of_beq foreseen)]

/-- A rule that finds the known words makes its token of them. -/
theorem attempt_of_takes {rule : FilledRule} (takes : rule.takes known)
    (someLetter : known ≠ []) (apart : before.any isWordCharacter = false)
    (ends : EndsWord tail) (tried : Nat) (rules : List FilledRule) :
    ∃ groups, attempt before (known ++ tail) tried (rule :: rules) =
      .found known (rule.build ⟨known, groups⟩) (tried + 1) := by
  rw [FilledRule.takes] at takes
  rw [attempt]
  cases filled : rule.pattern with
  | error fault =>
      rw [filled] at takes
      cases takes
  | ok pattern =>
      rw [filled] at takes
      obtain ⟨groups, found⟩ := match?_of_foresee_some apart ends (eq_of_beq takes)
      refine ⟨groups, ?_⟩
      dsimp only
      rw [found]
      exact if_neg (by simpa using someLetter)

/-- The first rule that does not pass over the known words takes them off the text. -/
theorem attempt_of_passed {earlier later : List FilledRule} {rule : FilledRule}
    (passed : ∀ other ∈ earlier, other.passesOver alphabet known) (takes : rule.takes known)
    (someLetter : known ≠ []) (apart : before.any isWordCharacter = false)
    (ends : EndsWord tail) (spelled : SpelledIn alphabet (known ++ tail)) (tried : Nat) :
    ∃ groups count, attempt before (known ++ tail) tried (earlier ++ rule :: later) =
      .found known (rule.build ⟨known, groups⟩) count := by
  induction earlier generalizing tried with
  | nil =>
      obtain ⟨groups, found⟩ := attempt_of_takes takes someLetter apart ends tried later
      exact ⟨groups, tried + 1, found⟩
  | cons other others inductionHypothesis =>
      obtain ⟨firstPassed, othersPassed⟩ := List.forall_mem_cons.mp passed
      rw [List.cons_append, attempt_of_passesOver firstPassed apart ends spelled]
      exact inductionHypothesis othersPassed (tried + 1)

end

/-! ### Words of a class -/

namespace Pattern

variable {known : List Char}

/-- One word of a class at the beginning of a text, up to an edge behind it. -/
def foreseeWord (known word : List Char) : Option (Option Nat) :=
  (word.foldr
    (fun c rest => seq (if c == ' ' then someBlanks else one (letterKind true c)) rest)
    nothing).forecast
      (fun mark rest =>
        if isEdge mark.before rest.head? then some (some mark.passed) else some none)
      ⟨none, 0, []⟩ known

/-- Whether a word may start with a given letter. -/
def mayStart (c : Char) : List Char → Bool
  | [] => true
  | d :: _ => d == ' ' || sameLetter d c

theorem foreseeWord_of_mayStart {c : Char} {word : List Char} (apart : ¬ mayStart c word)
    (rest : List Char) : foreseeWord (c :: rest) word = some none := by
  cases word with
  | nil => exact absurd rfl apart
  | cons d others =>
      simp only [mayStart, Bool.or_eq_true, not_or] at apart
      have isLetter : (d == ' ') = false := by simpa using apart.1
      simp only [foreseeWord, List.foldr_cons, isLetter, forecast, letterKind]
      exact if_neg apart.2

/-- Whether the known word fits and no other word of a list does.  Words that cannot
start with its first letter are left out at once. -/
def standsOut (words : List (List Char)) : List Char → Bool
  | [] => false
  | c :: rest =>
      (words.filter (mayStart c)).all fun word =>
        foreseeWord (c :: rest) word ==
          if word = c :: rest then some (some (rest.length + 1)) else some none

theorem foreseeWord_of_standsOut {words : List (List Char)} (outstanding : standsOut words known)
    {word : List Char} (isWord : word ∈ words) :
    foreseeWord known word =
      if word = known then some (some known.length) else some none := by
  cases known with
  | nil => cases outstanding
  | cons c rest =>
      by_cases starts : mayStart c word
      · have member := List.mem_filter.mpr ⟨isWord, starts⟩
        exact eq_of_beq (List.all_eq_true.mp outstanding word member)
      · have other : word ≠ c :: rest := by
          rintro rfl
          simp [mayStart, sameLetter] at starts
        rw [if_neg other]
        exact foreseeWord_of_mayStart starts rest

section

variable {α : Type} {next : Mark → List Char → Option (Option α)} {mark : Mark}

/-- Where no alternative fits, a choice does not fit. -/
theorem forecast_choice_none {patterns : List (Pattern Empty)} (someChoice : patterns ≠ [])
    (refused : ∀ pattern ∈ patterns, pattern.forecast next mark known = some none) :
    (choice patterns).forecast next mark known = some none := by
  induction patterns with
  | nil => exact absurd rfl someChoice
  | cons first others inductionHypothesis =>
      obtain ⟨firstRefused, othersRefused⟩ := List.forall_mem_cons.mp refused
      cases others with
      | nil => exact firstRefused
      | cons second rest =>
          rw [choice, forecast, firstRefused]
          · exact inductionHypothesis (List.cons_ne_nil _ _) othersRefused
          · exact List.cons_ne_nil _ _

/-- Where all alternatives that fit give one answer, so does a choice, in whichever
order they stand. -/
theorem forecast_choice_some {patterns : List (Pattern Empty)} {value : α}
    (answers : ∀ pattern ∈ patterns, pattern.forecast next mark known = some none ∨
      pattern.forecast next mark known = some (some value))
    (fits : ∃ pattern ∈ patterns, pattern.forecast next mark known = some (some value)) :
    (choice patterns).forecast next mark known = some (some value) := by
  induction patterns with
  | nil => simp at fits
  | cons first others inductionHypothesis =>
      obtain ⟨firstAnswers, othersAnswer⟩ := List.forall_mem_cons.mp answers
      have fitsOthers (firstRefused : first.forecast next mark known = some none) :
          ∃ pattern ∈ others, pattern.forecast next mark known = some (some value) := by
        obtain ⟨pattern, member, found⟩ := fits
        rcases List.mem_cons.mp member with rfl | isOther
        · rw [firstRefused] at found
          cases found
        · exact ⟨pattern, isOther, found⟩
      cases others with
      | nil =>
          rcases firstAnswers with refused | found
          · obtain ⟨pattern, member, _⟩ := fitsOthers refused
            cases member
          · exact found
      | cons second rest =>
          rw [choice, forecast]
          · rcases firstAnswers with refused | found
            · rw [refused]
              exact inductionHypothesis othersAnswer (fitsOthers refused)
            · rw [found]
          · exact List.cons_ne_nil _ _

end

theorem mem_insertByLength {word other : String} {words : List String} :
    other ∈ WordList.insertByLength word words ↔ other = word ∨ other ∈ words := by
  induction words with
  | nil => simp [WordList.insertByLength]
  | cons first rest inductionHypothesis =>
      unfold WordList.insertByLength
      split
      · simp
      · rw [List.mem_cons, inductionHypothesis, List.mem_cons]
        exact or_left_comm

/-- Ordering words by length loses none. -/
theorem mem_longestFirst {word : String} {words : List String} :
    word ∈ WordList.longestFirst words ↔ word ∈ words := by
  unfold WordList.longestFirst
  induction words with
  | nil => simp
  | cons first rest inductionHypothesis =>
      rw [List.foldr_cons, mem_insertByLength, inductionHypothesis, List.mem_cons]

/-- Words of a class are looked for where a word begins. -/
theorem foresee_pattern {list : WordList} (begins : isEdge none known.head?) :
    (list.pattern true).foresee known =
      (choice ((WordList.longestFirst list.words).map (phrase true))).forecast
        (fun mark rest =>
          if isEdge mark.before rest.head? then some (some mark.passed) else some none)
        ⟨none, 0, []⟩ known := by
  exact if_pos begins

/-- A class is passed over if no word of it fits. -/
theorem foresee_pattern_none {list : WordList} (begins : isEdge none known.head?)
    (someWord : list.words ≠ []) (noWord : known ∉ list.words.map String.toList)
    (outstanding : standsOut (list.words.map String.toList) known) :
    (list.pattern true).foresee known = some none := by
  obtain ⟨word, isWord⟩ := List.exists_mem_of_ne_nil _ someWord
  rw [foresee_pattern begins]
  apply forecast_choice_none
  · exact List.ne_nil_of_mem (List.mem_map.mpr ⟨word, mem_longestFirst.mpr isWord, rfl⟩)
  · intro pattern member
    obtain ⟨other, isOther, rfl⟩ := List.mem_map.mp member
    have isListed : other.toList ∈ list.words.map String.toList :=
      List.mem_map_of_mem (mem_longestFirst.mp isOther)
    have differs : other.toList ≠ known := by
      rintro rfl
      exact noWord isListed
    have answer := foreseeWord_of_standsOut outstanding isListed
    rw [if_neg differs] at answer
    exact answer

/-- A word of a class is found if no other word of the class fits. -/
theorem foresee_pattern_some {list : WordList} (begins : isEdge none known.head?)
    (isWord : known ∈ list.words.map String.toList)
    (outstanding : standsOut (list.words.map String.toList) known) :
    (list.pattern true).foresee known = some (some known.length) := by
  rw [foresee_pattern begins]
  apply forecast_choice_some
  · intro pattern member
    obtain ⟨other, isOther, rfl⟩ := List.mem_map.mp member
    have isListed : other.toList ∈ list.words.map String.toList :=
      List.mem_map_of_mem (mem_longestFirst.mp isOther)
    have answer := foreseeWord_of_standsOut outstanding isListed
    split at answer
    · exact Or.inr answer
    · exact Or.inl answer
  · have answer := foreseeWord_of_standsOut outstanding isWord
    rw [if_pos rfl] at answer
    obtain ⟨word, isListed, rfl⟩ := List.mem_map.mp isWord
    exact ⟨phrase true word, List.mem_map_of_mem (mem_longestFirst.mpr isListed), answer⟩

end Pattern

end Playhouse

/-
Module: Playhouse.Proofs.LeadingBlanks
Purpose: White space in front of a source does not matter, but for the lines that it adds.
Main exports: Mark.Level, Pattern.run_of_level, Pattern.match?_of_sameSide, attempt_of_sameSide,
  scanFrom_of_sameSide, noWord_of_isBlank, match?_someBlanks, tokens_scanFrom_skip,
  tokenize_leading_blanks
-/
import Playhouse.Proofs.Consultation
import Playhouse.Proofs.Fitting
import Playhouse.Proofs.TokenLines
import Playhouse.Proofs.Words

namespace Playhouse

open Text

/-!
A rule sees of the text in front of the cursor only whether a word may be going on there: one
pattern asks whether a word begins or ends at its place, and no other looks back.  Behind white
space no word is going on, just as at the beginning of a source.  So a scan that has passed the
white space in front of a source makes the steps that it makes without it, further down.
-/

/-! ### What recognition sees of the text in front -/

/-- Two places are alike for a word: one is going on at both of them or at neither. -/
def SameSide (before other : Option Char) : Prop :=
  before.any isWordCharacter = other.any isWordCharacter

/-- Behind the same stretch, two places that were alike are alike again. -/
theorem SameSide.after {before other : Option Char} (same : SameSide before other)
    (text : List Char) : SameSide (text.getLast?.or before) (text.getLast?.or other) := by
  cases text.getLast? with
  | none => exact same
  | some c => exact rfl

/-- Marks that differ only in the character passed, at places that are alike. -/
structure Mark.Level (mark other : Mark) : Prop where
  before : SameSide mark.before other.before
  passed : mark.passed = other.passed
  kept : mark.kept = other.kept

theorem Mark.Level.pass {mark other : Mark} (level : mark.Level other) (c : Char) :
    (mark.pass c).Level (other.pass c) where
  before := rfl
  passed := congrArg (· + 1) level.passed
  kept := level.kept

namespace Pattern

section

variable {α β : Type}

/-- Two ways of going on that cannot be told apart at level marks, seen through `view`. -/
def Concur (view : α → β) (next later : Mark → List Char → Option α) : Prop :=
  ∀ {mark other : Mark} (rest : List Char), mark.Level other →
    (next mark rest).map view = (later other rest).map view

variable {view : α → β} {next later : Mark → List Char → Option α}

theorem Concur.settle (concur : Concur view next later) (least : Nat) :
    Concur view (settle next least) (settle later least) := by
  intro mark other rest level
  unfold Pattern.settle
  split
  · exact concur rest level
  · rfl

theorem Concur.runEager (concur : Concur view next later) (kind : Char → Bool) (least : Nat)
    (most : Option Nat) :
    Concur view (runEager kind next least most) (runEager kind later least most) := by
  intro mark other rest level
  induction rest generalizing mark other least most with
  | nil => exact concur.settle least [] level
  | cons c rest inductionHypothesis =>
      have settled := concur.settle least (c :: rest) level
      have longer := inductionHypothesis (least - 1) (most.map (· - 1)) (level.pass c)
      rw [Pattern.runEager, Pattern.runEager]
      split
      · cases ranOn : Pattern.runEager kind next (least - 1) (most.map (· - 1)) (mark.pass c) rest
          with
        | none =>
            rw [ranOn] at longer
            rw [Option.map_eq_none_iff.mp longer.symm]
            exact settled
        | some result =>
            rw [ranOn] at longer
            obtain ⟨found, alsoRanOn, sameView⟩ := Option.map_eq_some_iff.mp longer.symm
            rw [alsoRanOn]
            exact congrArg some sameView.symm
      · exact settled

theorem Concur.runReluctant (concur : Concur view next later) (kind : Char → Bool) (least : Nat)
    (most : Option Nat) :
    Concur view (runReluctant kind next least most) (runReluctant kind later least most) := by
  intro mark other rest level
  induction rest generalizing mark other least most with
  | nil => exact concur.settle least [] level
  | cons c rest inductionHypothesis =>
      have settled := concur.settle least (c :: rest) level
      have longer := inductionHypothesis (least - 1) (most.map (· - 1)) (level.pass c)
      rw [Pattern.runReluctant, Pattern.runReluctant]
      cases stopped : Pattern.settle next least mark (c :: rest) with
      | none =>
          rw [stopped] at settled
          rw [Option.map_eq_none_iff.mp settled.symm]
          dsimp only
          split
          · exact longer
          · rfl
      | some result =>
          rw [stopped] at settled
          obtain ⟨found, alsoStopped, sameView⟩ := Option.map_eq_some_iff.mp settled.symm
          rw [alsoStopped]
          exact congrArg some sameView.symm

/-- A recognition goes the same way from level marks. -/
theorem run_of_level (pattern : Pattern Empty) (concur : Concur view next later) :
    Concur view (pattern.run next) (pattern.run later) := by
  induction pattern generalizing next later with
  | nothing => exact concur
  | slot key => exact key.elim
  | one kind =>
      intro mark other rest level
      cases rest with
      | nil => rfl
      | cons c tail =>
          rw [run, run]
          split
          · exact concur tail (level.pass c)
          · rfl
  | many kind least most appetite =>
      cases appetite with
      | eager => exact concur.runEager kind least most
      | reluctant => exact concur.runReluctant kind least most
  | edge =>
      intro mark other rest level
      have sameEdge : isEdge mark.before rest.head? = isEdge other.before rest.head? := by
        rw [isEdge, isEdge, level.before]
      rw [run, run, sameEdge]
      split
      · exact concur rest level
      · rfl
  | ahead kind =>
      intro mark other rest level
      rw [run, run]
      split
      · exact concur rest level
      · rfl
  | group body inductionHypothesis =>
      intro mark other rest level
      rw [run, run, level.passed]
      apply inductionHypothesis _ rest level
      intro inner otherInner tail innerLevel
      apply concur tail
      exact ⟨innerLevel.before, innerLevel.passed, by rw [innerLevel.kept, innerLevel.passed]⟩
  | seq first second firstHypothesis secondHypothesis =>
      exact firstHypothesis (secondHypothesis concur)
  | alt first second firstHypothesis secondHypothesis =>
      intro mark other rest level
      have firstRan := firstHypothesis concur rest level
      rw [run, run]
      cases ran : first.run next mark rest with
      | none =>
          rw [ran] at firstRan
          rw [Option.map_eq_none_iff.mp firstRan.symm]
          exact secondHypothesis concur rest level
      | some result =>
          rw [ran] at firstRan
          obtain ⟨found, alsoRan, sameView⟩ := Option.map_eq_some_iff.mp firstRan.symm
          rw [alsoRan]
          exact congrArg some sameView.symm

end

/-- At places that are alike a pattern finds the same. -/
theorem match?_of_sameSide {before other : Option Char} (same : SameSide before other)
    (pattern : Pattern Empty) (rest : List Char) :
    pattern.match? before rest = pattern.match? other rest := by
  let view (mark : Mark) : Found := ⟨rest.take mark.passed, mark.kept.map (stretch rest)⟩
  have concur : Concur view (fun mark _ => some mark) fun mark _ => some mark := by
    intro mark other _ level
    simp only [view, Option.map_some, level.passed, level.kept]
  exact run_of_level pattern concur rest ⟨same, rfl, rfl⟩

end Pattern

/-! ### Scans from places that are alike -/

/-- At places that are alike the rules make the same of a text. -/
theorem attempt_of_sameSide {before other : Option Char} (same : SameSide before other)
    (rest : List Char) (tried : Nat) (rules : List FilledRule) :
    attempt before rest tried rules = attempt other rest tried rules := by
  induction rules generalizing tried with
  | nil => rfl
  | cons rule rules inductionHypothesis =>
      rw [attempt, attempt]
      cases rule.pattern with
      | error fault => rfl
      | ok pattern =>
          dsimp only
          rw [Pattern.match?_of_sameSide same]
          simp only [inductionHypothesis]

/-- A step a number of lines further down. -/
def Step.lowered (lines : Nat) (step : Step) : Step :=
  { step with line := step.line + lines }

/-- A scan a number of lines further down. -/
def Scan.lowered (lines : Nat) (scan : Scan) : Scan :=
  { scan with steps := scan.steps.map (Step.lowered lines) }

/-- A token a number of lines further down. -/
def Token.lowered (lines : Nat) (token : Token) : Token :=
  { token with line := token.line + lines }

theorem Scan.lowered_zero (scan : Scan) : scan.lowered 0 = scan := by
  have same : Step.lowered 0 = id := rfl
  simp [Scan.lowered, same]

theorem Scan.lowered_cons (lines : Nat) (step : Step) (scan : Scan) :
    (Scan.cons step scan).lowered lines = Scan.cons (step.lowered lines) (scan.lowered lines) :=
  rfl

/-- Scans of one text from places that are alike make the same steps, as many lines apart as
their beginnings. -/
theorem scanFrom_of_sameSide {before other : Option Char} (same : SameSide before other)
    (rules : List FilledRule) (line lines : Nat) (rest : List Char) :
    scanFrom rules other (line + lines) rest =
      (scanFrom rules before line rest).lowered lines := by
  induction before, line, rest using scanFrom.induct rules generalizing other with
  | case1 before line =>
      rw [scanFrom, scanFrom]
      rfl
  | case2 before line c tail fault tried blocked =>
      have alsoBlocked := blocked
      rw [attempt_of_sameSide same] at alsoBlocked
      rw [scanFrom, scanFrom, blocked, alsoBlocked]
      rfl
  | case3 before line c tail tried unknown inductionHypothesis =>
      have alsoUnknown := unknown
      rw [attempt_of_sameSide same] at alsoUnknown
      rw [scanFrom, scanFrom, unknown, alsoUnknown]
      dsimp only
      have sameChar : SameSide (some c) (some c) := rfl
      rw [Scan.lowered_cons, ← inductionHypothesis sameChar, Nat.add_right_comm]
      rfl
  | case4 before line c tail text kind tried found inductionHypothesis =>
      have alsoFound := found
      rw [attempt_of_sameSide same] at alsoFound
      rw [scanFrom, scanFrom, found, alsoFound]
      dsimp only
      rw [Scan.lowered_cons, ← inductionHypothesis (same.after text), Nat.add_right_comm]
      rfl

/-- The tokens of a lowered scan. -/
theorem Scan.tokens_lowered (lines : Nat) (scan : Scan) :
    (scan.lowered lines).tokens = scan.tokens.map (List.map (Token.lowered lines)) := by
  obtain ⟨steps, obstacle⟩ := scan
  cases obstacle with
  | some obstacle => rfl
  | none =>
      have lowered (step : Step) :
          (step.lowered lines).token? = step.token?.map (Token.lowered lines) := by
        obtain ⟨text, line, kind, tried⟩ := step
        cases kind <;> rfl
      apply congrArg Except.ok
      simp only [Scan.lowered, List.filterMap_map, List.map_filterMap, Function.comp_def, lowered]

/-! ### White space -/

/-- White space is not part of a word. -/
theorem noWord_of_isBlank {c : Char} (blank : isBlank c) : isWordCharacter c = false := by
  have none : ∀ point ∈ blankPoints, isWordCharacter (Char.ofNat point) = false := by
    decide +kernel
  have noWord := none c.toNat (mem_blankPoints blank)
  rwa [Char.ofNat_toNat] at noWord

/-- White space up to its end is as good as the beginning of a source. -/
theorem sameSide_of_blanks {before : Option Char} (apart : SameSide none before)
    {text : List Char} (blank : ∀ c ∈ text, isBlank c) :
    SameSide none (text.getLast?.or before) := by
  cases isLast : text.getLast? with
  | none => exact apart
  | some c =>
      have noWord := noWord_of_isBlank (blank c (List.mem_of_getLast? isLast))
      exact noWord.symm

namespace Pattern

/-- An eager repetition takes all that it can. -/
theorem runEager_takeWhile (kind : Char → Bool) (mark : Mark) (rest : List Char) :
    runEager kind (fun mark _ => some mark) 0 none mark rest =
      some (mark.after (rest.takeWhile kind) []) := by
  induction rest generalizing mark with
  | nil => simp [runEager, settle]
  | cons c rest inductionHypothesis =>
      rw [runEager]
      by_cases isKind : kind c
      · simp [isKind, inductionHypothesis, Mark.after_pass]
      · simp [isKind, settle]

/-- White space is taken up to its end. -/
theorem match?_someBlanks {c : Char} (blank : isBlank c) (before : Option Char)
    (tail : List Char) :
    someBlanks.match? before (c :: tail) = some ⟨(c :: tail).takeWhile isBlank, []⟩ := by
  have ran := runEager_takeWhile isBlank (Mark.pass ⟨before, 0, []⟩ c) tail
  have taken : tail.take (tail.takeWhile isBlank).length = tail.takeWhile isBlank :=
    (List.prefix_iff_eq_take.mp (tail.takeWhile_prefix isBlank)).symm
  rw [match?, someBlanks, run, runEager, if_pos ⟨by simp, blank⟩, Nat.sub_self, Option.map_none,
    ran]
  simp [Mark.after, Mark.pass, blank, taken, Nat.add_comm 1]

end Pattern

/-- At white space the first rule takes all of it, and makes no token. -/
theorem attempt_blanks (vocabulary : Vocabulary) {c : Char} (blank : isBlank c)
    (before : Option Char) (tail : List Char) :
    attempt before (c :: tail) 0 (Rule.table.map vocabulary.fill) =
      .found ((c :: tail).takeWhile isBlank) none 1 := by
  show attempt before (c :: tail) 0 (⟨[], .ok Pattern.someBlanks, Rule.skip⟩ :: _) = _
  rw [attempt]
  dsimp only
  rw [Pattern.match?_someBlanks blank]
  simp [blank, Rule.skip]

/-- A step without a token leaves no trace in the tokens of a scan. -/
theorem Scan.tokens_cons_skip {step : Step} (skipped : step.kind = none) (scan : Scan) :
    (Scan.cons step scan).tokens = scan.tokens := by
  obtain ⟨steps, obstacle⟩ := scan
  cases obstacle with
  | some obstacle => rfl
  | none => simp [Scan.cons, Scan.tokens, Step.token?, skipped]

/-- The tokens of a text are those behind the white space at its beginning. -/
theorem tokens_scanFrom_skip (vocabulary : Vocabulary) (line : Nat) (text : List Char) :
    (scanFrom (Rule.table.map vocabulary.fill) none line text).tokens =
      (scanFrom (Rule.table.map vocabulary.fill) none
        (line + countNewlines (text.takeWhile isBlank)) (text.dropWhile isBlank)).tokens := by
  cases text with
  | nil => rfl
  | cons c tail =>
      by_cases blank : isBlank c
      · have found := attempt_blanks vocabulary blank none tail
        have behind : tail.drop (((c :: tail).takeWhile isBlank).length - 1) =
            (c :: tail).dropWhile isBlank :=
          List.append_cancel_left
            ((rest_of_attempt found).symm.trans List.takeWhile_append_dropWhile.symm)
        have apart : SameSide none (((c :: tail).takeWhile isBlank).getLast?.or none) :=
          sameSide_of_blanks rfl fun d member => List.all_eq_true.mp List.all_takeWhile d member
        have lowered := scanFrom_of_sameSide apart (Rule.table.map vocabulary.fill)
          (line + countNewlines ((c :: tail).takeWhile isBlank)) 0 ((c :: tail).dropWhile isBlank)
        rw [scanFrom, found]
        dsimp only
        rw [Scan.lowered_zero, Nat.add_zero] at lowered
        rw [Scan.tokens_cons_skip rfl, behind, lowered]
      · simp [blank, countNewlines]

/-! ### Sources -/

/-- White space in front of a source makes no difference to what is read: whatever the words
are, the tokens are those of the source, each as many lines further down as the white space
has line feeds, and where a list of words cannot be had, it is the same one. -/
theorem tokenize_leading_blanks (vocabulary : Vocabulary) {space : String}
    (blank : ∀ c ∈ space.toList, isBlank c) (source : String) :
    tokenize vocabulary (space ++ source) =
      (tokenize vocabulary source).map
        (List.map (Token.lowered (countNewlines space.toList))) := by
  have taken : (space ++ source).toList.takeWhile isBlank =
      space.toList ++ source.toList.takeWhile isBlank := by
    rw [String.toList_append, List.takeWhile_append_of_pos blank]
  have dropped : (space ++ source).toList.dropWhile isBlank =
      source.toList.dropWhile isBlank := by
    rw [String.toList_append, List.dropWhile_append_of_pos blank]
  have counted : 1 + countNewlines (space.toList ++ source.toList.takeWhile isBlank) =
      1 + countNewlines (source.toList.takeWhile isBlank) + countNewlines space.toList := by
    rw [countNewlines_append]
    omega
  rw [tokenize, tokenize, scan, scan, tokens_scanFrom_skip, taken, dropped, counted,
    scanFrom_of_sameSide rfl, Scan.tokens_lowered, ← tokens_scanFrom_skip]

/-- Five blanks with two line feeds, in front of a source that begins with more of them. -/
theorem tokenize_leading_blanks_exeunt :
    (∀ c ∈ "\t\n \u3000\n".toList, isBlank c) ∧
      tokenize ⟨[]⟩ "\n [Exeunt]\nso" = .ok [⟨.exit [], 2⟩, ⟨.lexeme (.other "so"), 3⟩] ∧
      tokenize ⟨[]⟩ ("\t\n \u3000\n" ++ "\n [Exeunt]\nso") =
        .ok [⟨.exit [], 4⟩, ⟨.lexeme (.other "so"), 5⟩] := by
  have blank : ∀ c ∈ "\t\n \u3000\n".toList, isBlank c := List.all_eq_true.mp (by decide)
  have cut : tokenize ⟨[]⟩ "\n [Exeunt]\nso" =
      .ok [⟨.exit [], 2⟩, ⟨.lexeme (.other "so"), 3⟩] :=
    Consulting.eq_ok_of_toOption (by decide +kernel)
  refine ⟨blank, cut, ?_⟩
  rw [tokenize_leading_blanks ⟨[]⟩ blank, cut]
  rfl

end Playhouse

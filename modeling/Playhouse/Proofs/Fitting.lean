/-
Module: Playhouse.Proofs.Fitting
Purpose: What a pattern means, apart from the order in which the ways of fitting are tried:
  recognition finds a fitting stretch if there is one, and nothing else.
Main exports: Pattern.Meaning, Pattern.Repeats, Pattern.Fits, Pattern.fits_of_match?,
  Pattern.match?_isSome_of_fits, Pattern.fits_of_fill, Pattern.Renders, Pattern.fits_phrase
-/
import Playhouse.Pattern.Phrase

namespace Playhouse

open Text

/-!
Recognition tries the ways in which a pattern fits one after the other, so that a text may
be cut in many ways before one is settled on.  For most purposes the order does not matter.
`Fits` says of a stretch of text, with what stands in front of it and behind it, that a
pattern fits it in some way, and which parts of it are then kept.  A recognition that
succeeds has found such a way, and one that fails has none to find.
-/

/-! ### Marks -/

namespace Mark

/-- The mark behind a stretch of text, with more stretches kept. -/
def after (mark : Mark) (text : List Char) (places : List (Nat × Nat)) : Mark :=
  ⟨text.getLast?.or mark.before, mark.passed + text.length, mark.kept ++ places⟩

@[simp] theorem after_nil (mark : Mark) : mark.after [] [] = mark := by
  simp [after]

theorem after_pass (mark : Mark) (c : Char) (text : List Char) (places : List (Nat × Nat)) :
    (mark.pass c).after text places = mark.after (c :: text) places := by
  simp only [after, pass, List.getLast?_cons, List.length_cons, mk.injEq, and_true]
  constructor
  · cases text.getLast? <;> rfl
  · omega

theorem after_after (mark : Mark) (left right : List Char)
    (leftPlaces rightPlaces : List (Nat × Nat)) :
    (mark.after left leftPlaces).after right rightPlaces =
      mark.after (left ++ right) (leftPlaces ++ rightPlaces) := by
  simp [after, Option.or_assoc, Nat.add_assoc]

end Mark

/-- The stretch between two places is what lies between them. -/
theorem stretch_between (passed text behind : List Char) :
    stretch (passed ++ (text ++ behind)) (passed.length, passed.length + text.length) = text := by
  simp [stretch]

namespace Pattern

/-! ### The meaning of patterns -/

/-- What is said of a stretch of text: it stands behind a character and in front of a text,
and parts of it are kept. -/
abbrev Meaning :=
  (before : Option Char) → (text behind : List Char) → (kept : List (List Char)) → Prop

/-- A stretch of characters of one kind, neither too short nor too long. -/
structure Repeats (kind : Char → Bool) (least : Nat) (most : Option Nat) (text : List Char) :
    Prop where
  kind : ∀ c ∈ text, kind c
  least : least ≤ text.length
  most : ∀ bound, most = some bound → text.length ≤ bound

/-- A pattern fits a stretch of text.  The open places fit what `places` says. -/
def Fits {κ : Type} (places : κ → Meaning) : Pattern κ → Meaning
  | nothing, _, text, _, kept => text = [] ∧ kept = []
  | one kind, _, text, _, kept => (∃ c, text = [c] ∧ kind c) ∧ kept = []
  | many kind least most _, _, text, _, kept => Repeats kind least most text ∧ kept = []
  | edge, before, text, behind, kept => isEdge before behind.head? ∧ text = [] ∧ kept = []
  | ahead kind, _, text, behind, kept => behind.head?.any kind ∧ text = [] ∧ kept = []
  | slot key, before, text, behind, kept => places key before text behind kept
  | group body, before, text, behind, kept =>
      ∃ inner, body.Fits places before text behind inner ∧ kept = inner ++ [text]
  | seq first second, before, text, behind, kept =>
      ∃ left right keptLeft keptRight, text = left ++ right ∧ kept = keptLeft ++ keptRight ∧
        first.Fits places before left (right ++ behind) keptLeft ∧
        second.Fits places (left.getLast?.or before) right behind keptRight
  | alt first second, before, text, behind, kept =>
      first.Fits places before text behind kept ∨ second.Fits places before text behind kept

/-- Nothing is to be said of open places where there are none. -/
def noPlaces : Empty → Meaning :=
  fun key => key.elim

theorem Repeats.nil (kind : Char → Bool) (most : Option Nat) : Repeats kind 0 most [] :=
  ⟨by simp, by simp, by simp⟩

/-- One character more. -/
theorem Repeats.cons {kind : Char → Bool} {least : Nat} {most : Option Nat} {c : Char}
    {text : List Char} (allowed : most ≠ some 0) (isKind : kind c)
    (repeats : Repeats kind (least - 1) (most.map (· - 1)) text) :
    Repeats kind least most (c :: text) where
  kind := List.forall_mem_cons.mpr ⟨isKind, repeats.kind⟩
  least := by
    have enough := repeats.least
    simp only [List.length_cons]
    omega
  most bound isBound := by
    have notTooMany := repeats.most (bound - 1) (by simp [isBound])
    have positive : bound ≠ 0 := by
      rintro rfl
      exact allowed isBound
    simp only [List.length_cons]
    omega

/-- One character less. -/
theorem Repeats.tail {kind : Char → Bool} {least : Nat} {most : Option Nat} {c : Char}
    {text : List Char} (repeats : Repeats kind least most (c :: text)) :
    (most ≠ some 0 ∧ kind c = true) ∧ Repeats kind (least - 1) (most.map (· - 1)) text := by
  obtain ⟨isKind, enough, notTooMany⟩ := repeats
  simp only [List.length_cons] at enough notTooMany
  refine ⟨⟨?_, isKind c List.mem_cons_self⟩, ?_, ?_, ?_⟩
  · intro noMore
    have impossible := notTooMany 0 noMore
    omega
  · exact fun d member => isKind d (List.mem_cons_of_mem c member)
  · omega
  · intro bound isBound
    obtain ⟨larger, isLarger, rfl⟩ := Option.map_eq_some_iff.mp isBound
    have bounded := notTooMany larger isLarger
    omega

/-! ### What recognition finds fits -/

section

variable {α : Type} {next : Mark → List Char → Option α} {mark : Mark} {text : List Char}
  {result : α} {kind : Char → Bool} {least : Nat} {most : Option Nat}

theorem eq_zero_of_settle (settled : settle next least mark text = some result) :
    least = 0 ∧ next mark text = some result := by
  unfold settle at settled
  split at settled
  · rename_i isZero
    exact ⟨isZero, settled⟩
  · cases settled

/-- A repetition that stops at once. -/
theorem repeats_of_settle (settled : settle next least mark text = some result) :
    ∃ fitted behind, text = fitted ++ behind ∧ Repeats kind least most fitted ∧
      next (mark.after fitted []) behind = some result := by
  obtain ⟨rfl, found⟩ := eq_zero_of_settle settled
  exact ⟨[], text, rfl, .nil kind most, by simpa using found⟩

/-- A repetition that takes one character and goes on. -/
theorem repeats_of_rest {c : Char} {rest : List Char} (taken : most ≠ some 0 ∧ kind c = true)
    (further : ∃ fitted behind, rest = fitted ++ behind ∧
      Repeats kind (least - 1) (most.map (· - 1)) fitted ∧
      next ((mark.pass c).after fitted []) behind = some result) :
    ∃ fitted behind, c :: rest = fitted ++ behind ∧ Repeats kind least most fitted ∧
      next (mark.after fitted []) behind = some result := by
  obtain ⟨fitted, behind, rfl, repeats, found⟩ := further
  rw [Mark.after_pass] at found
  exact ⟨c :: fitted, behind, rfl, .cons taken.1 taken.2 repeats, found⟩

theorem repeats_of_runEager (ran : runEager kind next least most mark text = some result) :
    ∃ fitted behind, text = fitted ++ behind ∧ Repeats kind least most fitted ∧
      next (mark.after fitted []) behind = some result := by
  induction text generalizing least most mark with
  | nil => exact repeats_of_settle ran
  | cons c rest inductionHypothesis =>
      rw [runEager] at ran
      split at ran
      · rename_i taken
        split at ran
        · rename_i longer
          cases ran
          exact repeats_of_rest taken (inductionHypothesis longer)
        · exact repeats_of_settle ran
      · exact repeats_of_settle ran

theorem repeats_of_runReluctant
    (ran : runReluctant kind next least most mark text = some result) :
    ∃ fitted behind, text = fitted ++ behind ∧ Repeats kind least most fitted ∧
      next (mark.after fitted []) behind = some result := by
  induction text generalizing least most mark with
  | nil => exact repeats_of_settle ran
  | cons c rest inductionHypothesis =>
      rw [runReluctant] at ran
      split at ran
      · rename_i settled
        cases ran
        exact repeats_of_settle settled
      · split at ran
        · rename_i taken
          exact repeats_of_rest taken (inductionHypothesis ran)
        · cases ran

/-- A recognition that succeeds has found a fitting stretch.  The places kept are those of
parts of the stretch, whatever was passed before it. -/
theorem fits_of_run {pattern : Pattern Empty} (ran : pattern.run next mark text = some result)
    {passed : List Char} (isPassed : passed.length = mark.passed) :
    ∃ fitted behind places, text = fitted ++ behind ∧
      pattern.Fits noPlaces mark.before fitted behind
        (places.map (stretch (passed ++ text))) ∧
      next (mark.after fitted places) behind = some result := by
  induction pattern generalizing next mark text passed with
  | nothing =>
      rw [run] at ran
      exact ⟨[], text, [], rfl, ⟨rfl, rfl⟩, by simpa using ran⟩
  | slot key => exact key.elim
  | one kind =>
      rw [run.eq_def] at ran
      cases text with
      | nil => cases ran
      | cons c rest =>
          dsimp only at ran
          split at ran
          · rename_i isKind
            refine ⟨[c], rest, [], rfl, ⟨⟨c, rfl, isKind⟩, rfl⟩, ?_⟩
            rw [← Mark.after_pass, Mark.after_nil]
            exact ran
          · cases ran
  | many kind least most appetite =>
      have found : ∃ fitted behind, text = fitted ++ behind ∧ Repeats kind least most fitted ∧
          next (mark.after fitted []) behind = some result := by
        cases appetite with
        | eager => exact repeats_of_runEager ran
        | reluctant => exact repeats_of_runReluctant ran
      obtain ⟨fitted, behind, isText, repeats, found⟩ := found
      exact ⟨fitted, behind, [], isText, ⟨repeats, rfl⟩, found⟩
  | edge =>
      rw [run] at ran
      split at ran
      · rename_i isEdge
        exact ⟨[], text, [], rfl, ⟨isEdge, rfl, rfl⟩, by simpa using ran⟩
      · cases ran
  | ahead kind =>
      rw [run] at ran
      split at ran
      · rename_i allowed
        exact ⟨[], text, [], rfl, ⟨allowed, rfl, rfl⟩, by simpa using ran⟩
      · cases ran
  | group body inductionHypothesis =>
      rw [run] at ran
      obtain ⟨fitted, behind, places, rfl, fits, found⟩ := inductionHypothesis ran isPassed
      refine ⟨fitted, behind, places ++ [(mark.passed, mark.passed + fitted.length)], rfl,
        ⟨_, fits, ?_⟩, ?_⟩
      · simp [← isPassed, stretch_between]
      · simpa [Mark.after] using found
  | seq first second firstHypothesis secondHypothesis =>
      rw [run] at ran
      obtain ⟨left, rest, leftPlaces, rfl, leftFits, ranOn⟩ := firstHypothesis ran isPassed
      have isPassedLeft : (passed ++ left).length = (mark.after left leftPlaces).passed := by
        simp [Mark.after, isPassed]
      obtain ⟨right, behind, rightPlaces, rfl, rightFits, found⟩ :=
        secondHypothesis ranOn isPassedLeft
      rw [List.append_assoc] at rightFits
      refine ⟨left ++ right, behind, leftPlaces ++ rightPlaces, by simp, ?_, ?_⟩
      · exact ⟨left, right, _, _, rfl, List.map_append, leftFits, rightFits⟩
      · rw [Mark.after_after] at found
        exact found
  | alt first second firstHypothesis secondHypothesis =>
      rw [run] at ran
      split at ran
      · rename_i firstRan
        cases ran
        obtain ⟨fitted, behind, places, isText, fits, found⟩ := firstHypothesis firstRan isPassed
        exact ⟨fitted, behind, places, isText, Or.inl fits, found⟩
      · obtain ⟨fitted, behind, places, isText, fits, found⟩ := secondHypothesis ran isPassed
        exact ⟨fitted, behind, places, isText, Or.inr fits, found⟩

/-- What is recognised at the beginning of a text fits there. -/
theorem fits_of_match? {pattern : Pattern Empty} {before : Option Char} {rest : List Char}
    {found : Found} (matched : pattern.match? before rest = some found) :
    ∃ behind, rest = found.text ++ behind ∧
      pattern.Fits noPlaces before found.text behind found.groups := by
  obtain ⟨mark, ran, rfl⟩ := Option.map_eq_some_iff.mp matched
  have isStart : ([] : List Char).length = (Mark.mk before 0 []).passed := rfl
  obtain ⟨fitted, behind, places, rfl, fits, isMark⟩ := fits_of_run ran isStart
  obtain rfl := Option.some.inj isMark
  refine ⟨behind, ?_, ?_⟩
  · simp [Mark.after]
  · simpa [Mark.after] using fits

end

/-! ### What fits is found -/

section

variable {α : Type} {next : Mark → List Char → Option α} {mark : Mark} {behind : List Char}
  {kind : Char → Bool}

theorem runEager_isSome {fitted : List Char} {least : Nat} {most : Option Nat}
    (repeats : Repeats kind least most fitted)
    (goesOn : (next (mark.after fitted []) behind).isSome) :
    (runEager kind next least most mark (fitted ++ behind)).isSome := by
  induction fitted generalizing least most mark with
  | nil =>
      have isZero : least = 0 := Nat.le_zero.mp repeats.least
      have settled : (settle next least mark behind).isSome := by
        simpa [settle, isZero] using goesOn
      rw [List.nil_append]
      cases behind with
      | nil => exact settled
      | cons c rest =>
          rw [runEager]
          split
          · split
            · rfl
            · exact settled
          · exact settled
  | cons c rest inductionHypothesis =>
      obtain ⟨taken, fewer⟩ := repeats.tail
      rw [← Mark.after_pass] at goesOn
      obtain ⟨result, longer⟩ := Option.isSome_iff_exists.mp (inductionHypothesis fewer goesOn)
      rw [List.cons_append, runEager, if_pos taken, longer]
      rfl

theorem runReluctant_isSome {fitted : List Char} {least : Nat} {most : Option Nat}
    (repeats : Repeats kind least most fitted)
    (goesOn : (next (mark.after fitted []) behind).isSome) :
    (runReluctant kind next least most mark (fitted ++ behind)).isSome := by
  induction fitted generalizing least most mark with
  | nil =>
      have isZero : least = 0 := Nat.le_zero.mp repeats.least
      have settled : (settle next least mark behind).isSome := by
        simpa [settle, isZero] using goesOn
      rw [List.nil_append]
      cases behind with
      | nil => exact settled
      | cons c rest =>
          obtain ⟨result, found⟩ := Option.isSome_iff_exists.mp settled
          rw [runReluctant, found]
          rfl
  | cons c rest inductionHypothesis =>
      obtain ⟨taken, fewer⟩ := repeats.tail
      rw [← Mark.after_pass] at goesOn
      rw [List.cons_append, runReluctant]
      split
      · rfl
      · rw [if_pos taken]
        exact inductionHypothesis fewer goesOn

/-- Where a pattern fits and the recognition can go on behind it, it succeeds. -/
theorem run_isSome_of_fits {pattern : Pattern Empty} {fitted : List Char}
    {kept : List (List Char)} (fits : pattern.Fits noPlaces mark.before fitted behind kept)
    (goesOn : ∀ places, (next (mark.after fitted places) behind).isSome) :
    (pattern.run next mark (fitted ++ behind)).isSome := by
  induction pattern generalizing next mark fitted behind kept with
  | nothing =>
      obtain ⟨rfl, -⟩ := fits
      simpa [run] using goesOn []
  | slot key => exact key.elim
  | one kind =>
      obtain ⟨⟨c, rfl, isKind⟩, -⟩ := fits
      have found := goesOn []
      rw [← Mark.after_pass, Mark.after_nil] at found
      simpa [run, isKind] using found
  | many kind least most appetite =>
      obtain ⟨repeats, -⟩ := fits
      cases appetite with
      | eager => exact runEager_isSome repeats (goesOn [])
      | reluctant => exact runReluctant_isSome repeats (goesOn [])
  | edge =>
      obtain ⟨isEdge, rfl, -⟩ := fits
      simpa [run, isEdge] using goesOn []
  | ahead kind =>
      obtain ⟨allowed, rfl, -⟩ := fits
      simpa [run, allowed] using goesOn []
  | group body inductionHypothesis =>
      obtain ⟨inner, bodyFits, -⟩ := fits
      rw [run]
      apply inductionHypothesis bodyFits
      intro places
      have found := goesOn (places ++ [(mark.passed, mark.passed + fitted.length)])
      simpa [Mark.after] using found
  | seq first second firstHypothesis secondHypothesis =>
      obtain ⟨left, right, keptLeft, keptRight, rfl, -, leftFits, rightFits⟩ := fits
      rw [run, List.append_assoc]
      apply firstHypothesis leftFits
      intro leftPlaces
      apply secondHypothesis
      · exact rightFits
      intro rightPlaces
      rw [Mark.after_after]
      exact goesOn (leftPlaces ++ rightPlaces)
  | alt first second firstHypothesis secondHypothesis =>
      rw [run]
      rcases fits with firstFits | secondFits
      · obtain ⟨result, found⟩ :=
          Option.isSome_iff_exists.mp (firstHypothesis firstFits goesOn)
        rw [found]
        rfl
      · split
        · rfl
        · exact secondHypothesis secondFits goesOn

/-- What fits at the beginning of a text is recognised, or something else that fits. -/
theorem match?_isSome_of_fits {pattern : Pattern Empty} {before : Option Char}
    {text : List Char} {kept : List (List Char)}
    (fits : pattern.Fits noPlaces before text behind kept) :
    (pattern.match? before (text ++ behind)).isSome := by
  rw [match?, Option.isSome_map]
  apply run_isSome_of_fits
  · exact fits
  · exact fun _ => rfl

end

/-! ### Open places -/

/-- What the contents of open places mean. -/
def meanings {κ ε : Type} (contents : κ → Except ε (Pattern Empty)) (key : κ) : Meaning :=
  fun before text behind kept =>
    ∃ content, contents key = .ok content ∧ content.Fits noPlaces before text behind kept

section

variable {κ ε : Type} {contents : κ → Except ε (Pattern Empty)} {filled : Pattern Empty}

theorem exists_of_fill_group {body : Pattern κ}
    (isFilled : (group body).fill contents = .ok filled) :
    ∃ inner, body.fill contents = .ok inner ∧ filled = group inner := by
  cases bodyFilled : body.fill contents with
  | error fault =>
      rw [fill, bodyFilled] at isFilled
      cases isFilled
  | ok inner =>
      rw [fill, bodyFilled] at isFilled
      cases isFilled
      exact ⟨inner, rfl, rfl⟩

theorem exists_of_fill_seq {first second : Pattern κ}
    (isFilled : (seq first second).fill contents = .ok filled) :
    ∃ left right, first.fill contents = .ok left ∧ second.fill contents = .ok right ∧
      filled = seq left right := by
  cases firstFilled : first.fill contents with
  | error fault =>
      rw [fill, firstFilled] at isFilled
      cases isFilled
  | ok left =>
      cases secondFilled : second.fill contents with
      | error fault =>
          rw [fill, firstFilled, secondFilled] at isFilled
          cases isFilled
      | ok right =>
          rw [fill, firstFilled, secondFilled] at isFilled
          cases isFilled
          exact ⟨left, right, rfl, rfl, rfl⟩

theorem exists_of_fill_alt {first second : Pattern κ}
    (isFilled : (alt first second).fill contents = .ok filled) :
    ∃ left right, first.fill contents = .ok left ∧ second.fill contents = .ok right ∧
      filled = alt left right := by
  cases firstFilled : first.fill contents with
  | error fault =>
      rw [fill, firstFilled] at isFilled
      cases isFilled
  | ok left =>
      cases secondFilled : second.fill contents with
      | error fault =>
          rw [fill, firstFilled, secondFilled] at isFilled
          cases isFilled
      | ok right =>
          rw [fill, firstFilled, secondFilled] at isFilled
          cases isFilled
          exact ⟨left, right, rfl, rfl, rfl⟩

/-- A pattern whose places have been filled means what it meant before. -/
theorem fits_of_fill {pattern : Pattern κ} (isFilled : pattern.fill contents = .ok filled)
    {before : Option Char} {text behind : List Char} {kept : List (List Char)} :
    filled.Fits noPlaces before text behind kept ↔
      pattern.Fits (meanings contents) before text behind kept := by
  induction pattern generalizing filled before text behind kept with
  | nothing | one kind | many kind least most appetite | edge | ahead kind =>
      cases isFilled
      exact Iff.rfl
  | slot key =>
      constructor
      · intro fits
        exact ⟨filled, isFilled, fits⟩
      · rintro ⟨content, isContent, fits⟩
        cases isFilled.symm.trans isContent
        exact fits
  | group body inductionHypothesis =>
      obtain ⟨inner, bodyFilled, rfl⟩ := exists_of_fill_group isFilled
      simp only [Fits, inductionHypothesis bodyFilled]
  | seq first second firstHypothesis secondHypothesis =>
      obtain ⟨left, right, firstFilled, secondFilled, rfl⟩ := exists_of_fill_seq isFilled
      simp only [Fits, firstHypothesis firstFilled, secondHypothesis secondFilled]
  | alt first second firstHypothesis secondHypothesis =>
      obtain ⟨left, right, firstFilled, secondFilled, rfl⟩ := exists_of_fill_alt isFilled
      simp only [Fits, firstHypothesis firstFilled, secondHypothesis secondFilled]

end

/-! ### Words and phrases -/

section

variable {κ : Type} {places : κ → Meaning} {before : Option Char} {text behind : List Char}
  {kept : List (List Char)}

theorem fits_append {first second : Pattern κ} :
    (first ++ second).Fits places before text behind kept ↔
      ∃ left right keptLeft keptRight, text = left ++ right ∧ kept = keptLeft ++ keptRight ∧
        first.Fits places before left (right ++ behind) keptLeft ∧
        second.Fits places (left.getLast?.or before) right behind keptRight :=
  Iff.rfl

/-- Stretches that fit one after the other. -/
theorem Fits.append {first second : Pattern κ} {left right : List Char}
    {keptLeft keptRight : List (List Char)}
    (leftFits : first.Fits places before left (right ++ behind) keptLeft)
    (rightFits : second.Fits places (left.getLast?.or before) right behind keptRight) :
    (first ++ second).Fits places before (left ++ right) behind (keptLeft ++ keptRight) :=
  ⟨left, right, keptLeft, keptRight, rfl, rfl, leftFits, rightFits⟩

theorem fits_choice {patterns : List (Pattern κ)} (someChoice : patterns ≠ []) :
    (choice patterns).Fits places before text behind kept ↔
      ∃ pattern ∈ patterns, pattern.Fits places before text behind kept := by
  induction patterns with
  | nil => exact absurd rfl someChoice
  | cons first others inductionHypothesis =>
      cases others with
      | nil => simp [choice]
      | cons second rest =>
          rw [choice, Fits, inductionHypothesis (List.cons_ne_nil second rest)]
          · simp
          · exact List.cons_ne_nil second rest

/-- A text that renders a word: letter by letter, with white space of any length for every
space. -/
inductive Renders (caseless : Bool) : List Char → List Char → Prop where
  | nil : Renders caseless [] []
  | letter {c d : Char} {word text : List Char} (noSpace : c ≠ ' ')
      (same : letterKind caseless c d) (rest : Renders caseless word text) :
      Renders caseless (c :: word) (d :: text)
  | space {blanks word text : List Char} (someBlank : blanks ≠ [])
      (blank : ∀ c ∈ blanks, isBlank c) (rest : Renders caseless word text) :
      Renders caseless (' ' :: word) (blanks ++ text)

theorem fits_blanks :
    (blanks : Pattern κ).Fits places before text behind kept ↔
      (∀ c ∈ text, isBlank c) ∧ kept = [] := by
  constructor
  · rintro ⟨repeats, noneKept⟩
    exact ⟨repeats.kind, noneKept⟩
  · rintro ⟨blank, noneKept⟩
    exact ⟨⟨blank, Nat.zero_le _, by simp⟩, noneKept⟩

theorem fits_someBlanks :
    (someBlanks : Pattern κ).Fits places before text behind kept ↔
      (text ≠ [] ∧ ∀ c ∈ text, isBlank c) ∧ kept = [] := by
  constructor
  · rintro ⟨repeats, noneKept⟩
    exact ⟨⟨List.ne_nil_of_length_pos repeats.least, repeats.kind⟩, noneKept⟩
  · rintro ⟨⟨someBlank, blank⟩, noneKept⟩
    exact ⟨⟨blank, List.length_pos_iff.mpr someBlank, by simp⟩, noneKept⟩

theorem fits_mark :
    (mark : Pattern κ).Fits places before text behind kept ↔
      (∃ c, text = [c] ∧ isEndMark c) ∧ kept = [] :=
  Iff.rfl

/-- A literal text fits itself only. -/
theorem fits_literal {word : String} :
    (literal false word : Pattern κ).Fits places before text behind kept ↔
      text = word.toList ∧ kept = [] := by
  rw [literal]
  induction word.toList generalizing before text kept with
  | nil => exact Iff.rfl
  | cons c rest inductionHypothesis =>
      simp only [List.foldr_cons, Fits, inductionHypothesis]
      constructor
      · rintro ⟨left, right, _, _, rfl, rfl, ⟨⟨d, rfl, isLetter⟩, rfl⟩, rfl, rfl⟩
        exact ⟨by simpa [letterKind] using isLetter, rfl⟩
      · rintro ⟨rfl, rfl⟩
        exact ⟨[c], rest, [], [], rfl, rfl, ⟨⟨c, rfl, by simp [letterKind]⟩, rfl⟩, rfl, rfl⟩

/-- A phrase fits the texts that render it. -/
theorem fits_phrase {caseless : Bool} {word : String} :
    (phrase caseless word : Pattern κ).Fits places before text behind kept ↔
      Renders caseless word.toList text ∧ kept = [] := by
  rw [phrase]
  induction word.toList generalizing before text kept with
  | nil =>
      constructor
      · rintro ⟨rfl, rfl⟩
        exact ⟨.nil, rfl⟩
      · rintro ⟨⟨⟩, rfl⟩
        exact ⟨rfl, rfl⟩
  | cons c rest inductionHypothesis =>
      simp only [List.foldr_cons, Fits, inductionHypothesis]
      by_cases isSpace : c = ' '
      · subst isSpace
        simp only [beq_self_eq_true, if_true, fits_someBlanks]
        constructor
        · rintro ⟨left, right, _, _, rfl, rfl, ⟨⟨someBlank, blank⟩, rfl⟩, renders, rfl⟩
          exact ⟨.space someBlank blank renders, rfl⟩
        · rintro ⟨renders, rfl⟩
          cases renders with
          | letter noSpace => exact absurd rfl noSpace
          | space someBlank blank renders =>
              exact ⟨_, _, [], [], rfl, rfl, ⟨⟨someBlank, blank⟩, rfl⟩, renders, rfl⟩
      · simp only [beq_iff_eq, isSpace, if_false, Fits]
        constructor
        · rintro ⟨left, right, _, _, rfl, rfl, ⟨⟨d, rfl, same⟩, rfl⟩, renders, rfl⟩
          exact ⟨.letter isSpace same renders, rfl⟩
        · rintro ⟨renders, rfl⟩
          cases renders with
          | @letter _ d _ remaining _ same renders =>
              exact ⟨[d], remaining, [], [], rfl, rfl, ⟨⟨d, rfl, same⟩, rfl⟩, renders, rfl⟩
          | space => exact absurd rfl isSpace

end

end Pattern

end Playhouse

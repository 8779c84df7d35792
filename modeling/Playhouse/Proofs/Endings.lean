/-
Module: Playhouse.Proofs.Endings
Purpose: Where the stretch that a pattern finds comes to its end.
Main exports: Pattern.EndsEagerly, Pattern.stops_of_run, Rule.stops_of_finds, insideWord,
  Pattern.KeepsWords, Pattern.KeepsWords.append, Vocabulary.keepsWords_slot
-/
import Playhouse.Proofs.Attempts
import Playhouse.Proofs.LeadingBlanks

namespace Playhouse

open Text

namespace Pattern

/-! ### Patterns that take all they can -/

/-- A pattern that ends with an eager repetition of a kind of character. -/
def EndsEagerly {κ : Type} (kind : Char → Bool) : Pattern κ → Prop
  | many own _ none .eager => own = kind
  | group body => body.EndsEagerly kind
  | seq _ second => second.EndsEagerly kind
  | _ => False

section

variable {α : Type} {kind : Char → Bool} {next : Mark → List Char → Option α} {result : α}

/-- A repetition behind which everything is accepted does not stop in front of a character of
its kind. -/
theorem stops_of_runEager (accepts : ∀ mark rest, (next mark rest).isSome) {least : Nat}
    {mark : Mark} {text : List Char}
    (ran : runEager kind next least none mark text = some result) :
    ∃ fitted behind, text = fitted ++ behind ∧ (∀ c ∈ behind.head?, kind c = false) ∧
      next (mark.after fitted []) behind = some result := by
  induction text generalizing least mark with
  | nil =>
      obtain ⟨-, found⟩ := eq_zero_of_settle ran
      exact ⟨[], [], rfl, by simp, by simpa using found⟩
  | cons c rest inductionHypothesis =>
      rw [runEager] at ran
      split at ran
      · rename_i taken
        split at ran
        · rename_i longer
          cases ran
          obtain ⟨fitted, behind, rfl, stops, found⟩ := inductionHypothesis longer
          rw [Mark.after_pass] at found
          exact ⟨c :: fitted, behind, rfl, stops, found⟩
        · -- Nothing was owed, so the longer way would have been accepted.
          rename_i failed
          obtain ⟨rfl, -⟩ := eq_zero_of_settle ran
          have longer := runEager_isSome (.nil kind none) (accepts ((mark.pass c).after [] []) rest)
          rw [List.nil_append] at longer
          change runEager kind next 0 none (mark.pass c) rest = none at failed
          rw [failed] at longer
          cases longer
      · rename_i refused
        obtain ⟨-, found⟩ := eq_zero_of_settle ran
        refine ⟨[], c :: rest, rfl, ?_, by simpa using found⟩
        simpa using refused

/-- A recognition behind which everything is accepted goes on to the end of the repetition with
which its pattern ends. -/
theorem stops_of_run {pattern : Pattern Empty} (ends : pattern.EndsEagerly kind)
    (accepts : ∀ mark rest, (next mark rest).isSome) {mark : Mark} {text : List Char}
    (ran : pattern.run next mark text = some result) :
    ∃ fitted behind places, text = fitted ++ behind ∧ (∀ c ∈ behind.head?, kind c = false) ∧
      next (mark.after fitted places) behind = some result := by
  induction pattern generalizing next mark text with
  | nothing | one | edge | ahead | slot | alt => exact ends.elim
  | many own least most appetite =>
      cases most with
      | some bound => exact ends.elim
      | none =>
          cases appetite with
          | reluctant => exact ends.elim
          | eager =>
              obtain rfl : own = kind := ends
              obtain ⟨fitted, behind, isText, stops, found⟩ := stops_of_runEager accepts ran
              exact ⟨fitted, behind, [], isText, stops, found⟩
  | group body inductionHypothesis =>
      rw [run] at ran
      obtain ⟨fitted, behind, places, isText, stops, found⟩ :=
        inductionHypothesis ends (fun _ _ => accepts _ _) ran
      refine ⟨fitted, behind, places ++ [(mark.passed, mark.passed + fitted.length)], isText,
        stops, ?_⟩
      simpa [Mark.after] using found
  | seq first second _ secondHypothesis =>
      rw [run] at ran
      have isPassed : (List.replicate mark.passed 'x').length = mark.passed :=
        List.length_replicate
      obtain ⟨left, rest, leftPlaces, rfl, -, ranOn⟩ := fits_of_run ran isPassed
      obtain ⟨right, behind, rightPlaces, rfl, stops, found⟩ := secondHypothesis ends accepts ranOn
      refine ⟨left ++ right, behind, leftPlaces ++ rightPlaces, by simp, stops, ?_⟩
      rwa [Mark.after_after] at found

end

/-- Filling the places of a pattern does not change how it ends. -/
theorem EndsEagerly.fill {κ ε : Type} {contents : κ → Except ε (Pattern Empty)}
    {kind : Char → Bool} {pattern : Pattern κ} (ends : pattern.EndsEagerly kind)
    {filled : Pattern Empty} (isFilled : pattern.fill contents = .ok filled) :
    filled.EndsEagerly kind := by
  induction pattern generalizing filled with
  | nothing | one | edge | ahead | slot | alt => exact ends.elim
  | many own least most appetite =>
      cases isFilled
      cases most with
      | some bound => exact ends.elim
      | none => cases appetite with
        | reluctant => exact ends.elim
        | eager => exact ends
  | group body inductionHypothesis =>
      obtain ⟨inner, bodyFilled, rfl⟩ := exists_of_fill_group isFilled
      show inner.EndsEagerly kind
      exact inductionHypothesis ends bodyFilled
  | seq first second _ secondHypothesis =>
      obtain ⟨left, right, -, secondFilled, rfl⟩ := exists_of_fill_seq isFilled
      show right.EndsEagerly kind
      exact secondHypothesis ends secondFilled

/-- What a pattern finds ends where the repetition at its end does. -/
theorem stops_of_match? {pattern : Pattern Empty} {kind : Char → Bool}
    (ends : pattern.EndsEagerly kind) {before : Option Char} {rest behind : List Char}
    {found : Found} (matched : pattern.match? before rest = some found)
    (isRest : rest = found.text ++ behind) : ∀ c ∈ behind.head?, kind c = false := by
  obtain ⟨mark, ran, rfl⟩ := Option.map_eq_some_iff.mp matched
  obtain ⟨fitted, left, places, rfl, stops, isMark⟩ := stops_of_run ends (fun _ _ => rfl) ran
  obtain rfl := Option.some.inj isMark
  have isFitted : (fitted ++ left).take ((Mark.mk before 0 []).after fitted places).passed =
      fitted := by simp [Mark.after]
  rw [isFitted] at isRest
  obtain rfl := List.append_cancel_left isRest
  exact stops

end Pattern

open Pattern

/-- What a rule finds ends where the repetition at the end of its pattern does. -/
theorem Rule.stops_of_finds {vocabulary : Vocabulary} {rule : Rule} {kind : Char → Bool}
    (ends : rule.pattern.EndsEagerly kind) {before : Option Char} {rest behind : List Char}
    {found : Found} (finds : (vocabulary.fill rule).Finds before rest found)
    (isRest : rest = found.text ++ behind) : ∀ c ∈ behind.head?, kind c = false := by
  obtain ⟨⟨pattern, isFilled, matched⟩, -⟩ := finds
  exact stops_of_match? (ends.fill isFilled) matched isRest

/-! ### Patterns that leave words whole -/

/-- Whether two neighbouring characters belong to one word. -/
def insideWord (before after : Option Char) : Bool :=
  before.any isWordCharacter && after.any isWordCharacter

/-- No word goes on across an edge. -/
theorem insideWord_of_isEdge {before after : Option Char} (edge : isEdge before after) :
    insideWord before after = false := by
  rw [isEdge, bne_iff_ne] at edge
  rw [insideWord, Bool.and_eq_false_iff]
  cases isBefore : before.any isWordCharacter with
  | false => exact Or.inl rfl
  | true =>
      rw [isBefore, ne_eq, eq_comm, Bool.not_eq_true] at edge
      exact Or.inr edge

namespace Pattern

variable {κ : Type} {places : κ → Meaning}

/-- A pattern whose stretches never end inside a word. -/
def KeepsWords (places : κ → Meaning) (pattern : Pattern κ) : Prop :=
  ∀ before text behind kept, pattern.Fits places before text behind kept →
    insideWord (text.getLast?.or before) behind.head? = false

theorem keepsWords_edge : (edge : Pattern κ).KeepsWords places := by
  rintro before text behind kept ⟨isEdge, rfl, -⟩
  exact insideWord_of_isEdge isEdge

/-- A character outside of words ends no stretch inside one. -/
theorem keepsWords_one {kind : Char → Bool} (noWord : ∀ c, kind c → isWordCharacter c = false) :
    (one kind).KeepsWords places := by
  rintro before text behind kept ⟨⟨c, rfl, isKind⟩, -⟩
  simp [insideWord, noWord c isKind]

theorem keepsWords_mark : (mark : Pattern κ).KeepsWords places := by
  apply keepsWords_one
  intro c isMark
  obtain rfl | rfl | rfl : c = '.' ∨ c = '!' ∨ c = '?' := by
    simpa [isEndMark, or_assoc] using isMark
  all_goals decide

/-- A literal text whose last character is outside of words. -/
theorem keepsWords_literal {word : String} {c : Char} (isLast : word.toList.getLast? = some c)
    (noWord : isWordCharacter c = false) : (literal false word : Pattern κ).KeepsWords places := by
  intro before text behind kept fits
  obtain ⟨rfl, -⟩ := fits_literal.mp fits
  simp [insideWord, isLast, noWord]

theorem keepsWords_someBlanks : (someBlanks : Pattern κ).KeepsWords places := by
  intro before text behind kept fits
  obtain ⟨⟨someBlank, blank⟩, -⟩ := fits_someBlanks.mp fits
  have isLast := List.getLast?_eq_some_getLast someBlank
  have noWord := noWord_of_isBlank (blank _ (List.getLast_mem someBlank))
  simp [insideWord, isLast, noWord]

theorem KeepsWords.append {second : Pattern κ} (ends : second.KeepsWords places)
    (first : Pattern κ) : (first ++ second).KeepsWords places := by
  rintro before text behind kept ⟨left, right, _, _, rfl, -, -, rightFits⟩
  rw [List.getLast?_append, Option.or_assoc]
  exact ends _ _ _ _ rightFits

end Pattern

/-- The words of a class end where a word does. -/
theorem Vocabulary.keepsWords_slot (vocabulary : Vocabulary) (caseless : Bool)
    (category : Category) : (slot category).KeepsWords (vocabulary.meaning caseless) := by
  intro before text behind kept fits
  obtain ⟨list, -, fits⟩ := Vocabulary.exists_list_of_meaning fits
  have ends : (list.pattern caseless).KeepsWords noPlaces := keepsWords_edge.append _
  exact ends _ _ _ _ fits

end Playhouse

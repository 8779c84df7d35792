/-
Module: Playhouse.Proofs.Expansion
Purpose: What a template becomes when the patterns of classes are written into it.
Main exports: Lexicon.run_expand_plain, Lexicon.run_expand_slotted
-/
import Playhouse.Proofs.Faithfulness

namespace Playhouse.Lexicon

open Text

/-! ### Names in angle brackets -/

theorem forall_mem_toList {text : String} {letters : List Char} {kind : Char → Bool}
    (isText : text.toList = letters) (all : letters.all kind) : ∀ c ∈ text.toList, kind c := by
  subst isText
  exact List.all_eq_true.mp all

/-- The names of classes consist of word characters. -/
theorem isWordCharacter_of_mem_stem (category : Category) :
    ∀ c ∈ category.stem.toList, isWordCharacter c := by
  cases category <;> exact forall_mem_toList String.toList_ofList (by decide)

theorem placeholder_toList (category : Category) :
    category.placeholder.toList = '<' :: (category.stem.toList ++ ['>']) := by
  rw [Category.placeholder, String.toList_append, String.toList_append]
  rfl

/-- The name of a class is found in its brackets, whatever stands behind it. -/
theorem placeholder?_placeholder (category : Category) (behind : List Char) :
    placeholder? (category.placeholder.toList ++ behind) = some (category.stem, behind) := by
  have inWord := isWordCharacter_of_mem_stem category
  have noWord : isWordCharacter '>' = false := by decide
  have someLetter : category.stem.toList ≠ [] := by cases category <;> simp [Category.stem]
  rw [placeholder_toList, List.cons_append, List.append_assoc, placeholder?,
    List.takeWhile_append_of_pos inWord, List.dropWhile_append_of_pos inWord]
  simp [noWord, someLetter]

/-- No name stands where there is no bracket. -/
theorem placeholder?_of_ne {c : Char} (noBracket : c ≠ '<') (rest : List Char) :
    placeholder? (c :: rest) = none := by
  unfold placeholder?
  split
  · rename_i isBracket
    exact absurd (List.head_eq_of_cons_eq isBracket) noBracket
  · rfl

/-! ### Texts with and without names -/

theorem expandFrom_skip (skipped behind : List Char) :
    expandFrom skipped.length (skipped ++ behind) = expandFrom 0 behind := by
  induction skipped with
  | nil => rfl
  | cons c rest inductionHypothesis =>
      rw [List.length_cons, List.cons_append, expandFrom]
      exact inductionHypothesis

/-- A text without names stays as it is. -/
theorem expandFrom_plain {text : List Char} (isPlain : '<' ∉ text) (behind : List Char) :
    expandFrom 0 (text ++ behind) =
      expandFrom 0 behind >>= fun written => pure (text ++ written) := by
  induction text with
  | nil =>
      simp only [List.nil_append, bind_pure]
  | cons c rest inductionHypothesis =>
      obtain ⟨noBracket, isPlainRest⟩ := List.ne_and_not_mem_of_not_mem_cons isPlain
      rw [List.cons_append, expandFrom, placeholder?_of_ne (Ne.symm noBracket)]
      dsimp only
      rw [inductionHypothesis isPlainRest]
      simp only [bind_assoc, pure_bind, List.cons_append]

/-- In the place of a name stands the written pattern of the class. -/
theorem expandFrom_placeholder (category : Category) (behind : List Char) :
    expandFrom 0 (category.placeholder.toList ++ behind) =
      expression category true >>= fun written =>
        expandFrom 0 behind >>= fun remainder => pure (written.toList ++ remainder) := by
  have opened := placeholder?_placeholder category behind
  have isText := placeholder_toList category
  rw [isText, List.cons_append] at opened ⊢
  rw [expandFrom, opened]
  dsimp only
  rw [Category.ofStem?_stem]
  dsimp only
  have skipped : (category.stem.toList ++ ['>'] ++ behind).length - behind.length =
      (category.stem.toList ++ ['>']).length := by
    rw [List.length_append, Nat.add_sub_cancel]
  rw [skipped, expandFrom_skip]

section

variable {template : String} {before behind : List Char} {category : Category} {lexicon : Lexicon}

/-- A template without names asks for nothing and stays as it is. -/
theorem run_expand_plain (isPlain : '<' ∉ template.toList) :
    (expand template).run.run lexicon = (.ok template, lexicon) := by
  have expanded := expandFrom_plain isPlain []
  rw [List.append_nil, expandFrom] at expanded
  rw [expand, expanded]
  simp only [pure_bind, List.append_nil, String.ofList_toList]
  rfl

/-- A template with one name asks for the list of this class. -/
theorem run_expand_slotted
    (isTemplate : template.toList = before ++ category.placeholder.toList ++ behind)
    (plainBefore : '<' ∉ before) (plainBehind : '<' ∉ behind) :
    (expand template).run.run lexicon =
      ((lexicon.read category).map fun list =>
        String.ofList (before ++ (list.expression true).toList ++ behind),
        lexicon.keep category) := by
  have expanded := expandFrom_plain plainBehind []
  rw [List.append_nil, expandFrom] at expanded
  rw [expand, isTemplate, List.append_assoc, expandFrom_plain plainBefore, expandFrom_placeholder,
    expanded, expression]
  simp only [bind_assoc, pure_bind, run_bind, run_list, List.append_nil]
  cases lexicon.read category with
  | error fault => rfl
  | ok list =>
      dsimp only [Except.map]
      rw [List.append_assoc]
      rfl

end

end Playhouse.Lexicon

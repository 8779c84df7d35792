/-
Module: Playhouse.Proofs.Labels
Purpose: The table of scenes leads to the last scene of every tag.
Main exports: OpensScene, LastScene, Labels.get?_ofStatements,
  Labels.get?_ofStatements_eq_none_iff
-/
import Playhouse.Performance.House
import Playhouse.Review

namespace Playhouse

/-! ### Scenes among statements -/

/-- At a position stands the heading of a scene with a tag. -/
def OpensScene (statements : List Statement) (tag : String) (position : Nat) : Prop :=
  ∃ statement, statements[position]? = some statement ∧ statement.action = .scene tag

/-- At a position stands the last scene with a tag. -/
structure LastScene (statements : List Statement) (tag : String) (position : Nat) : Prop where
  opens : OpensScene statements tag position
  last : ∀ later, position < later → ¬ OpensScene statements tag later

@[simp] theorem opensScene_cons_zero {statement : Statement} {rest : List Statement}
    {tag : String} : OpensScene (statement :: rest) tag 0 ↔ statement.action = .scene tag := by
  simp [OpensScene]

@[simp] theorem opensScene_cons_succ {statement : Statement} {rest : List Statement}
    {tag : String} {position : Nat} :
    OpensScene (statement :: rest) tag (position + 1) ↔ OpensScene rest tag position := by
  simp [OpensScene]

/-- The tags of scenes are the tags of headings. -/
theorem mem_sceneTags_iff {statements : List Statement} {tag : String} :
    tag ∈ sceneTags statements ↔ ∃ position, OpensScene statements tag position := by
  unfold sceneTags
  rw [List.mem_filterMap]
  constructor
  · rintro ⟨statement, member, isTag⟩
    obtain ⟨position, found⟩ := List.mem_iff_getElem?.mp member
    refine ⟨position, statement, found, ?_⟩
    split at isTag
    · cases isTag
      assumption
    · cases isTag
  · rintro ⟨position, statement, found, isScene⟩
    exact ⟨statement, List.mem_of_getElem? found, by rw [isScene]⟩

theorem mem_sceneTags_cons {statement : Statement} {rest : List Statement} {tag : String} :
    tag ∈ sceneTags (statement :: rest) ↔
      statement.action = .scene tag ∨ tag ∈ sceneTags rest := by
  rw [mem_sceneTags_iff, mem_sceneTags_iff]
  constructor
  · rintro ⟨position, opens⟩
    cases position with
    | zero => exact Or.inl (opensScene_cons_zero.mp opens)
    | succ position => exact Or.inr ⟨position, opensScene_cons_succ.mp opens⟩
  · rintro (isScene | ⟨position, opens⟩)
    · exact ⟨0, opensScene_cons_zero.mpr isScene⟩
    · exact ⟨position + 1, opensScene_cons_succ.mpr opens⟩

theorem lastScene_cons_zero_iff {statement : Statement} {rest : List Statement} {tag : String} :
    LastScene (statement :: rest) tag 0 ↔
      statement.action = .scene tag ∧ tag ∉ sceneTags rest := by
  constructor
  · intro isLast
    refine ⟨opensScene_cons_zero.mp isLast.opens, ?_⟩
    intro again
    obtain ⟨position, opens⟩ := mem_sceneTags_iff.mp again
    exact isLast.last (position + 1) (Nat.succ_pos position) (opensScene_cons_succ.mpr opens)
  · rintro ⟨isScene, noneLater⟩
    refine ⟨opensScene_cons_zero.mpr isScene, ?_⟩
    intro later after opens
    obtain ⟨position, rfl⟩ := Nat.exists_eq_succ_of_ne_zero (Nat.ne_of_gt after)
    exact noneLater (mem_sceneTags_iff.mpr ⟨position, opensScene_cons_succ.mp opens⟩)

theorem lastScene_cons_succ_iff {statement : Statement} {rest : List Statement} {tag : String}
    {position : Nat} :
    LastScene (statement :: rest) tag (position + 1) ↔ LastScene rest tag position := by
  constructor
  · intro isLast
    refine ⟨opensScene_cons_succ.mp isLast.opens, ?_⟩
    intro later after opens
    exact isLast.last (later + 1) (Nat.succ_lt_succ after) (opensScene_cons_succ.mpr opens)
  · intro isLast
    refine ⟨opensScene_cons_succ.mpr isLast.opens, ?_⟩
    intro later after opens
    cases later with
    | zero => exact absurd after (Nat.not_lt_zero _)
    | succ later =>
        exact isLast.last later (Nat.lt_of_succ_lt_succ after) (opensScene_cons_succ.mp opens)

/-- Every tag of a scene has a last scene. -/
theorem exists_lastScene {statements : List Statement} {tag : String}
    (isTag : tag ∈ sceneTags statements) : ∃ position, LastScene statements tag position := by
  induction statements with
  | nil => cases isTag
  | cons statement rest inductionHypothesis =>
      by_cases later : tag ∈ sceneTags rest
      · obtain ⟨position, isLast⟩ := inductionHypothesis later
        exact ⟨position + 1, lastScene_cons_succ_iff.mpr isLast⟩
      · rcases mem_sceneTags_cons.mp isTag with isScene | inRest
        · exact ⟨0, lastScene_cons_zero_iff.mpr ⟨isScene, later⟩⟩
        · exact absurd inRest later

/-! ### The table -/

namespace Labels

variable {labels : Labels} {statements : List Statement} {tag : String} {position : Nat}

theorem enter_scene {start : Nat} {statement : Statement} {rest : List Statement}
    {opened : String} (isScene : statement.action = .scene opened) :
    labels.enter start (statement :: rest) =
      Labels.enter (labels.put opened start) (start + 1) rest := by
  rw [Labels.enter, isScene]

theorem enter_other {start : Nat} {statement : Statement} {rest : List Statement}
    (noScene : ∀ opened, statement.action ≠ .scene opened) :
    labels.enter start (statement :: rest) = labels.enter (start + 1) rest := by
  rw [Labels.enter]
  split
  · rename_i opened isScene
    exact absurd isScene (noScene opened)
  · rfl

/-- The last scene of a play is its first statement or a scene of the rest. -/
theorem exists_lastScene_cons {statement : Statement} {rest : List Statement} (start : Nat) :
    (∃ offset, position = start + offset ∧ LastScene (statement :: rest) tag offset) ↔
      (position = start ∧ statement.action = .scene tag ∧ tag ∉ sceneTags rest) ∨
        ∃ offset, position = start + 1 + offset ∧ LastScene rest tag offset := by
  constructor
  · rintro ⟨offset, rfl, isLast⟩
    cases offset with
    | zero => exact Or.inl ⟨rfl, lastScene_cons_zero_iff.mp isLast⟩
    | succ offset =>
        exact Or.inr ⟨offset, by omega, lastScene_cons_succ_iff.mp isLast⟩
  · rintro (⟨rfl, isFirst⟩ | ⟨offset, rfl, isLast⟩)
    · exact ⟨0, rfl, lastScene_cons_zero_iff.mpr isFirst⟩
    · exact ⟨offset + 1, by omega, lastScene_cons_succ_iff.mpr isLast⟩

/-- A tag leads to its last scene among the statements entered, or else to where
it led before. -/
theorem get?_enter (start : Nat) :
    (labels.enter start statements).get? tag = some position ↔
      (∃ offset, position = start + offset ∧ LastScene statements tag offset) ∨
        tag ∉ sceneTags statements ∧ labels.get? tag = some position := by
  induction statements generalizing labels start with
  | nil =>
      constructor
      · intro found
        exact Or.inr ⟨List.not_mem_nil, found⟩
      · rintro (⟨offset, _, isLast⟩ | ⟨_, found⟩)
        · obtain ⟨statement, found, _⟩ := isLast.opens
          cases found
        · exact found
  | cons statement rest inductionHypothesis =>
      rw [exists_lastScene_cons, mem_sceneTags_cons]
      by_cases isScene : ∃ opened, statement.action = .scene opened
      · obtain ⟨opened, isScene⟩ := isScene
        rw [enter_scene isScene, inductionHypothesis, Ledger.get?_put, isScene]
        by_cases same : opened = tag
        · subst same
          simp only [if_true, true_or, not_true_eq_false, false_and, or_false, true_and,
            Option.some.injEq]
          constructor
          · rintro (later | ⟨noneLater, isStart⟩)
            · exact Or.inr later
            · exact Or.inl ⟨isStart.symm, noneLater⟩
          · rintro (⟨isStart, noneLater⟩ | later)
            · exact Or.inr ⟨noneLater, isStart.symm⟩
            · exact Or.inl later
        · simp [same]
      · have noScene opened : statement.action ≠ .scene opened :=
          fun opens => isScene ⟨opened, opens⟩
        rw [enter_other noScene, inductionHypothesis]
        simp [noScene tag]

/-- A tag leads exactly to its last scene. -/
theorem get?_ofStatements :
    (ofStatements statements).get? tag = some position ↔ LastScene statements tag position := by
  rw [ofStatements, get?_enter]
  simp [Ledger.get?]

/-- Exactly the tags of scenes lead somewhere. -/
theorem get?_ofStatements_eq_none_iff :
    (ofStatements statements).get? tag = none ↔ tag ∉ sceneTags statements := by
  constructor
  · intro nowhere isTag
    obtain ⟨position, isLast⟩ := exists_lastScene isTag
    rw [get?_ofStatements.mpr isLast] at nowhere
    cases nowhere
  · intro noTag
    cases found : (ofStatements statements).get? tag with
    | none => rfl
    | some position =>
        have opens := (get?_ofStatements.mp found).opens
        exact absurd (mem_sceneTags_iff.mpr ⟨position, opens⟩) noTag

end Labels

end Playhouse

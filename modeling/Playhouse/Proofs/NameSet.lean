/-
Module: Playhouse.Proofs.NameSet
Purpose: Sets of names seen through their members, and the order in which they
  are kept.
Main exports: NameSet.Ordered, NameSet.mem_insert, NameSet.mem_ofList, NameSet.mem_union,
  NameSet.without_eq_nil_iff, NameSet.ordered_union, NameSet.ordered_without
-/
import Playhouse.Name

namespace Playhouse.NameSet

/-- Names in increasing order.  No name is then repeated. -/
def Ordered (names : NameSet) : Prop :=
  names.Pairwise (· < ·)

theorem Ordered.nodup {names : NameSet} (ordered : Ordered names) : names.Nodup := by
  refine List.Pairwise.imp ?_ ordered
  intro first second less same
  rw [same] at less
  exact String.lt_irrefl second less

@[simp] theorem mem_insert {name other : String} {names : NameSet} :
    other ∈ insert name names ↔ other = name ∨ other ∈ names := by
  induction names with
  | nil => simp [insert]
  | cons head rest inductionHypothesis =>
      unfold insert
      split
      · simp
      · split
        · rename_i same
          simp [same]
        · rw [List.mem_cons, inductionHypothesis, List.mem_cons]
          exact or_left_comm

/-- A name that is neither less nor equal is greater. -/
theorem lt_of_not_lt {name other : String} (notLess : ¬ name < other) (differs : name ≠ other) :
    other < name := by
  by_cases less : other < name
  · exact less
  · exact absurd (String.le_antisymm less notLess) differs

theorem ordered_insert (name : String) {names : NameSet} (ordered : Ordered names) :
    Ordered (insert name names) := by
  induction names with
  | nil => exact List.pairwise_singleton _ name
  | cons head rest inductionHypothesis =>
      obtain ⟨headLess, restOrdered⟩ := List.pairwise_cons.mp ordered
      unfold insert
      split
      · rename_i less
        refine List.pairwise_cons.mpr ⟨?_, ordered⟩
        intro other member
        rcases List.mem_cons.mp member with isHead | inRest
        · rw [isHead]
          exact less
        · exact String.lt_trans less (headLess other inRest)
      · rename_i notLess
        split
        · exact ordered
        · rename_i differs
          refine List.pairwise_cons.mpr ⟨?_, inductionHypothesis restOrdered⟩
          intro other member
          rcases mem_insert.mp member with isName | inRest
          · rw [isName]
            exact lt_of_not_lt notLess differs
          · exact headLess other inRest

theorem mem_ofList {name : String} {names : List String} : name ∈ ofList names ↔ name ∈ names := by
  unfold ofList
  induction names with
  | nil => simp
  | cons head rest inductionHypothesis =>
      rw [List.foldr_cons, mem_insert, inductionHypothesis, List.mem_cons]

@[simp] theorem mem_union {name : String} {first second : NameSet} :
    name ∈ union first second ↔ name ∈ first ∨ name ∈ second := by
  unfold union
  induction second with
  | nil => simp
  | cons head rest inductionHypothesis =>
      rw [List.foldr_cons, mem_insert, inductionHypothesis, List.mem_cons]
      exact or_left_comm

theorem ordered_union {first : NameSet} (ordered : Ordered first) (second : NameSet) :
    Ordered (union first second) := by
  unfold union
  induction second with
  | nil => exact ordered
  | cons head rest inductionHypothesis => exact ordered_insert head inductionHypothesis

@[simp] theorem mem_without {name : String} {first second : NameSet} :
    name ∈ without first second ↔ name ∈ first ∧ name ∉ second := by
  simp [without]

/-- Nothing remains exactly when everything is taken away. -/
theorem without_eq_nil_iff {first second : NameSet} :
    without first second = [] ↔ ∀ name ∈ first, name ∈ second := by
  simp [without]

theorem ordered_without {first : NameSet} (ordered : Ordered first) (second : NameSet) :
    Ordered (without first second) :=
  List.Pairwise.filter _ ordered

end Playhouse.NameSet

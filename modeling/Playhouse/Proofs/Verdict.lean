/-
Module: Playhouse.Proofs.Verdict
Purpose: What the verdict of a review is worth: every jump that misses its scene
  in some performance is an error of the review.
Main exports: review_perm, mem_review, mem_jumpRemarks_iff, mem_review_cases,
  House.Fails.noSuchScene, jumpRemark_of_noSuchScene, outcome_ne_noSuchScene
-/
import Playhouse.Proofs.Labels
import Playhouse.Proofs.Performance

namespace Playhouse

/-! ### The remarks of a review -/

theorem insertRemark_perm (remark : Remark) (remarks : List Remark) :
    (insertRemark remark remarks).Perm (remark :: remarks) := by
  induction remarks with
  | nil => exact .refl _
  | cons other rest inductionHypothesis =>
      unfold insertRemark
      split
      · exact .refl _
      · exact (inductionHypothesis.cons other).trans (.swap remark other rest)

/-- A review orders the remarks of the checks; it adds none and drops none. -/
theorem review_perm (statements : List Statement) :
    (review statements).Perm (allRemarks statements) := by
  unfold review
  induction allRemarks statements with
  | nil => exact .refl _
  | cons remark rest inductionHypothesis =>
      exact (insertRemark_perm remark _).trans (inductionHypothesis.cons remark)

theorem mem_review {statements : List Statement} {remark : Remark} :
    remark ∈ review statements ↔ remark ∈ allRemarks statements :=
  (review_perm statements).mem_iff

theorem mem_jumpRemarks_iff {statements : List Statement} {remark : Remark} :
    remark ∈ jumpRemarks statements ↔
      ∃ statement ∈ statements, ∃ tag, statement.action.destination? = some tag ∧
        tag ∉ sceneTags statements ∧ remark = ⟨.jump tag, statement.line⟩ := by
  unfold jumpRemarks
  rw [List.mem_filterMap]
  constructor
  · rintro ⟨statement, member, remarked⟩
    split at remarked
    · rename_i tag leads
      split at remarked
      · cases remarked
      · rename_i noScene
        refine ⟨statement, member, tag, leads, ?_, (Option.some.inj remarked).symm⟩
        simpa using noScene
    · cases remarked
  · rintro ⟨statement, member, tag, leads, noScene, rfl⟩
    refine ⟨statement, member, ?_⟩
    simp [leads, noScene]

/-! ### Every check has a concern of its own -/

section

variable {statements : List Statement} {remark : Remark}

theorem concern_of_mem_jumpRemarks (remarked : remark ∈ jumpRemarks statements) :
    ∃ tag, remark.concern = .jump tag := by
  obtain ⟨_, _, tag, _, _, rfl⟩ := mem_jumpRemarks_iff.mp remarked
  exact ⟨tag, rfl⟩

theorem concern_of_mem_tagRemarksFrom {seen : List String}
    (remarked : remark ∈ tagRemarksFrom seen statements) : ∃ tag, remark.concern = .tag tag := by
  induction statements generalizing seen with
  | nil => cases remarked
  | cons statement rest inductionHypothesis =>
      unfold tagRemarksFrom at remarked
      split at remarked
      · split at remarked
        · rcases List.mem_cons.mp remarked with rfl | later
          · exact ⟨_, rfl⟩
          · exact inductionHypothesis later
        · exact inductionHypothesis remarked
      · exact inductionHypothesis remarked

theorem concern_of_mem_characterRemarks (remarked : remark ∈ characterRemarks statements) :
    ∃ name, remark.concern = .character name := by
  obtain ⟨statement, _, isRemark⟩ := List.mem_filterMap.mp remarked
  split at isRemark
  · split at isRemark
    · cases isRemark
    · cases isRemark
      exact ⟨_, rfl⟩
  · cases isRemark

theorem concern_of_mem_stackRemarks (remarked : remark ∈ stackRemarks statements) :
    ∃ name, remark.concern = .stack name := by
  obtain ⟨statement, _, isRemark⟩ := List.mem_filterMap.mp remarked
  split at isRemark
  · split at isRemark
    · cases isRemark
    · cases isRemark
      exact ⟨_, rfl⟩
  · cases isRemark

/-- A remark of a review comes from one of the checks, and its concern tells from which. -/
theorem mem_review_cases :
    remark ∈ review statements ↔
      match remark.concern with
      | .jump _ => remark ∈ jumpRemarks statements
      | .tag _ => remark ∈ tagRemarks statements
      | .character _ => remark ∈ characterRemarks statements
      | .stack _ => remark ∈ stackRemarks statements := by
  have jump : remark ∈ jumpRemarks statements → ∃ tag, remark.concern = .jump tag :=
    concern_of_mem_jumpRemarks
  have tag : remark ∈ tagRemarks statements → ∃ tag, remark.concern = .tag tag :=
    concern_of_mem_tagRemarksFrom
  have character : remark ∈ characterRemarks statements →
      ∃ name, remark.concern = .character name := concern_of_mem_characterRemarks
  have stack : remark ∈ stackRemarks statements → ∃ name, remark.concern = .stack name :=
    concern_of_mem_stackRemarks
  rw [mem_review]
  simp only [allRemarks, List.mem_append]
  cases concern : remark.concern <;> simp_all

end

/-- A jump to a scene that does not exist is remarked on. -/
theorem mem_review_jump {statements : List Statement} {statement : Statement} {tag : String}
    (member : statement ∈ statements) (leads : statement.action.destination? = some tag)
    (noScene : tag ∉ sceneTags statements) :
    ⟨.jump tag, statement.line⟩ ∈ review statements := by
  rw [mem_review_cases]
  exact mem_jumpRemarks_iff.mpr ⟨statement, member, tag, leads, noScene, rfl⟩

/-! ### Jumps that lead nowhere -/

section

variable {σ : Type} {provider : Provider σ} {sink : Sink σ}

/-- A performance misses a scene only at a jump to it that the table does not
know. -/
theorem House.Fails.noSuchScene {labels : Labels} {house after : House σ}
    {statement : Statement} {mishap : Mishap}
    (fails : House.Fails provider sink labels house statement mishap after) {tag : String}
    (missed : mishap.cause = .noSuchScene tag) :
    statement.action.destination? = some tag ∧ labels.get? tag = none := by
  have notEvaluated {expression : Expr}
      (failed : expression.evaluate house.store = .error mishap) : False := by
    rcases cause_of_evaluate failed with arithmetic | ⟨name, _, undeclared, _⟩ | ⟨⟨_, noValue⟩, _⟩
    · rw [missed] at arithmetic
      cases arithmetic
    · rw [missed] at undeclared
      cases undeclared
    · rw [missed] at noValue
      cases noValue
  cases fails with
  | jump action nowhere =>
      cases missed
      exact ⟨by rw [action]; rfl, nowhere⟩
  | jumpIf action left right holds nowhere =>
      cases missed
      exact ⟨by rw [action]; rfl, nowhere⟩
  | push action failed | assign action failed | leftSide action failed
  | rightSide action left failed => exact (notEvaluated failed).elim
  | @printCharacter name value action known unprintable =>
      rcases quoting_cases value (.unprintable value) with quoted | unwritten
      · rw [quoted] at missed
        cases missed
      · rw [unwritten] at missed
        cases missed
  | @printNumber name value refusal | @refused name value refusal => cases refusal <;> cases missed
  | scanNumber | unknown | pop => cases missed

/-- A performance that misses a scene does so in the step at a jump which the review
remarks on. -/
theorem jumpRemark_of_noSuchScene {limit : Option Int} {statements : List Statement}
    {start : Stand σ} {patience : Nat} {ending : Ending σ} {tag : String} {line : Nat}
    (ended : (Production.ofStatements provider limit statements sink).runFrom patience start =
      some ending)
    (missed : ending.outcome = .error ⟨.noSuchScene tag, line⟩) :
    ∃ last statement,
      (Production.ofStatements provider limit statements sink).Reaches start last ∧
      (Production.ofStatements provider limit statements sink).step last = .ended ending ∧
      statements[last.position]? = some statement ∧
      statement.action.destination? = some tag ∧
      ⟨.jump tag, statement.line⟩ ∈ review statements := by
  obtain ⟨last, reached, stepped⟩ := Production.stepped_of_runFrom .here ended
  cases Production.ends_of_step stepped with
  | finished past => cases missed
  | limited here isLimit exceeded => cases missed
  | @failed statement mishap after here within fails =>
      have found : statements[last.position]? = some statement :=
        List.getElem?_toArray.symm.trans here
      obtain rfl := Except.error.inj missed
      obtain ⟨leads, nowhere⟩ := fails.noSuchScene rfl
      refine ⟨last, statement, reached, stepped, found, leads, ?_⟩
      exact mem_review_jump (List.mem_of_getElem? found) leads
        (Labels.get?_ofStatements_eq_none_iff.mp nowhere)

/-- A play on which the review finds no error never misses a scene, wherever a
performance of it starts. -/
theorem outcome_ne_noSuchScene {statements : List Statement}
    (approved : ∀ remark ∈ review statements, ¬ remark.isError) {limit : Option Int}
    {start : Stand σ} {patience : Nat} {ending : Ending σ}
    (ended : (Production.ofStatements provider limit statements sink).runFrom patience start =
      some ending) (tag : String) (line : Nat) :
    ending.outcome ≠ .error ⟨.noSuchScene tag, line⟩ := by
  intro missed
  obtain ⟨last, statement, _, _, _, _, remarked⟩ := jumpRemark_of_noSuchScene ended missed
  exact approved _ remarked rfl

end

end Playhouse

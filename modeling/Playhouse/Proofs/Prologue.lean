/-
Module: Playhouse.Proofs.Prologue
Purpose: A play declares all its characters before anything else.
Main exports: declaredNames, DeclarationsFirst, Reading.Prologue, Reading.Prologue.turn,
  Reading.prologue_of_passage, declaredNames_take
-/
import Playhouse.Proofs.Stage

namespace Playhouse

/-! ### Declarations among statements -/

/-- The character whom a statement declares. -/
def Action.declared? : Action → Option String
  | declare name => some name
  | _ => none

/-- The characters whom some statements declare, in order. -/
def declaredNames (statements : List Statement) : List String :=
  statements.filterMap fun statement => statement.action.declared?

/-- Nothing but declarations stands before a declaration. -/
def DeclarationsFirst (statements : List Statement) : Prop :=
  statements.Pairwise fun earlier later =>
    later.action.declared?.isSome → earlier.action.declared?.isSome

theorem declaredNames_append (first second : List Statement) :
    declaredNames (first ++ second) = declaredNames first ++ declaredNames second :=
  List.filterMap_append

theorem declaredNames_eq_nil {statements : List Statement}
    (none : ∀ statement ∈ statements, statement.action.declared? = none) :
    declaredNames statements = [] :=
  List.filterMap_eq_nil_iff.mpr none

theorem mem_declaredNames_take_succ {statements : List Statement} {position : Nat}
    {statement : Statement} (here : statements[position]? = some statement) {name : String} :
    name ∈ declaredNames (statements.take (position + 1)) ↔
      statement.action.declared? = some name ∨ name ∈ declaredNames (statements.take position) := by
  rw [List.take_add_one, here, declaredNames_append, List.mem_append, or_comm]
  simp [declaredNames]

/-- Where something else than a declaration stands, everybody has been declared. -/
theorem declaredNames_take {statements : List Statement} (first : DeclarationsFirst statements)
    {position : Nat} {statement : Statement} (here : statements[position]? = some statement)
    (noDeclaration : statement.action.declared? = none) :
    declaredNames (statements.take position) = declaredNames statements := by
  have split : statements.drop position = statement :: statements.drop (position + 1) := by
    obtain ⟨inside, rfl⟩ := List.getElem?_eq_some_iff.mp here
    exact List.drop_eq_getElem_cons inside
  have ordered : DeclarationsFirst (statements.drop position) :=
    List.Pairwise.sublist (List.drop_sublist position statements) first
  have noneLater : declaredNames (statements.drop position) = [] := by
    rw [split] at ordered ⊢
    apply declaredNames_eq_nil
    intro other member
    rcases List.mem_cons.mp member with isHere | later
    · rw [isHere]
      exact noDeclaration
    · have before := (List.pairwise_cons.mp ordered).1 other later
      rw [noDeclaration] at before
      simpa using before
  conv => rhs; rw [← List.take_append_drop position statements]
  rw [declaredNames_append, noneLater, List.append_nil]

/-! ### The prologue of a reading -/

/-- The parts in front of the first act. -/
def State.isPrologue : State → Bool
  | start | title | characterDeclaration => true
  | _ => false

namespace Reading

/-- The declarations of a reading so far: they come first, nothing else is told
before the first act, and they name those who are declared. -/
structure Prologue (told : List Statement) (reading : Reading) : Prop where
  first : DeclarationsFirst told
  only : reading.state.isPrologue → ∀ statement ∈ told, statement.action.declared?.isSome
  declared : ∀ name, name ∈ reading.company.declared ↔ name ∈ declaredNames told

variable {vocabulary : Vocabulary} {reading after : Reading} {statement : Option Statement}
  {told : List Statement}

theorem prologue_ofTokens (tokens : List Token) : Prologue [] (ofTokens tokens) where
  first := List.Pairwise.nil
  only _ _ member := nomatch member
  declared _ := Iff.rfl

/-- A part either declares a character, in the prologue, or declares nobody and
tells something only after the prologue. -/
theorem Reads.declares (read : Reads vocabulary reading statement after) :
    (∃ name line, statement = some ⟨.declare name, line⟩ ∧ reading.state.isPrologue ∧
      after.company.declared = NameSet.insert name reading.company.declared) ∨
    ((∀ made ∈ statement, made.action.declared? = none ∧ ¬ reading.state.isPrologue) ∧
      after.company.declared = reading.company.declared) := by
  have tells {made : Statement} (declaresNobody : made.action.declared? = none)
      (afterPrologue : ¬ reading.state.isPrologue) :
      ∀ other ∈ some made, other.action.declared? = none ∧ ¬ reading.state.isPrologue := by
    intro other isMade
    cases isMade
    exact ⟨declaresNobody, afterPrologue⟩
  cases read with
  | @declaration name line tokens rest state here found =>
      exact Or.inl ⟨name, line, rfl, by rw [state]; rfl, rfl⟩
  | @address kind action line rest name state here isAddress listens =>
      have declaresNobody : (action name).declared? = none := by
        cases kind <;> cases isAddress <;> rfl
      exact Or.inr ⟨tells declaresNobody (by rw [state]; decide), rfl⟩
  | scene state | push state | jump state | conditionalJump state | assignment state =>
      exact Or.inr ⟨tells rfl (by rw [state]; decide), rfl⟩
  | _ => exact Or.inr ⟨fun _ isMade => (nomatch isMade), rfl⟩

/-- With the standard table nothing leads back into the prologue. -/
theorem isPrologue_of_follows {state target : State}
    (follows : Follows NextStates.standard state target) (isPrologueTarget : target.isPrologue) :
    state.isPrologue := by
  rcases follows.standard with same | listed
  · rw [← same]
    exact isPrologueTarget
  · revert listed isPrologueTarget
    cases state <;> cases target <;> decide

/-- A turn keeps the declarations in front. -/
theorem Prologue.turn (prologue : Prologue told reading)
    (turn : Turn NextStates.standard vocabulary reading statement after) :
    Prologue (told ++ statement.toList) after := by
  obtain ⟨middle, target, read, follows, rfl⟩ := turn.reads
  rw [read.state] at follows
  rcases read.declares with ⟨name, line, rfl, inPrologue, grown⟩ | ⟨tells, same⟩
  · constructor
    · refine List.pairwise_append.mpr ⟨prologue.first, List.pairwise_singleton _ _, ?_⟩
      intro earlier member _ _ _
      exact prologue.only inPrologue earlier member
    · intro _ made member
      rcases List.mem_append.mp member with before | now
      · exact prologue.only inPrologue made before
      · rw [List.mem_singleton.mp now]
        rfl
    · intro other
      rw [grown, NameSet.mem_insert, declaredNames_append, List.mem_append, prologue.declared]
      exact or_comm.trans (or_congr_right List.mem_singleton.symm)
  · have noDeclaration : ∀ made ∈ statement.toList, made.action.declared? = none :=
      fun made member => (tells made (Option.mem_toList.mp member)).1
    constructor
    · refine List.pairwise_append.mpr ⟨prologue.first, ?_, ?_⟩
      · cases statement <;> simp
      · intro earlier _ later member isDeclaration
        rw [noDeclaration later member] at isDeclaration
        cases isDeclaration
    · intro isPrologueTarget made member
      have inPrologue := isPrologue_of_follows follows isPrologueTarget
      rcases List.mem_append.mp member with before | now
      · exact prologue.only inPrologue made before
      · exact absurd inPrologue (tells made (Option.mem_toList.mp now)).2
    · intro other
      rw [same, declaredNames_append, declaredNames_eq_nil noDeclaration, List.append_nil]
      exact prologue.declared other

theorem prologue_of_passage {tokens : List Token}
    (passed : Passage NextStates.standard vocabulary (ofTokens tokens) told reading) :
    Prologue told reading := by
  induction passed with
  | here => exact prologue_ofTokens tokens
  | turn passed turned inductionHypothesis => exact inductionHypothesis.turn turned

end Reading

end Playhouse

/-
Module: Playhouse.Proofs.Outline
Purpose: The shape of every play that is understood: characters first, then scenes
  whose jumps stay within their act.
Main exports: Scene, Outline, Outline.statements, Outline.WellFormed, Reading.Reads.suffix,
  Reading.Reads.plots, Reading.Plotted, Reading.Plotted.turn, outline_of_readTokens
-/
import Playhouse.Proofs.Prologue

namespace Playhouse

/-! ### Plays in outline -/

/-- The tag of a scene, by the act in which it stands and its number. -/
def sceneTag (act number : String) : String :=
  act ++ "." ++ number

/-- A scene in outline: its act, its number, the line of its heading, and what is
told in it. -/
structure Scene where
  act : String
  number : String
  line : Nat
  told : List Statement
deriving Repr, Inhabited, DecidableEq

/-- The statements of a scene, its heading first. -/
def Scene.statements (scene : Scene) : List Statement :=
  ⟨.scene (sceneTag scene.act scene.number), scene.line⟩ :: scene.told

/-- A play in outline: its characters, each with the line of the declaration, and
its scenes. -/
structure Outline where
  characters : List (String × Nat)
  scenes : List Scene
deriving Repr, Inhabited, DecidableEq

namespace Outline

/-- The names of the characters. -/
def names (outline : Outline) : List String :=
  outline.characters.map Prod.fst

/-- The declarations of the characters. -/
def declarations (outline : Outline) : List Statement :=
  outline.characters.map fun character => ⟨.declare character.1, character.2⟩

/-- The statements of a play: all declarations, then scene after scene. -/
def statements (outline : Outline) : List Statement :=
  outline.declarations ++ outline.scenes.flatMap Scene.statements

end Outline

/-- Whether an action is told within a scene: it concerns a character or is a
jump. -/
def Action.isTold : Action → Bool
  | scanNumber _ | scanCharacter _ | printCharacter _ | printNumber _ | push _ _ | pop _
  | assign _ _ _ | jump _ | jumpIf _ _ _ => true
  | scene _ | declare _ | ask _ | remark _ => false

/-- An action whose jump, if it makes one, stays within an act. -/
def Action.StaysIn (act : String) (action : Action) : Prop :=
  ∀ tag, action.destination? = some tag → ∃ number, tag = sceneTag act number

/-- A scene in which only statements are told, which name declared characters only
and never jump to another act. -/
structure Scene.WellFormed (declared : List String) (scene : Scene) : Prop where
  told : ∀ statement ∈ scene.told, statement.action.isTold
  sayable : ∀ statement ∈ scene.told, statement.action.Sayable declared
  staysIn : ∀ statement ∈ scene.told, statement.action.StaysIn scene.act

def Outline.WellFormed (outline : Outline) : Prop :=
  ∀ scene ∈ outline.scenes, scene.WellFormed outline.names

/-! ### What is left of the tokens -/

theorem afterPunctuation?_suffix {tokens rest : List Token}
    (found : afterPunctuation? tokens = some rest) : rest <:+ tokens := by
  induction tokens with
  | nil => cases found
  | cons token others inductionHypothesis =>
      unfold afterPunctuation? at found
      split at found
      · cases found
        exact List.suffix_cons token rest
      · exact (inductionHypothesis found).trans (List.suffix_cons token others)

theorem readSentence_suffix {startLine : Nat} {tokens : List Token} {sentence : Sentence}
    (said : readSentence startLine tokens = .ok sentence) : sentence.rest <:+ tokens := by
  induction tokens generalizing sentence with
  | nil => cases said
  | cons token others inductionHypothesis =>
      unfold readSentence at said
      split at said
      · cases said
        exact List.suffix_cons token others
      · cases inner : readSentence startLine others with
        | error fault =>
            rw [inner] at said
            cases said
        | ok shorter =>
            rw [inner] at said
            cases said
            exact (inductionHypothesis inner).trans (List.suffix_cons token others)
      · cases said

theorem readRightSide_suffix {startLine : Nat} {comparison : Comparison} {begun : Bool}
    {tokens : List Token} {query : Query}
    (read : readRightSide startLine comparison begun tokens = .ok query) :
    query.rest <:+ tokens := by
  induction tokens generalizing begun query with
  | nil => cases read
  | cons token others inductionHypothesis =>
      unfold readRightSide at read
      split at read
      · cases read
      · split at read
        · cases read
          exact List.suffix_cons token others
        · cases read
      · cases inner : readRightSide startLine comparison true others with
        | error fault =>
            rw [inner] at read
            cases read
        | ok shorter =>
            rw [inner] at read
            cases read
            exact (inductionHypothesis inner).trans (List.suffix_cons token others)
      · cases read

theorem readLeftSide_suffix {startLine : Nat} {begun : Bool} {tokens : List Token}
    {query : Query} (read : readLeftSide startLine begun tokens = .ok query) :
    query.rest <:+ tokens := by
  induction tokens generalizing begun query with
  | nil => cases read
  | cons token others inductionHypothesis =>
      unfold readLeftSide at read
      split at read
      · split at read
        · exact (readRightSide_suffix read).trans (List.suffix_cons token others)
        · cases read
      · cases read
      · cases inner : readLeftSide startLine true others with
        | error fault =>
            rw [inner] at read
            cases read
        | ok shorter =>
            rw [inner] at read
            cases read
            exact (inductionHypothesis inner).trans (List.suffix_cons token others)
      · cases read

/-- A scene whose headings stand among the tokens, in which only statements are
told that stay within its act. -/
structure Scene.Framed (tokens : List Token) (scene : Scene) : Prop where
  act : ∃ description line, ⟨.act scene.act description, line⟩ ∈ tokens
  number : ∃ description, ⟨.scene scene.number description, scene.line⟩ ∈ tokens
  told : ∀ statement ∈ scene.told, statement.action.isTold
  staysIn : ∀ statement ∈ scene.told, statement.action.StaysIn scene.act

/-- One more statement that stays within the act of its scene. -/
theorem Scene.Framed.tell {tokens : List Token} {scene : Scene} (framed : scene.Framed tokens)
    {made : Statement} (isTold : made.action.isTold) (stays : made.action.StaysIn scene.act) :
    Scene.Framed tokens { scene with told := scene.told ++ [made] } where
  act := framed.act
  number := framed.number
  told statement member := by
    rcases List.mem_append.mp member with before | new
    · exact framed.told statement before
    · rw [List.mem_singleton.mp new]
      exact isTold
  staysIn statement member := by
    rcases List.mem_append.mp member with before | new
    · exact framed.staysIn statement before
    · rw [List.mem_singleton.mp new]
      exact stays

/-! ### Parts within an act and within a scene -/

/-- Whether a part stands below the heading of an act. -/
def State.inAct : State → Bool
  | scene | stage | characterSpeaking | dialogue => true
  | start | title | characterDeclaration | act => false

/-- Whether a part stands below the heading of a scene. -/
def State.inScene : State → Bool
  | stage | characterSpeaking | dialogue => true
  | start | title | characterDeclaration | act | scene => false

namespace Reading

theorem afterIntroduction_suffix {tokens rest : List Token}
    (introduction : afterIntroduction tokens = .ok rest) : rest <:+ tokens := by
  unfold afterIntroduction at introduction
  split at introduction
  · split at introduction
    · cases introduction
      exact (List.suffix_cons _ _).trans (List.suffix_cons _ _)
    · cases introduction
  · cases introduction
    exact List.suffix_cons _ _
  · cases introduction
    exact List.suffix_rfl

variable {vocabulary : Vocabulary} {reading after : Reading} {statement : Option Statement}
  {tokens : List Token} {told : List Statement} {outline : Outline}

/-- A part leaves an end of its tokens. -/
theorem Reads.suffix (read : Reads vocabulary reading statement after) :
    after.rest <:+ reading.rest := by
  cases read with
  | start state => exact List.suffix_rfl
  | title state found => exact afterPunctuation?_suffix found
  | declaration state here found =>
      rw [here]
      exact (afterPunctuation?_suffix found).trans (List.suffix_cons _ _)
  | push state here said =>
      rw [here]
      exact (readSentence_suffix said).trans (List.suffix_cons _ _)
  | assignment state here introduction said =>
      rw [here]
      exact ((readSentence_suffix said).trans (afterIntroduction_suffix introduction)).trans
        (List.suffix_cons _ _)
  | question state here unasked queried =>
      rw [here]
      exact (readLeftSide_suffix queried).trans (List.suffix_cons _ _)
  | act state here | scene state here | enter state here | exeunt state here
  | exit state here | speaker state here | address state here | jump state here
  | conditionalJump state here =>
      rw [here]
      exact List.suffix_cons _ _

/-- With the standard table an act is entered by its heading only. -/
theorem inAct_of_follows {state target : State}
    (follows : Follows NextStates.standard state target) (inAct : target.inAct) :
    state = .act ∨ state.inAct := by
  rcases follows.standard with same | listed
  · rw [← same]
    exact Or.inr inAct
  · revert listed inAct
    cases state <;> cases target <;> decide

/-- With the standard table a scene is entered by its heading only. -/
theorem inScene_of_follows {state target : State}
    (follows : Follows NextStates.standard state target) (inScene : target.inScene) :
    state = .scene ∨ state.inScene := by
  rcases follows.standard with same | listed
  · rw [← same]
    exact Or.inr inScene
  · revert listed inScene
    cases state <;> cases target <;> decide

/-! ### The plot -/

/-- What a part adds to the outline of a play: a character, the heading of an act
or of a scene, nothing, or a statement told in the current act. -/
inductive Plots (reading after : Reading) : Option Statement → Prop where
  | character {name : String} {line : Nat} (state : reading.state = .characterDeclaration)
      (sameAct : after.act = reading.act) : Plots reading after (some ⟨.declare name, line⟩)
  | act {number description : String} {line : Nat} (state : reading.state = .act)
      (here : ⟨.act number description, line⟩ ∈ reading.rest)
      (newAct : after.act = some number) : Plots reading after none
  | scene {number description : String} {line : Nat} (state : reading.state = .scene)
      (here : ⟨.scene number description, line⟩ ∈ reading.rest)
      (sameAct : after.act = reading.act) :
      Plots reading after (some ⟨.scene (reading.tag number), line⟩)
  | nothing (noAct : reading.state ≠ .act) (noScene : reading.state ≠ .scene)
      (sameAct : after.act = reading.act) : Plots reading after none
  | told {made : Statement} (state : reading.state = .dialogue)
      (isTold : made.action.isTold)
      (stays : ∀ tag, made.action.destination? = some tag → ∃ number, tag = reading.tag number)
      (sameAct : after.act = reading.act) : Plots reading after (some made)

/-- A statement of one token about the listener is told and does not jump. -/
theorem told_of_address {kind : TokenKind} {action : String → Action}
    (isAddress : kind.address? = some action) (name : String) :
    (action name).isTold ∧ (action name).destination? = none := by
  cases kind <;> cases isAddress <;> exact ⟨rfl, rfl⟩

theorem Reads.plots (read : Reads vocabulary reading statement after) :
    Plots reading after statement := by
  cases read with
  | start state | title state | enter state | exeunt state | exit state | speaker state
  | question state => exact .nothing (by simp [state]) (by simp [state]) rfl
  | declaration state here found => exact .character state rfl
  | act state here => exact .act state (by rw [here]; exact List.mem_cons_self) rfl
  | scene state here => exact .scene state (by rw [here]; exact List.mem_cons_self) rfl
  | @address kind action line rest name state here isAddress listens =>
      obtain ⟨isTold, noJump⟩ := told_of_address isAddress name
      exact .told state isTold (fun tag leads => by rw [noJump] at leads; cases leads) rfl
  | push state | assignment state =>
      exact .told state rfl (fun tag leads => by cases leads) rfl
  | @jump target line rest state here =>
      refine .told state rfl (fun tag leads => ?_) rfl
      cases leads
      exact ⟨target, rfl⟩
  | @conditionalJump affirmed target line rest question state here asked =>
      refine .told state rfl (fun tag leads => ?_) rfl
      cases leads
      exact ⟨target, rfl⟩

/-- A reading with the outline of what it has told so far: before the first act
there are no scenes, and the last scene stands in the current act. -/
structure Plotted (tokens : List Token) (outline : Outline) (reading : Reading) : Prop where
  suffix : reading.rest <:+ tokens
  prologue : reading.state.isPrologue → outline.scenes = []
  act : reading.state.inAct → ∃ act description line, reading.act = some act ∧
    ⟨.act act description, line⟩ ∈ tokens
  current : reading.state.inScene → ∃ earlier scene, outline.scenes = earlier ++ [scene] ∧
    reading.act = some scene.act
  framed : ∀ scene ∈ outline.scenes, scene.Framed tokens

theorem plotted_ofTokens (tokens : List Token) : Plotted tokens ⟨[], []⟩ (ofTokens tokens) where
  suffix := List.suffix_rfl
  prologue _ := rfl
  act inAct := nomatch inAct
  current inScene := nomatch inScene
  framed _ member := nomatch member

/-- The tag of a scene in the act that is set. -/
theorem tag_eq_sceneTag {act : String} (isAct : reading.act = some act) (number : String) :
    reading.tag number = sceneTag act number := by
  rw [tag, isAct]
  rfl

section Turn

variable {middle : Reading} {target : State}

/-- Where a part sets no act, the act below a heading stays what it was. -/
theorem Plotted.act_of_follows (plotted : Plotted tokens outline reading)
    (follows : Follows NextStates.standard reading.state target)
    (noAct : reading.state ≠ .act) (sameAct : middle.act = reading.act)
    (inAct : target.inAct) :
    ∃ act description line, middle.act = some act ∧ ⟨.act act description, line⟩ ∈ tokens := by
  rw [sameAct]
  exact plotted.act ((inAct_of_follows follows inAct).resolve_left noAct)

/-- A part behind the prologue leads to no part of it. -/
theorem not_isPrologue_of_follows (follows : Follows NextStates.standard reading.state target)
    (afterPrologue : reading.state.isPrologue = false) : ¬ target.isPrologue := by
  intro isPrologue
  have wasPrologue := isPrologue_of_follows follows isPrologue
  rw [afterPrologue] at wasPrologue
  cases wasPrologue

/-- A part outside of every scene leads into none, unless it is a heading. -/
theorem not_inScene_of_follows (follows : Follows NextStates.standard reading.state target)
    (noHeading : reading.state ≠ .scene) (outside : reading.state.inScene = false) :
    ¬ target.inScene := by
  intro inScene
  have wasInScene := (inScene_of_follows follows inScene).resolve_left noHeading
  rw [outside] at wasInScene
  cases wasInScene

/-- Declaring a character adds it to the outline. -/
theorem Plotted.character (plotted : Plotted tokens outline reading)
    (suffix : middle.rest <:+ tokens)
    (follows : Follows NextStates.standard reading.state target)
    (state : reading.state = .characterDeclaration) (sameAct : middle.act = reading.act)
    (name : String) (line : Nat) :
    ∃ further : Outline, further.statements = outline.statements ++ [⟨.declare name, line⟩] ∧
      Plotted tokens further { middle with state := target } := by
  have noScenes : outline.scenes = [] := plotted.prologue (by rw [state]; rfl)
  refine ⟨{ outline with characters := outline.characters ++ [(name, line)] }, ?_, ?_⟩
  · simp [Outline.statements, Outline.declarations, noScenes]
  · refine ⟨suffix, fun _ => noScenes, ?_, ?_, plotted.framed⟩
    · exact plotted.act_of_follows follows (by simp [state]) sameAct
    · intro inScene
      have outside := not_inScene_of_follows follows (by simp [state]) (by rw [state]; rfl)
      exact absurd inScene outside

/-- The heading of an act changes the act of the scenes to come. -/
theorem Plotted.enterAct (plotted : Plotted tokens outline reading)
    (suffix : middle.rest <:+ tokens)
    (follows : Follows NextStates.standard reading.state target)
    (state : reading.state = .act) {number description : String} {line : Nat}
    (here : ⟨.act number description, line⟩ ∈ reading.rest)
    (newAct : middle.act = some number) :
    Plotted tokens outline { middle with state := target } where
  suffix := suffix
  prologue isPrologue :=
    absurd isPrologue (not_isPrologue_of_follows follows (by rw [state]; rfl))
  act _ := ⟨number, description, line, newAct, plotted.suffix.mem here⟩
  current inScene := by
    have outside := not_inScene_of_follows follows (by simp [state]) (by rw [state]; rfl)
    exact absurd inScene outside
  framed := plotted.framed

/-- The heading of a scene opens a scene in the current act. -/
theorem Plotted.openScene (plotted : Plotted tokens outline reading)
    (suffix : middle.rest <:+ tokens)
    (follows : Follows NextStates.standard reading.state target)
    (state : reading.state = .scene) {number description : String} {line : Nat}
    (here : ⟨.scene number description, line⟩ ∈ reading.rest)
    (sameAct : middle.act = reading.act) :
    ∃ further : Outline,
      further.statements = outline.statements ++ [⟨.scene (reading.tag number), line⟩] ∧
      Plotted tokens further { middle with state := target } := by
  obtain ⟨act, actDescription, actLine, isAct, actToken⟩ := plotted.act (by rw [state]; rfl)
  refine ⟨{ outline with scenes := outline.scenes ++ [⟨act, number, line, []⟩] }, ?_, ?_⟩
  · simp [Outline.statements, Outline.declarations, Scene.statements, tag_eq_sceneTag isAct]
  · refine ⟨suffix, ?_, ?_, ?_, ?_⟩
    · intro isPrologue
      exact absurd isPrologue (not_isPrologue_of_follows follows (by rw [state]; rfl))
    · exact plotted.act_of_follows follows (by simp [state]) sameAct
    · intro _
      exact ⟨outline.scenes, ⟨act, number, line, []⟩, rfl, sameAct.trans isAct⟩
    · intro scene member
      rcases List.mem_append.mp member with earlier | new
      · exact plotted.framed scene earlier
      · rw [List.mem_singleton.mp new]
        exact ⟨⟨actDescription, actLine, actToken⟩,
          ⟨description, plotted.suffix.mem here⟩, by simp, by simp⟩

/-- A part that tells nothing and sets no act leaves the outline as it is. -/
theorem Plotted.nothing (plotted : Plotted tokens outline reading)
    (suffix : middle.rest <:+ tokens)
    (follows : Follows NextStates.standard reading.state target)
    (noAct : reading.state ≠ .act) (noScene : reading.state ≠ .scene)
    (sameAct : middle.act = reading.act) :
    Plotted tokens outline { middle with state := target } where
  suffix := suffix
  prologue isPrologue := plotted.prologue (isPrologue_of_follows follows isPrologue)
  act := plotted.act_of_follows follows noAct sameAct
  current inScene := by
    obtain ⟨earlier, scene, isLast, isAct⟩ :=
      plotted.current ((inScene_of_follows follows inScene).resolve_left noScene)
    exact ⟨earlier, scene, isLast, sameAct.trans isAct⟩
  framed := plotted.framed

/-- A statement of a speech is told in the last scene. -/
theorem Plotted.tell (plotted : Plotted tokens outline reading)
    (suffix : middle.rest <:+ tokens)
    (follows : Follows NextStates.standard reading.state target)
    (state : reading.state = .dialogue) {made : Statement} (isTold : made.action.isTold)
    (stays : ∀ tag, made.action.destination? = some tag → ∃ number, tag = reading.tag number)
    (sameAct : middle.act = reading.act) :
    ∃ further : Outline, further.statements = outline.statements ++ [made] ∧
      Plotted tokens further { middle with state := target } := by
  obtain ⟨earlier, scene, isLast, isAct⟩ := plotted.current (by rw [state]; rfl)
  have staysIn : made.action.StaysIn scene.act := by
    intro tag leads
    obtain ⟨number, rfl⟩ := stays tag leads
    exact ⟨number, tag_eq_sceneTag isAct number⟩
  have lastFramed : scene.Framed tokens := plotted.framed scene (by simp [isLast])
  refine ⟨{ outline with
    scenes := earlier ++ [{ scene with told := scene.told ++ [made] }] }, ?_, ?_⟩
  · simp [Outline.statements, Outline.declarations, Scene.statements, isLast]
  · refine ⟨suffix, ?_, ?_, ?_, ?_⟩
    · intro isPrologue
      exact absurd isPrologue (not_isPrologue_of_follows follows (by rw [state]; rfl))
    · exact plotted.act_of_follows follows (by simp [state]) sameAct
    · intro _
      exact ⟨earlier, { scene with told := scene.told ++ [made] }, rfl, sameAct.trans isAct⟩
    · intro other member
      rcases List.mem_append.mp member with before | new
      · exact plotted.framed other (by simp [isLast, before])
      · rw [List.mem_singleton.mp new]
        exact lastFramed.tell isTold staysIn

end Turn

/-- A turn adds to the outline what it tells. -/
theorem Plotted.turn (plotted : Plotted tokens outline reading)
    (turn : Turn NextStates.standard vocabulary reading statement after) :
    ∃ further : Outline, further.statements = outline.statements ++ statement.toList ∧
      Plotted tokens further after := by
  obtain ⟨middle, target, read, follows, rfl⟩ := turn.reads
  rw [read.state] at follows
  have suffix : middle.rest <:+ tokens := read.suffix.trans plotted.suffix
  cases read.plots with
  | character state sameAct => exact plotted.character suffix follows state sameAct _ _
  | act state here newAct =>
      exact ⟨outline, by simp, plotted.enterAct suffix follows state here newAct⟩
  | scene state here sameAct => exact plotted.openScene suffix follows state here sameAct
  | nothing noAct noScene sameAct =>
      exact ⟨outline, by simp, plotted.nothing suffix follows noAct noScene sameAct⟩
  | told state isTold stays sameAct =>
      exact plotted.tell suffix follows state isTold stays sameAct

/-- Whatever has been told on a passage from the start of a play has an outline. -/
theorem plotted_of_passage
    (passed : Passage NextStates.standard vocabulary (ofTokens tokens) told reading) :
    ∃ outline : Outline, outline.statements = told ∧ Plotted tokens outline reading := by
  induction passed with
  | here => exact ⟨⟨[], []⟩, rfl, plotted_ofTokens tokens⟩
  | turn passed turned inductionHypothesis =>
      obtain ⟨outline, rfl, plotted⟩ := inductionHypothesis
      exact plotted.turn turned

end Reading

/-! ### Every play has an outline -/

/-- The characters of an outline are those whom its statements declare. -/
theorem Outline.declaredNames_statements {outline : Outline}
    (told : ∀ scene ∈ outline.scenes, ∀ statement ∈ scene.told, statement.action.isTold) :
    declaredNames outline.statements = outline.names := by
  have noneInScenes : declaredNames (outline.scenes.flatMap Scene.statements) = [] := by
    apply declaredNames_eq_nil
    intro statement member
    obtain ⟨scene, isScene, inScene⟩ := List.mem_flatMap.mp member
    rcases List.mem_cons.mp inScene with isHeading | isInside
    · rw [isHeading]
      rfl
    · have isTold := told scene isScene statement isInside
      cases action : statement.action <;> simp_all [Action.isTold, Action.declared?]
  rw [statements, declaredNames_append, noneInScenes, List.append_nil, declarations, names,
    declaredNames, List.filterMap_map]
  exact congrFun List.filterMap_eq_map outline.characters

/-- Every play that is understood consists of declarations and then of scenes.  In a
scene only declared characters are named, all numbers are zero or powers of two with
a sign, and jumps stay within the act of the scene.  The act and the number of every
scene are those of headings among the tokens, so that no tag lacks its act. -/
theorem outline_of_readTokens {vocabulary : Vocabulary} {tokens : List Token}
    {statements : List Statement} (understood : readTokens vocabulary tokens = .ok statements) :
    ∃ outline : Outline, outline.statements = statements ∧ outline.WellFormed ∧
      ∀ scene ∈ outline.scenes,
        (∃ description line, ⟨.act scene.act description, line⟩ ∈ tokens) ∧
        (∃ description, ⟨.scene scene.number description, scene.line⟩ ∈ tokens) := by
  obtain ⟨final, finished, passed⟩ := passage_of_readTokens understood
  obtain ⟨outline, rfl, plotted⟩ := Reading.plotted_of_passage passed
  have inOrder := Reading.inOrder_of_passage passed
  have prologue := Reading.prologue_of_passage passed
  have isTold scene (member : scene ∈ outline.scenes) := (plotted.framed scene member).told
  refine ⟨outline, rfl, ?_, ?_⟩
  · intro scene member
    refine ⟨isTold scene member, ?_, (plotted.framed scene member).staysIn⟩
    intro statement inScene
    have isStatement : statement ∈ outline.statements := by
      apply List.mem_append_right
      exact List.mem_flatMap.mpr ⟨scene, member, List.mem_cons_of_mem _ inScene⟩
    refine (inOrder.told statement isStatement).mono fun name isDeclared => ?_
    rw [← Outline.declaredNames_statements isTold]
    exact (prologue.declared name).mp isDeclared
  · intro scene member
    exact ⟨(plotted.framed scene member).act, (plotted.framed scene member).number⟩

/-- The tokens of a play in two acts, which ends with a jump to its last scene. -/
def twoActs : List Token :=
  [⟨.lexeme .punctuation, 1⟩, ⟨.lexeme (.character "Ajax"), 2⟩, ⟨.lexeme .punctuation, 2⟩,
    ⟨.lexeme (.character "Puck"), 3⟩, ⟨.lexeme .punctuation, 3⟩, ⟨.act "I" "a", 4⟩,
    ⟨.scene "I" "a", 5⟩, ⟨.enter ["Ajax", "Puck"], 6⟩, ⟨.speaking "Puck", 7⟩, ⟨.printNumber, 7⟩,
    ⟨.act "II" "a", 8⟩, ⟨.scene "I" "a", 9⟩, ⟨.speaking "Ajax", 10⟩, ⟨.jump "I", 10⟩]

/-- In outline, the jump leads to the scene of its own act. -/
theorem outline_of_readTokens_twoActs :
    ∃ outline : Outline, outline.WellFormed ∧ outline.statements =
      [⟨.declare "Ajax", 2⟩, ⟨.declare "Puck", 3⟩, ⟨.scene "I.I", 5⟩, ⟨.printNumber "Ajax", 7⟩,
        ⟨.scene "II.I", 9⟩, ⟨.jump "II.I", 10⟩] := by
  have understood : (readTokens ⟨[]⟩ twoActs).toOption = some
      [⟨.declare "Ajax", 2⟩, ⟨.declare "Puck", 3⟩, ⟨.scene "I.I", 5⟩, ⟨.printNumber "Ajax", 7⟩,
        ⟨.scene "II.I", 9⟩, ⟨.jump "II.I", 10⟩] := by decide +kernel
  cases read : readTokens ⟨[]⟩ twoActs with
  | error fault =>
      rw [read] at understood
      cases understood
  | ok statements =>
      rw [read] at understood
      obtain rfl := Option.some.inj understood
      obtain ⟨outline, same, wellFormed, _⟩ := outline_of_readTokens read
      exact ⟨outline, wellFormed, same⟩

end Playhouse

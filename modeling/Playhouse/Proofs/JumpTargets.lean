/-
Module: Playhouse.Proofs.JumpTargets
Purpose: Jumps keep their targets as they are written, so those reach a scene that are written
  in capitals, as headings are.
Main exports: isRomanInAnyCase_of_token, headsScene_iff_inCapitals, sceneTag_inj,
  Outline.mem_sceneTags_iff, Reading.Reads.directs, Reading.directed_of_passage,
  jump_targets_keep_their_case
-/
import Playhouse.Play
import Playhouse.Proofs.JumpSentences
import Playhouse.Proofs.Labels
import Playhouse.Proofs.Outline

namespace Playhouse

open Text
open Pattern

/-! ### Targets among the tokens -/

/-- The target of a token is a numeral in whatever case. -/
theorem isRomanInAnyCase_of_token {vocabulary : Vocabulary} {source : String}
    {tokens : List Token} (cut : tokenize vocabulary source = .ok tokens) {token : Token}
    (member : token ∈ tokens) {target : String} (aimed : token.kind.target? = some target) :
    IsRomanInAnyCase target.toList := by
  obtain ⟨step, isStep, isKind⟩ := exists_step_of_token cut member
  rcases rule_of_step isStep isKind with ⟨c, -, isOther⟩ |
    ⟨pattern, caseless, before, behind, groups, made, fits⟩
  · rw [isOther] at aimed
    cases aimed
  · obtain ⟨make, -, -, -, aims⟩ := Rule.jumps_of_makes made aimed fits
    exact aims.anyCase

/-- A heading can carry it if it is written in capitals. -/
theorem headsScene_iff_inCapitals {target : String}
    (anyCase : IsRomanInAnyCase target.toList) :
    HeadsScene target ↔ InCapitals target.toList := by
  rw [headsScene_iff]
  constructor
  · exact IsRoman.inCapitals
  · intro capitals
    obtain ⟨numeral, isRoman, same⟩ := anyCase
    rwa [eq_of_sameLetters same isRoman.inCapitals capitals]

/-! ### Tags -/

/-- A tag tells its act, up to the point, and its number. -/
theorem sceneTag_inj {act other number target : String} (capitals : InCapitals act.toList)
    (otherCapitals : InCapitals other.toList) (same : sceneTag act number = sceneTag other target) :
    act = other ∧ number = target := by
  have noPoint : ∀ c ∈ romanLetters, c != '.' := List.all_eq_true.mp (by decide)
  have sameText : act.toList ++ '.' :: number.toList = other.toList ++ '.' :: target.toList := by
    simpa [sceneTag] using congrArg String.toList same
  obtain ⟨sameAct, -, sameNumber⟩ := append_cons_inj_of_span (· != '.') sameText
    (fun c member => noPoint c (capitals c member))
    (fun c member => noPoint c (otherCapitals c member)) (by decide) (by decide)
  exact ⟨String.toList_inj.mp sameAct, String.toList_inj.mp sameNumber⟩

/-- The act and the number of a scene are written in capitals, as the headings of a source are. -/
theorem Scene.Framed.inCapitals {vocabulary : Vocabulary} {source : String} {tokens : List Token}
    {scene : Scene} (framed : scene.Framed tokens)
    (cut : tokenize vocabulary source = .ok tokens) :
    InCapitals scene.act.toList ∧ InCapitals scene.number.toList := by
  obtain ⟨_, _, isAct⟩ := framed.act
  obtain ⟨_, isNumber⟩ := framed.number
  exact ⟨(isRoman_of_heading cut (Or.inl isAct)).inCapitals,
    (isRoman_of_heading cut (Or.inr isNumber)).inCapitals⟩

/-- The tags of a play are those of the scenes in its outline. -/
theorem Outline.mem_sceneTags_iff {outline : Outline}
    (told : ∀ scene ∈ outline.scenes, ∀ statement ∈ scene.told, statement.action.isTold)
    {tag : String} :
    tag ∈ sceneTags outline.statements ↔
      ∃ scene ∈ outline.scenes, tag = sceneTag scene.act scene.number := by
  have isHeading : tag ∈ sceneTags outline.statements ↔
      ∃ statement ∈ outline.statements, statement.action = .scene tag := by
    rw [Playhouse.mem_sceneTags_iff]
    simp only [OpensScene, List.mem_iff_getElem?]
    constructor
    · rintro ⟨position, statement, found, isScene⟩
      exact ⟨statement, ⟨position, found⟩, isScene⟩
    · rintro ⟨statement, ⟨position, found⟩, isScene⟩
      exact ⟨position, statement, found, isScene⟩
  rw [isHeading]
  constructor
  · rintro ⟨statement, member, opens⟩
    rcases List.mem_append.mp member with declaration | inScenes
    · obtain ⟨character, -, rfl⟩ := List.mem_map.mp declaration
      cases opens
    · obtain ⟨scene, isScene, inScene⟩ := List.mem_flatMap.mp inScenes
      rcases List.mem_cons.mp inScene with rfl | isInside
      · cases opens
        exact ⟨scene, isScene, rfl⟩
      · have isTold := told scene isScene statement isInside
        rw [opens] at isTold
        cases isTold
  · rintro ⟨scene, isScene, rfl⟩
    refine ⟨⟨.scene (sceneTag scene.act scene.number), scene.line⟩, ?_, rfl⟩
    apply List.mem_append_right
    exact List.mem_flatMap.mpr ⟨scene, isScene, List.mem_cons_self⟩

/-! ### From tokens to statements -/

namespace Reading

variable {vocabulary : Vocabulary} {reading after : Reading} {tokens : List Token}
  {told : List Statement}

/-- A statement that jumps is told by a token, and leads to the scene of the current act that
the token names. -/
theorem Reads.directs {statement : Option Statement}
    (read : Reads vocabulary reading statement after) {made : Statement}
    (isMade : statement = some made) {tag : String}
    (leads : made.action.destination? = some tag) :
    reading.state = .dialogue ∧
      ∃ token ∈ reading.rest, ∃ target, token.kind.target? = some target ∧
        tag = reading.tag target := by
  cases read with
  | start | title | act | enter | exeunt | exit | speaker | question => cases isMade
  | declaration | scene | push | assignment =>
      cases isMade
      cases leads
  | @address kind action line rest name state here isAddress =>
      cases isMade
      rw [(told_of_address isAddress name).2] at leads
      cases leads
  | jump state here | conditionalJump state here =>
      cases isMade
      cases leads
      exact ⟨state, _, by rw [here]; exact List.mem_cons_self, _, rfl, rfl⟩

/-- All that has been told on a passage and jumps was told by a token, in an act whose heading
stands among the tokens too. -/
theorem directed_of_passage
    (passed : Passage NextStates.standard vocabulary (ofTokens tokens) told reading) :
    ∀ statement ∈ told, ∀ tag, statement.action.destination? = some tag →
      ∃ act description line, ⟨.act act description, line⟩ ∈ tokens ∧
        ∃ token ∈ tokens, ∃ target, token.kind.target? = some target ∧
          tag = sceneTag act target := by
  induction passed with
  | here => simp
  | @turn told middle after statement passed turned inductionHypothesis =>
      intro made isTold tag leads
      rcases List.mem_append.mp isTold with before | new
      · exact inductionHypothesis made before tag leads
      · obtain ⟨outline, -, plotted⟩ := plotted_of_passage passed
        obtain ⟨_, _, read, -⟩ := turned.reads
        obtain ⟨state, token, isHere, target, aimed, rfl⟩ :=
          read.directs (Option.mem_toList.mp new) leads
        obtain ⟨act, description, line, isAct, isHeading⟩ := plotted.act (by rw [state]; rfl)
        exact ⟨act, description, line, isHeading, token, plotted.suffix.mem isHere, target, aimed,
          tag_eq_sceneTag isAct target⟩

end Reading

/-- A play in outline, whose jumps are those of tokens: each leads to a scene of the act in which
it is told. -/
theorem directed_of_readTokens {vocabulary : Vocabulary} {source : String} {tokens : List Token}
    (cut : tokenize vocabulary source = .ok tokens) {statements : List Statement}
    (understood : readTokens vocabulary tokens = .ok statements) :
    ∃ outline : Outline, outline.statements = statements ∧
      (∀ scene ∈ outline.scenes, scene.Framed tokens) ∧
      ∀ scene ∈ outline.scenes, ∀ statement ∈ scene.told, ∀ tag,
        statement.action.destination? = some tag →
          ∃ token ∈ tokens, ∃ target, token.kind.target? = some target ∧
            tag = sceneTag scene.act target := by
  obtain ⟨final, -, passed⟩ := passage_of_readTokens understood
  obtain ⟨outline, rfl, plotted⟩ := Reading.plotted_of_passage passed
  refine ⟨outline, rfl, plotted.framed, ?_⟩
  intro scene isScene statement isTold tag leads
  have framed := plotted.framed scene isScene
  have isStatement : statement ∈ outline.statements := by
    apply List.mem_append_right
    exact List.mem_flatMap.mpr ⟨scene, isScene, List.mem_cons_of_mem _ isTold⟩
  obtain ⟨act, description, line, isHeading, token, member, target, aimed, rfl⟩ :=
    Reading.directed_of_passage passed statement isStatement tag leads
  -- Both the scene and the token tell the act, and a tag has one act only.
  obtain ⟨number, same⟩ := framed.staysIn statement isTold _ leads
  obtain ⟨rfl, rfl⟩ := sceneTag_inj (isRoman_of_heading cut (Or.inl isHeading)).inCapitals
    (framed.inCapitals cut).1 same
  exact ⟨token, member, target, aimed, rfl⟩

/-! ### Jumps that reach their scenes -/

section

variable {outline : Outline} {tokens : List Token} {vocabulary : Vocabulary} {source : String}
  {act target : String}

/-- A target in capitals is the number of each scene that has the same letters. -/
theorem exists_lastScene_of_inCapitals (cut : tokenize vocabulary source = .ok tokens)
    (framed : ∀ scene ∈ outline.scenes, scene.Framed tokens) (capitals : InCapitals target.toList)
    {scene : Scene} (isScene : scene ∈ outline.scenes)
    (same : SameLetters scene.number.toList target.toList) :
    ∃ position, LastScene outline.statements (sceneTag scene.act target) position := by
  apply exists_lastScene
  have sameNumber := eq_of_sameLetters same ((framed scene isScene).inCapitals cut).2 capitals
  apply (Outline.mem_sceneTags_iff fun scene member => (framed scene member).told).mpr
  exact ⟨scene, isScene, by rw [String.toList_inj.mp sameNumber]⟩

/-- A target that is not in capitals leads nowhere. -/
theorem not_mem_sceneTags_of_not_inCapitals (cut : tokenize vocabulary source = .ok tokens)
    (framed : ∀ scene ∈ outline.scenes, scene.Framed tokens) (actCapitals : InCapitals act.toList)
    (noCapitals : ¬ InCapitals target.toList) :
    sceneTag act target ∉ sceneTags outline.statements := by
  rw [Outline.mem_sceneTags_iff fun scene member => (framed scene member).told]
  rintro ⟨scene, isScene, same⟩
  obtain ⟨headingCapitals, numberCapitals⟩ := (framed scene isScene).inCapitals cut
  obtain ⟨-, rfl⟩ := sceneTag_inj actCapitals headingCapitals same
  exact noCapitals numberCapitals

end

/-- The targets of jumps, whatever the words are and whatever the source is.  A target is a number
that headings of scenes carry, in whatever case it is written, and a heading can carry the target
itself if and only if it is written in capitals.  In whatever case a sentence that jumps is
written, it makes the same token, but for the case of the target.  And in the outline of a play,
whose acts and scenes are those of the headings, a jump leads to a scene of the act in which it is
told: if its target is in capitals and the act has a scene of that number, the play goes on with
the last such scene; if it is not in capitals, the jump fails, even though the act may have a scene
of the same letters. -/
theorem jump_targets_keep_their_case (vocabulary : Vocabulary) :
    (∀ source tokens, tokenize vocabulary source = .ok tokens →
      ∀ token ∈ tokens, ∀ target, token.kind.target? = some target →
        (HeadsScene target ↔ InCapitals target.toList) ∧
          ∃ number, HeadsScene number ∧ SameLetters number.toList target.toList) ∧
    (∀ before sentence variant behind kind tried target,
      attempt before (sentence ++ behind) 0 (Rule.table.map vocabulary.fill) =
        .found sentence (some kind) tried → kind.target? = some target →
      SameLetters sentence variant →
        ∃ other tried, SameLetters target.toList other.toList ∧
          (InCapitals target.toList → InCapitals other.toList → other = target) ∧
          attempt before (variant ++ behind) 0 (Rule.table.map vocabulary.fill) =
            .found variant (some (kind.aimedAt other)) tried) ∧
    ∀ source statements, readSource vocabulary source = .ok statements →
      ∃ tokens, tokenize vocabulary source = .ok tokens ∧
      ∃ outline : Outline, outline.statements = statements ∧
        (∀ scene ∈ outline.scenes, scene.Framed tokens) ∧
        ∀ scene ∈ outline.scenes, ∀ statement ∈ scene.told, ∀ tag,
          statement.action.destination? = some tag →
            ∃ token ∈ tokens, ∃ target, token.kind.target? = some target ∧
              tag = sceneTag scene.act target ∧
              (InCapitals target.toList →
                ∀ other ∈ outline.scenes, other.act = scene.act →
                  SameLetters other.number.toList target.toList →
                    ∃ position, LastScene statements tag position ∧
                      ∀ (σ : Type) (house : House σ) (line : Nat),
                        House.jump (Labels.ofStatements statements) house tag line =
                          (.ok (some position), house)) ∧
              (¬ InCapitals target.toList →
                ∀ (σ : Type) (house : House σ) (line : Nat),
                  House.jump (Labels.ofStatements statements) house tag line =
                    house.stop (.noSuchScene tag) line) := by
  refine ⟨?_, ?_, ?_⟩
  · intro source tokens cut token member target aimed
    have anyCase := isRomanInAnyCase_of_token cut member aimed
    obtain ⟨numeral, isRoman, same⟩ := id anyCase
    refine ⟨headsScene_iff_inCapitals anyCase, String.ofList numeral, ?_, ?_⟩
    · rwa [headsScene_iff, String.toList_ofList]
    · rwa [String.toList_ofList]
  · intro before sentence variant behind kind tried target found aimed same
    obtain ⟨other, tried, sameTarget, variantFound⟩ := attempt_of_sameLetters found aimed same
    refine ⟨other, tried, sameTarget, ?_, variantFound⟩
    intro capitals otherCapitals
    exact String.toList_inj.mp (eq_of_sameLetters sameTarget capitals otherCapitals)
  · intro source statements read
    unfold readSource at read
    split at read
    · cases read
    · rename_i tokens cut
      obtain ⟨outline, rfl, framed, directed⟩ := directed_of_readTokens cut read
      refine ⟨tokens, cut, outline, rfl, framed, ?_⟩
      intro scene isScene statement isTold tag leads
      obtain ⟨token, member, target, aimed, rfl⟩ :=
        directed scene isScene statement isTold tag leads
      refine ⟨token, member, target, aimed, rfl, ?_, ?_⟩
      · intro capitals other isOther sameAct same
        obtain ⟨position, isLast⟩ := exists_lastScene_of_inCapitals cut framed capitals isOther same
        rw [sameAct] at isLast
        refine ⟨position, isLast, ?_⟩
        intro σ house line
        rw [House.jump, Labels.get?_ofStatements.mpr isLast]
      · intro noCapitals σ house line
        have noScene := not_mem_sceneTags_of_not_inCapitals cut framed
          ((framed scene isScene).inCapitals cut).1 noCapitals
        rw [House.jump, Labels.get?_ofStatements_eq_none_iff.mpr noScene]

/-- A play in which Ajax goes back to the only scene twice, once in small letters. -/
def homecoming : String :=
  "P.\nPuck.\nAjax.\nAct I: a.\nScene I: a.\n[Enter Puck and Ajax]\n" ++
    "Ajax: Let us return to scene I. We must return to scene i."

def homecomingWords : Vocabulary :=
  ⟨[(.character, .ok (WordList.ofWords ["Puck", "Ajax"]))]⟩

def homecomingTokens : List Token :=
  [⟨.lexeme (.other "P"), 1⟩, ⟨.lexeme .punctuation, 1⟩, ⟨.lexeme (.character "Puck"), 2⟩,
    ⟨.lexeme .punctuation, 2⟩, ⟨.lexeme (.character "Ajax"), 3⟩, ⟨.lexeme .punctuation, 3⟩,
    ⟨.act "I" "a.", 4⟩, ⟨.scene "I" "a.", 5⟩, ⟨.enter ["Ajax", "Puck"], 6⟩, ⟨.speaking "Ajax", 7⟩,
    ⟨.jump "I", 7⟩, ⟨.jump "i", 7⟩]

def homecomingStatements : List Statement :=
  [⟨.declare "Puck", 2⟩, ⟨.declare "Ajax", 3⟩, ⟨.scene "I.I", 5⟩, ⟨.jump "I.I", 7⟩,
    ⟨.jump "I.i", 7⟩]

/-- No heading carries the second target; the sentence of the second jump is one in capitals too;
and if its target is not in capitals, it fails. -/
theorem jump_targets_keep_their_case_homecoming :
    (∃ tokens, tokenize homecomingWords homecoming = .ok tokens ∧ ⟨.jump "i", 7⟩ ∈ tokens ∧
      ¬ HeadsScene "i") ∧
    (SameLetters "We must return to scene i.".toList "WE MUST RETURN TO SCENE I.".toList ∧
      ∃ other tried, SameLetters "i".toList other.toList ∧
        attempt none ("WE MUST RETURN TO SCENE I.".toList ++ []) 0
            (Rule.table.map homecomingWords.fill) =
          .found "WE MUST RETURN TO SCENE I.".toList (some (.jump other)) tried) ∧
    readSource homecomingWords homecoming = .ok homecomingStatements ∧
      ∃ outline : Outline, outline.statements = homecomingStatements ∧
        ∀ scene ∈ outline.scenes, ⟨.jump "I.i", 7⟩ ∈ scene.told →
          ∃ target, "I.i" = sceneTag scene.act target ∧
            (¬ InCapitals target.toList → ∀ (σ : Type) (house : House σ) (line : Nat),
              House.jump (Labels.ofStatements homecomingStatements) house "I.i" line =
                house.stop (.noSuchScene "I.i") line) := by
  have cut : tokenize homecomingWords homecoming = .ok homecomingTokens :=
    Consulting.eq_ok_of_toOption (by decide +kernel)
  have found : attempt none ("We must return to scene i.".toList ++ []) 0
      (Rule.table.map homecomingWords.fill) =
        .found "We must return to scene i.".toList (some (.jump "i")) 19 := rfl
  have same : SameLetters "We must return to scene i.".toList
      "WE MUST RETURN TO SCENE I.".toList := by
    rw [SameLetters, Spelling]
    decide +kernel
  have read : readSource homecomingWords homecoming = .ok homecomingStatements := by
    rw [readSource, cut]
    exact Consulting.eq_ok_of_toOption (by decide +kernel)
  obtain ⟨targets, sentences, jumps⟩ := jump_targets_keep_their_case homecomingWords
  refine ⟨?_, ⟨same, ?_⟩, read, ?_⟩
  · have isToken : ⟨.jump "i", 7⟩ ∈ homecomingTokens := by decide
    refine ⟨homecomingTokens, cut, isToken, ?_⟩
    rw [(targets _ _ cut _ isToken "i" rfl).1]
    exact fun capitals => absurd (capitals 'i' (by decide)) (by decide)
  · obtain ⟨other, tried, sameTarget, -, variantFound⟩ := sentences _ _ _ _ _ _ _ found rfl same
    exact ⟨other, tried, sameTarget, variantFound⟩
  · obtain ⟨tokens, -, outline, isOutline, -, told⟩ := jumps _ _ read
    refine ⟨outline, isOutline, ?_⟩
    intro scene isScene isTold
    obtain ⟨-, -, target, -, isTag, -, fails⟩ := told scene isScene _ isTold "I.i" rfl
    exact ⟨target, isTag, fails⟩

/-- Scene ii is no scene II. -/
theorem jump_to_scene_in_small_letters :
    tokenize ⟨[]⟩ "Let us return to scene ii." = .ok [⟨.jump "ii", 1⟩] ∧
      tokenize ⟨[]⟩ "Let us return to scene II." = .ok [⟨.jump "II", 1⟩] ∧
      ¬ HeadsScene "ii" ∧ HeadsScene "II" := by
  have noCapitals : ¬ InCapitals "ii".toList :=
    fun capitals => absurd (capitals 'i' (by decide)) (by decide)
  refine ⟨Consulting.eq_ok_of_toOption (by decide +kernel),
    Consulting.eq_ok_of_toOption (by decide +kernel), ?_, ?_⟩
  · rw [headsScene_iff]
    exact fun isRoman => noCapitals isRoman.inCapitals
  · exact headsScene_iff.mpr ⟨2, by decide⟩

end Playhouse

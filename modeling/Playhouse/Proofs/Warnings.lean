/-
Module: Playhouse.Proofs.Warnings
Purpose: What the warnings of a review say about performances: a character of whom a review
  remarks that nobody tells it to remember never recalls anything, and where a review finds no
  repeated tag every scene can be reached by its tag.
Main exports: mem_review_stack, stack_warnings_come_true, Action.Takes, House.Performs.takes,
  Production.Plays.position_le, repeatsTag, count_review_tag, labels_bijOn,
  jumps_reach_last_scenes
-/
import Mathlib.Data.Set.Function
import Playhouse.Proofs.Atomicity
import Playhouse.Proofs.Recollection
import Playhouse.Proofs.Verdict

namespace Playhouse

variable {σ : Type} {statements : List Statement}

/-! ### Recalling without having been told to remember -/

theorem mem_stackRemarks {name : String} {line : Nat} :
    ⟨.stack name, line⟩ ∈ stackRemarks statements ↔
      ⟨.pop name, line⟩ ∈ statements ∧
        ∀ statement ∈ statements, ∀ value, statement.action ≠ .push name value := by
  unfold stackRemarks
  rw [List.mem_filterMap]
  constructor
  · rintro ⟨⟨action, popLine⟩, member, remarked⟩
    cases action with
    | pop other =>
        simp only [List.contains_eq_mem, decide_eq_true_eq] at remarked
        split at remarked
        · cases remarked
        · rename_i untold
          cases remarked
          refine ⟨member, fun statement tells value action => untold ?_⟩
          refine List.mem_filterMap.mpr ⟨statement, tells, ?_⟩
          rw [action]
    | _ => cases remarked
  · rintro ⟨member, untold⟩
    refine ⟨_, member, ?_⟩
    simp only [List.contains_eq_mem, decide_eq_true_eq]
    apply if_neg
    intro isTold
    obtain ⟨statement, tells, named⟩ := List.mem_filterMap.mp isTold
    split at named
    · rename_i value action
      cases named
      exact untold statement tells value action
    · cases named

/-- A review remarks on exactly those recollections for which no statement of the play puts
anything away. -/
theorem mem_review_stack {name : String} {line : Nat} :
    ⟨.stack name, line⟩ ∈ review statements ↔
      ⟨.pop name, line⟩ ∈ statements ∧
        ∀ statement ∈ statements, ∀ value, statement.action ≠ .push name value := by
  rw [mem_review_cases]
  exact mem_stackRemarks

namespace Production

variable {provider : Provider σ} {sink : Sink σ} {limit : Option Int} {printed : List Text.CodePoints}
  {input : σ} {played : List Statement} {stand : Stand σ}

/-- Whoever remembers something has been told to by a statement of the play. -/
theorem Plays.told
    (plays : (ofStatements provider limit statements sink).Plays (opening printed input) played stand)
    {name : String} (remembers : stand.house.remembered name ≠ []) :
    ∃ statement ∈ statements, ∃ value, statement.action = .push name value := by
  have counted := plays.length_remembered name
  have some : 0 < (stand.house.remembered name).length := List.length_pos_iff.mpr remembers
  have pushed : 0 < pushes name played := by omega
  obtain ⟨statement, member, isPush⟩ := List.countP_pos_iff.mp pushed
  exact ⟨statement, List.mem_toArray.mp (plays.mem_statements member),
    Action.isPush_iff.mp isPush⟩

/-- A recollection on which the review remarks fails. -/
theorem Plays.step_of_warned
    (plays : (ofStatements provider limit statements sink).Plays (opening printed input) played stand)
    {name : String} {line : Nat} (warned : ⟨.stack name, line⟩ ∈ review statements)
    (begins : (ofStatements provider limit statements sink).Begins stand ⟨.pop name, line⟩) :
    ∃ house, (ofStatements provider limit statements sink).step stand =
      .ended ⟨.error ⟨.emptyStack name, line⟩, house⟩ := by
  rw [begins.step_pop]
  by_contra remembers
  obtain ⟨statement, member, value, action⟩ := plays.told remembers
  exact (mem_review_stack.mp warned).2 statement member value action

end Production

/-- **Warnings about stacks come true.**  A review remarks on a recollection exactly if no
statement of the play tells the character to remember something.  In every performance, and
also when it has ended, a character remembers nothing unless such a statement exists.  So a
performance that begins a recollection on which the review remarks fails there, for want of
something to recall, and a recollection that succeeds is one on which the review does not
remark. -/
theorem stack_warnings_come_true (statements : List Statement) :
    (∀ name line, ⟨.stack name, line⟩ ∈ review statements ↔
      ⟨.pop name, line⟩ ∈ statements ∧
        ∀ statement ∈ statements, ∀ value, statement.action ≠ .push name value) ∧
    ∀ (provider : Provider σ) (sink : Sink σ) limit printed input played stand,
      let production := Production.ofStatements provider limit statements sink
      let start := Production.opening printed input
      production.Plays start played stand →
      (∀ name, stand.house.remembered name ≠ [] →
        ∃ statement ∈ statements, ∃ value, statement.action = .push name value) ∧
      (∀ ending name, production.step stand = .ended ending →
        ending.house.remembered name ≠ [] →
        ∃ statement ∈ statements, ∃ value, statement.action = .push name value) ∧
      (∀ name line, ⟨.stack name, line⟩ ∈ review statements →
        production.Begins stand ⟨.pop name, line⟩ →
        ∃ ending : Ending σ, ending.outcome = .error ⟨.emptyStack name, line⟩ ∧
          production.step stand = .ended ending ∧
          ∀ patience, played.length < patience →
            production.runFrom patience start = some ending) ∧
      (∀ name line target next,
        production.step stand = .went ⟨.pop name, line⟩ target next →
        ⟨.stack name, line⟩ ∉ review statements) := by
  refine ⟨fun name line => mem_review_stack, ?_⟩
  intro provider sink limit printed input played stand production start plays
  refine ⟨fun name remembers => plays.told remembers, ?_, ?_, ?_⟩
  · intro ending name ended remembers
    rw [House.remembered, (Production.ends_of_step ended).unchanged.memories] at remembers
    exact plays.told remembers
  · intro name line warned begins
    obtain ⟨house, ended⟩ := plays.step_of_warned warned begins
    refine ⟨_, rfl, ended, ?_⟩
    intro patience patient
    obtain ⟨more, rfl⟩ := Nat.exists_eq_add_of_lt patient
    rw [Nat.add_assoc, plays.runFrom]
    exact Production.runFrom_ended ended more
  · intro name line target next went warned
    obtain ⟨house, ended⟩ := plays.step_of_warned warned (Production.execute_of_step went).1
    rw [ended] at went
    cases went

/-- Ajax recalls although nobody tells him to remember anything, while Puck is told to. -/
def misaddressed : List Statement :=
  [⟨.declare "Ajax", 1⟩, ⟨.scene "I.I", 2⟩, ⟨.push "Puck" (.number 7 3), 3⟩, ⟨.pop "Puck", 4⟩,
    ⟨.pop "Ajax", 5⟩]

/-- The review remarks on Ajax and not on Puck, and so the performance fails at Ajax. -/
theorem stack_warnings_come_true_misaddressed :
    let production := Production.ofStatements Prompter.provider (some 5) misaddressed
    ⟨.stack "Ajax", 5⟩ ∈ review misaddressed ∧ ⟨.stack "Puck", 4⟩ ∉ review misaddressed ∧
    ∃ stand ending,
      production.Plays (Production.opening [] ⟨[], []⟩) (misaddressed.take 4) stand ∧
      production.Begins stand ⟨.pop "Ajax", 5⟩ ∧
      production.run 5 ⟨[], []⟩ = some ending ∧
      ending.outcome = .error ⟨.emptyStack "Ajax", 5⟩ := by
  intro production
  have warned : ⟨.stack "Ajax", 5⟩ ∈ review misaddressed := by decide +kernel
  have unwarned : ⟨.stack "Puck", 4⟩ ∉ review misaddressed := by decide +kernel
  obtain ⟨stand, plays, begins⟩ : ∃ stand,
      production.Plays (Production.opening [] ⟨[], []⟩) (misaddressed.take 4) stand ∧
        production.Begins stand ⟨.pop "Ajax", 5⟩ :=
    ⟨_, .step rfl (.step rfl (.step rfl (.step rfl (.here _)))), rfl,
      fun limit isLimit => by cases isLimit; decide⟩
  obtain ⟨_, _, fails, _⟩ :=
    (stack_warnings_come_true misaddressed).2 Prompter.provider .text (some 5) [] ⟨[], []⟩ _ _ plays
  obtain ⟨ending, outcome, _, ended⟩ := fails "Ajax" 5 warned begins
  exact ⟨warned, unwarned, stand, ending, plays, begins, ended 5 (by decide), outcome⟩

/-! ### Where jumps lead -/

/-- An action takes its jump to a tag: it is a jump, or a question whose answer is yes. -/
inductive Action.Takes (store : Store) : Action → String → Prop where
  | jump (tag : String) : Takes store (.jump tag) tag
  | jumpIf {question : Question} {tag : String} {line : Nat} {lhs rhs : Int}
      (left : question.lhs.evaluate store = .ok lhs)
      (right : question.rhs.evaluate store = .ok rhs)
      (holds : question.predicate.holds lhs rhs = true) :
      Takes store (.jumpIf question tag line) tag

theorem Action.Takes.destination {store : Store} {action : Action} {tag : String}
    (takes : action.Takes store tag) : action.destination? = some tag := by
  cases takes <;> rfl

/-- A statement that succeeds leads elsewhere exactly if it takes its jump, and then to where
the table says. -/
theorem House.Performs.takes {provider : Provider σ} {sink : Sink σ} {labels : Labels}
    {house after : House σ}
    {statement : Statement} {target : Option Nat}
    (performs : House.Performs provider sink labels house statement target after) :
    match target with
    | none => ∀ tag, ¬ statement.action.Takes house.store tag
    | some position => ∃ tag, statement.action.Takes house.store tag ∧
        labels.get? tag = some position := by
  cases performs with
  | jump action found =>
      rw [action]
      exact ⟨_, .jump _, found⟩
  | jumpIf action left right holds found =>
      rw [action]
      exact ⟨_, .jumpIf left right holds, found⟩
  | stay action left right denied =>
      rw [action]
      rintro tag ⟨⟩
      rename_i leftAgain rightAgain holds
      rw [left] at leftAgain
      rw [right] at rightAgain
      cases leftAgain
      cases rightAgain
      exact Bool.false_ne_true (denied.symm.trans holds)
  | scene action | declare action | scanNumber action | scanCharacter action
  | printNumber action | printCharacter action | push action | pop action | assign action
  | ask action | remark action =>
      rw [action]
      rintro tag ⟨⟩

theorem LastScene.lt_length {tag : String} {position : Nat}
    (isLast : LastScene statements tag position) : position < statements.length := by
  obtain ⟨statement, found, _⟩ := isLast.opens
  exact (List.getElem?_eq_some_iff.mp found).1

namespace Production

variable {provider : Provider σ} {sink : Sink σ} {limit : Option Int} {stand next last : Stand σ}
  {statement : Statement} {target : Option Nat} {played : List Statement}

/-- A jump that is taken leads to the last scene of its tag. -/
theorem lastScene_of_step
    (went : (ofStatements provider limit statements sink).step stand = .went statement target next)
    {tag : String} (takes : statement.action.Takes stand.house.store tag) :
    LastScene statements tag next.position := by
  have goes := goes_of_step went
  have taken := goes.performs.takes
  cases target with
  | none => exact absurd takes (taken tag)
  | some position =>
      obtain ⟨other, takesOther, found⟩ := taken
      have same : other = tag :=
        Option.some.inj (takesOther.destination.symm.trans takes.destination)
      rw [goes.position, Option.getD_some, ← same]
      exact Labels.get?_ofStatements.mp found

/-- Without a jump the next statement follows. -/
theorem position_of_step
    (went : (ofStatements provider limit statements sink).step stand = .went statement target next)
    (stays : ∀ tag, ¬ statement.action.Takes stand.house.store tag) :
    next.position = stand.position + 1 := by
  have goes := goes_of_step went
  have taken := goes.performs.takes
  cases target with
  | none => exact goes.position
  | some position =>
      obtain ⟨tag, takes, _⟩ := taken
      exact absurd takes (stays tag)

/-- A step does not lead out of the play. -/
theorem position_le_of_step
    (went : (ofStatements provider limit statements sink).step stand = .went statement target next) :
    next.position ≤ statements.length := by
  by_cases jumps : ∃ tag, statement.action.Takes stand.house.store tag
  · obtain ⟨tag, takes⟩ := jumps
    exact (lastScene_of_step went takes).lt_length.le
  · rw [position_of_step went (not_exists.mp jumps)]
    have here : statements[stand.position]? = some statement :=
      List.getElem?_toArray.symm.trans (goes_of_step went).here
    exact (List.getElem?_eq_some_iff.mp here).1

theorem Plays.position_le
    (plays : (ofStatements provider limit statements sink).Plays stand played last)
    (within : stand.position ≤ statements.length) : last.position ≤ statements.length := by
  induction plays with
  | here stand => exact within
  | step went plays inductionHypothesis => exact inductionHypothesis (position_le_of_step went)

end Production

/-! ### Tags that are used again -/

/-- Whether at a position stands the heading of a scene, on a line, whose tag was used before. -/
def repeatsTag (statements : List Statement) (tag : String) (line position : Nat) : Bool :=
  statements[position]? = some ⟨.scene tag, line⟩ ∧ tag ∈ sceneTags (statements.take position)

section

variable {tag : String} {line : Nat}

/-- One statement of the check: a heading whose tag is known gives a remark, and behind a
heading its tag is known. -/
theorem count_tagRemarksFrom_cons (seen : List String) (statement : Statement)
    (rest : List Statement) :
    ∃ known : List String, (tag ∈ known ↔ tag ∈ seen ∨ statement.action = .scene tag) ∧
      (tagRemarksFrom seen (statement :: rest)).count ⟨.tag tag, line⟩ =
        (tagRemarksFrom known rest).count ⟨.tag tag, line⟩ +
          if statement = ⟨.scene tag, line⟩ ∧ tag ∈ seen then 1 else 0 := by
  obtain ⟨action, own⟩ := statement
  cases action with
  | scene opened =>
      by_cases isSeen : opened ∈ seen
      · refine ⟨seen, by grind, ?_⟩
        simp only [tagRemarksFrom, List.contains_eq_mem, isSeen, decide_true, if_true,
          List.count_cons]
        grind
      · refine ⟨opened :: seen, by grind, ?_⟩
        simp only [tagRemarksFrom, List.contains_eq_mem, isSeen, decide_false]
        grind
  | _ => exact ⟨seen, by simp, by simp [tagRemarksFrom]⟩

theorem count_tagRemarksFrom (seen : List String) (statements : List Statement) :
    (tagRemarksFrom seen statements).count ⟨.tag tag, line⟩ =
      (List.range statements.length).countP fun position =>
        statements[position]? = some ⟨.scene tag, line⟩ ∧
          (tag ∈ seen ∨ tag ∈ sceneTags (statements.take position)) := by
  induction statements generalizing seen with
  | nil => rfl
  | cons statement rest inductionHypothesis =>
      obtain ⟨known, isKnown, counted⟩ := count_tagRemarksFrom_cons seen statement rest
      rw [counted, inductionHypothesis, List.length_cons, List.range_succ_eq_map,
        List.countP_cons, List.countP_map]
      congr 1
      · apply List.countP_congr
        intro position _
        simp [mem_sceneTags_cons, isKnown, or_assoc]
      · simp [sceneTags]

/-- A review remarks on a heading exactly as often as a heading with this tag and on this line
repeats an earlier tag. -/
theorem count_review_tag :
    (review statements).count ⟨.tag tag, line⟩ =
      (List.range statements.length).countP (repeatsTag statements tag line) := by
  have noJump : ⟨.tag tag, line⟩ ∉ jumpRemarks statements :=
    fun remarked => nomatch concern_of_mem_jumpRemarks remarked
  have noCharacter : ⟨.tag tag, line⟩ ∉ characterRemarks statements :=
    fun remarked => nomatch concern_of_mem_characterRemarks remarked
  have noStack : ⟨.tag tag, line⟩ ∉ stackRemarks statements :=
    fun remarked => nomatch concern_of_mem_stackRemarks remarked
  rw [(review_perm statements).count_eq, allRemarks, List.count_append, List.count_append,
    List.count_append, List.count_eq_zero.mpr noJump, List.count_eq_zero.mpr noCharacter,
    List.count_eq_zero.mpr noStack, tagRemarks, count_tagRemarksFrom, Nat.zero_add,
    Nat.add_zero]
  apply List.countP_congr
  intro position _
  simp [repeatsTag]

theorem repeatsTag_iff {position : Nat} :
    repeatsTag statements tag line position = true ↔
      statements[position]? = some ⟨.scene tag, line⟩ ∧
        ∃ earlier, earlier < position ∧ OpensScene statements tag earlier := by
  rw [repeatsTag, decide_eq_true_eq, mem_sceneTags_iff]
  apply and_congr_right
  intro _
  apply exists_congr
  intro earlier
  simp only [OpensScene, List.getElem?_take]
  by_cases before : earlier < position <;> simp [before]

/-- Where a review remarks on no tag, no two scenes have the same one. -/
theorem position_unique (unrepeated : ∀ tag line, ⟨.tag tag, line⟩ ∉ review statements)
    {first second : Nat} (opensFirst : OpensScene statements tag first)
    (opensSecond : OpensScene statements tag second) : first = second := by
  have notLater {earlier later : Nat} (opensEarlier : OpensScene statements tag earlier)
      (opensLater : OpensScene statements tag later) : ¬ earlier < later := by
    intro before
    obtain ⟨⟨action, line⟩, found, rfl⟩ := opensLater
    have repeated : repeatsTag statements tag line later = true :=
      repeatsTag_iff.mpr ⟨found, earlier, before, opensEarlier⟩
    have inRange : later ∈ List.range statements.length :=
      List.mem_range.mpr (List.getElem?_eq_some_iff.mp found).1
    have counted : 0 < (review statements).count ⟨.tag tag, line⟩ := by
      rw [count_review_tag]
      exact List.countP_pos_iff.mpr ⟨later, inRange, repeated⟩
    exact unrepeated tag line (List.count_pos_iff.mp counted)
  exact Nat.le_antisymm (Nat.le_of_not_lt (notLater opensSecond opensFirst))
    (Nat.le_of_not_lt (notLater opensFirst opensSecond))

/-- Where a review remarks on no tag, the table pairs the tags with the positions of the
scenes. -/
theorem labels_bijOn (unrepeated : ∀ tag line, ⟨.tag tag, line⟩ ∉ review statements) :
    Set.BijOn (Labels.ofStatements statements).get? {tag | tag ∈ sceneTags statements}
      (Set.image some {position | ∃ tag, OpensScene statements tag position}) := by
  refine ⟨?_, ?_, ?_⟩
  · intro tag isTag
    obtain ⟨position, isLast⟩ := exists_lastScene isTag
    exact ⟨position, ⟨tag, isLast.opens⟩, (Labels.get?_ofStatements.mpr isLast).symm⟩
  · intro tag isTag other _ same
    obtain ⟨position, isLast⟩ := exists_lastScene isTag
    have found := Labels.get?_ofStatements.mpr isLast
    obtain ⟨statement, here, action⟩ := isLast.opens
    obtain ⟨again, hereAgain, actionAgain⟩ :=
      (Labels.get?_ofStatements.mp (same.symm.trans found)).opens
    cases here.symm.trans hereAgain
    exact Action.scene.inj (action.symm.trans actionAgain)
  · rintro _ ⟨position, ⟨tag, opens⟩, rfl⟩
    have isTag : tag ∈ sceneTags statements := mem_sceneTags_iff.mpr ⟨position, opens⟩
    obtain ⟨last, isLast⟩ := exists_lastScene isTag
    refine ⟨tag, isTag, ?_⟩
    rw [position_unique unrepeated opens isLast.opens]
    exact Labels.get?_ofStatements.mpr isLast

end

/-- **Jumps reach the last scene of their tag.**  The table of scenes sends a tag to a position
exactly if the last scene with this tag stands there.  A performance never leaves the play:
every jump that is taken leads to the last scene of its tag, and any other statement to the one
behind it.  A review remarks on a heading exactly as often as it repeats an earlier tag, so that
a play without such remarks has one position for every tag and one tag for every scene. -/
theorem jumps_reach_last_scenes (statements : List Statement) :
    (∀ tag position, (Labels.ofStatements statements).get? tag = some position ↔
      LastScene statements tag position) ∧
    (∀ {σ : Type} (provider : Provider σ) (sink : Sink σ) limit printed input played stand,
      let production := Production.ofStatements provider limit statements sink
      production.Plays (Production.opening printed input) played stand →
      stand.position ≤ statements.length ∧
      ∀ statement target next, production.step stand = .went statement target next →
        (∀ tag, statement.action.Takes stand.house.store tag →
          LastScene statements tag next.position) ∧
        ((∀ tag, ¬ statement.action.Takes stand.house.store tag) →
          next.position = stand.position + 1)) ∧
    (∀ tag line, (review statements).count ⟨.tag tag, line⟩ =
      (List.range statements.length).countP (repeatsTag statements tag line)) ∧
    ((∀ tag line, ⟨.tag tag, line⟩ ∉ review statements) →
      Set.BijOn (Labels.ofStatements statements).get? {tag | tag ∈ sceneTags statements}
        (Set.image some {position | ∃ tag, OpensScene statements tag position})) := by
  refine ⟨fun tag position => Labels.get?_ofStatements, ?_, fun tag line => count_review_tag,
    labels_bijOn⟩
  intro σ provider sink limit printed input played stand production plays
  refine ⟨plays.position_le (Nat.zero_le _), ?_⟩
  intro statement target next went
  exact ⟨fun tag takes => Production.lastScene_of_step went takes,
    Production.position_of_step went⟩

/-- A jump to a tag that two scenes have. -/
def twoBalconies : List Statement :=
  [⟨.scene "I.I", 1⟩, ⟨.jump "I.II", 2⟩, ⟨.scene "I.II", 3⟩, ⟨.declare "Ajax", 4⟩,
    ⟨.scene "I.II", 5⟩]

/-- The jump leads to the second of the two scenes, and the review remarks on this one.  The two
statements behind it have one scene only, and the review does not remark on it. -/
theorem jumps_reach_last_scenes_twoBalconies :
    let production := Production.ofStatements Prompter.provider none twoBalconies
    (∃ stand target next,
      production.Plays (Production.opening [] ⟨[], []⟩) (twoBalconies.take 1) stand ∧
      production.step stand = .went ⟨.jump "I.II", 2⟩ target next ∧
      LastScene twoBalconies "I.II" next.position ∧ next.position = 4) ∧
    (review twoBalconies).count ⟨.tag "I.II", 5⟩ = 1 ∧
    (review (twoBalconies.drop 3)).map Remark.concern = [.character "Ajax"] ∧
    Set.BijOn (Labels.ofStatements (twoBalconies.drop 3)).get?
      {tag | tag ∈ sceneTags (twoBalconies.drop 3)}
      (Set.image some {position | ∃ tag, OpensScene (twoBalconies.drop 3) tag position}) := by
  intro production
  have concerns : (review (twoBalconies.drop 3)).map Remark.concern = [.character "Ajax"] := by
    decide +kernel
  have unrepeated : ∀ tag line, ⟨.tag tag, line⟩ ∉ review (twoBalconies.drop 3) := by
    intro tag line remarked
    have isConcern := List.mem_map_of_mem (f := Remark.concern) remarked
    rw [concerns] at isConcern
    simp at isConcern
  refine ⟨?_, ?_, concerns, (jumps_reach_last_scenes (twoBalconies.drop 3)).2.2.2 unrepeated⟩
  · have plays : production.Plays (Production.opening [] ⟨[], []⟩) (twoBalconies.take 1) _ :=
      .step rfl (.here _)
    obtain ⟨_, leads⟩ := (jumps_reach_last_scenes twoBalconies).2.1 Prompter.provider .text none []
      ⟨[], []⟩ _ _ plays
    exact ⟨_, _, _, plays, rfl, (leads _ _ _ rfl).1 "I.II" (.jump "I.II"), rfl⟩
  · rw [(jumps_reach_last_scenes twoBalconies).2.2.1]
    decide +kernel

end Playhouse

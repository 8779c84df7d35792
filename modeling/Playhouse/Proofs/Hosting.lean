/-
Module: Playhouse.Proofs.Hosting
Purpose: A hosted performance is an ordinary one under the smaller of two limits, and no
  limit does anything but cut a performance short.
Main exports: Course.consulted, Lexicon.Lasting.answer, Desk.readSource_eq, Service.frame_after,
  Service.respond_run, limits_only_cut_short
-/
import Playhouse.Proofs.Consultation
import Playhouse.Proofs.Faithfulness
import Playhouse.Proofs.StepLimit
import Playhouse.Service

namespace Playhouse

/-!
A service keeps one lexicon for all requests.  Requests fetch word lists and leave them
there, but they never change what the lexicon would answer, so that every play is read as
if the request for it were the first.
-/

/-! ### What requests leave behind -/

/-- Asking for lists at a desk has the same effect on the lexicon as asking the lexicon. -/
theorem Desk.lexicon_fetchAll (desk : Desk) (categories : List Category) :
    (desk.fetchAll categories).lexicon = desk.lexicon.keepAll categories := by
  unfold fetchAll Lexicon.keepAll
  induction categories generalizing desk with
  | nil => rfl
  | cons category rest inductionHypothesis =>
      rw [List.foldl_cons, List.foldl_cons, inductionHypothesis, fetch_lexicon]

/-- The lists that are fetched for the tokens of a source. -/
theorem Desk.lexicon_tokenize (desk : Desk) (source : String) :
    (desk.tokenize source).2.lexicon =
      desk.lexicon.keepAll
        ((scan Rule.table desk.lexicon.vocabulary source.toList).consulted Rule.table) := by
  rw [← lexicon_fetchAll]
  unfold tokenize
  dsimp only
  split <;> rfl

/-- The classes that a reading asked for, in the order of asking. -/
def Course.consulted (course : Course) : List Category :=
  course.beats.flatMap Beat.consulted ++ (course.failure.map Prod.snd).getD []

theorem Desk.lexicon_followBeat (desk : Desk) (beat : Beat) :
    (desk.followBeat beat).lexicon = desk.lexicon.keepAll beat.consulted := by
  rw [← lexicon_fetchAll]
  unfold followBeat
  dsimp only
  split <;> rfl

/-- The lists that are fetched for a reading. -/
theorem Desk.lexicon_followCourse (desk : Desk) (tokens : List Token) (course : Course) :
    (desk.followCourse tokens course).lexicon = desk.lexicon.keepAll course.consulted := by
  have followed (beats : List Beat) : (beats.foldl followBeat desk).lexicon =
      desk.lexicon.keepAll (beats.flatMap Beat.consulted) := by
    induction beats generalizing desk with
    | nil => rfl
    | cons beat rest inductionHypothesis =>
        rw [List.foldl_cons, inductionHypothesis, lexicon_followBeat, List.flatMap_cons,
          Lexicon.keepAll_append]
  rw [Course.consulted, Lexicon.keepAll_append, ← followed]
  unfold followCourse
  dsimp only
  split
  · rename_i failed
    rw [lexicon_fetchAll, failed]
    rfl
  · rename_i unfailed
    rw [unfailed]
    rfl

namespace Lexicon.Lasting

variable {holds : Lexicon → Prop}

theorem vocabulary (known : Vocabulary) : Lasting (·.vocabulary = known) := by
  intro lexicon category same
  rw [vocabulary_keep, same]

section

variable {desk : Desk}

theorem followCourse (lasting : Lasting holds) (tokens : List Token) (course : Course)
    (before : holds desk.lexicon) : holds (desk.followCourse tokens course).lexicon := by
  rw [Desk.lexicon_followCourse]
  exact lasting.keepAll _ before

theorem tokenize (lasting : Lasting holds) (source : String) (before : holds desk.lexicon) :
    holds (desk.tokenize source).2.lexicon := by
  rw [Desk.lexicon_tokenize]
  exact lasting.keepAll _ before

theorem readSource (lasting : Lasting holds) (source : String) (before : holds desk.lexicon) :
    holds (desk.readSource source).2.lexicon := by
  have cut := lasting.tokenize source before
  unfold Desk.readSource
  generalize desk.tokenize source = result at cut ⊢
  obtain ⟨fault | tokens, after⟩ := result
  · exact cut
  · exact lasting.followCourse tokens _ cut

theorem withStatements {α : Type} (lasting : Lasting holds) (source : String)
    (use : List Statement → Except Failure α) (before : holds desk.lexicon) :
    holds (withStatements desk source use).2.lexicon := by
  have understood := lasting.readSource source before
  unfold Playhouse.withStatements
  generalize desk.readSource source = result at understood ⊢
  obtain ⟨fault | statements, after⟩ := result
  · exact understood
  · exact understood

/-- What lasts holds after a request, whatever its answer is. -/
theorem answer (lasting : Lasting holds) (limit : Int) (request : Request)
    (before : holds desk.lexicon) : holds (request.answer limit desk).2.lexicon := by
  cases request with
  | health =>
      have counted := (Lexicon.modest_countWords Category.all).preserves lasting before
      unfold Request.answer Desk.consult
      dsimp only
      generalize (Lexicon.countWords Category.all).run.run desk.lexicon = result at counted ⊢
      obtain ⟨fault | words, after⟩ := result
      · exact counted
      · exact counted
  | tokenize source =>
      have cut := lasting.tokenize source before
      unfold Request.answer
      dsimp only
      generalize desk.tokenize source = result at cut ⊢
      obtain ⟨fault | tokens, after⟩ := result
      · exact cut
      · exact cut
  | parse source => exact lasting.withStatements source _ before
  | verify source => exact lasting.withStatements source _ before
  | run source prompter asked => exact lasting.withStatements source _ before

end

end Lexicon.Lasting

/-! ### Reading at a desk -/

namespace Desk

theorem tokenize_eq (desk : Desk) (source : String) :
    (desk.tokenize source).1 = Playhouse.tokenize desk.lexicon.vocabulary source := by
  unfold tokenize Playhouse.tokenize
  dsimp only
  split
  · rename_i fault failed
    exact failed.symm
  · rename_i tokens cut
    exact cut.symm

/-- At a desk a play is read with the vocabulary of the desk. -/
theorem readSource_eq (desk : Desk) (source : String) :
    (desk.readSource source).1 = Playhouse.readSource desk.lexicon.vocabulary source := by
  have kept : (desk.tokenize source).2.lexicon.vocabulary = desk.lexicon.vocabulary :=
    (Lexicon.Lasting.vocabulary _).tokenize source rfl
  unfold readSource Playhouse.readSource
  rw [← tokenize_eq]
  generalize desk.tokenize source = result at kept ⊢
  obtain ⟨fault | tokens, after⟩ := result
  · rfl
  · have sameWords : after.lexicon.vocabulary = desk.lexicon.vocabulary := kept
    change (Reading.course NextStates.standard after.lexicon.vocabulary _).outcome = _
    rw [sameWords]
    rfl

end Desk

theorem withStatements_eq {α : Type} (desk : Desk) (source : String)
    (use : List Statement → Except Failure α) :
    (withStatements desk source use).1 =
      match readSource desk.lexicon.vocabulary source with
      | .error fault => .error fault.failure
      | .ok statements => use statements := by
  unfold withStatements
  rw [← Desk.readSource_eq]
  rcases desk.readSource source with ⟨fault | statements, after⟩ <;> rfl

/-! ### Requests -/

namespace Service

/-- The service after some requests. -/
def after (service : Service) : List Request → Service
  | [] => service
  | request :: rest => (service.respond request).2.after rest

theorem respondAll_cons (service : Service) (request : Request) (rest : List Request) :
    service.respondAll (request :: rest) =
      (service.respond request).1 :: (service.respond request).2.respondAll rest := rfl

theorem respondAll_append (service : Service) (earlier later : List Request) :
    service.respondAll (earlier ++ later) =
      service.respondAll earlier ++ (service.after earlier).respondAll later := by
  induction earlier generalizing service with
  | nil => rfl
  | cons request rest inductionHypothesis =>
      rw [List.cons_append, respondAll_cons, respondAll_cons, inductionHypothesis, after,
        List.cons_append]

/-- Requests change neither the limit of a service nor its vocabulary. -/
theorem frame_after (service : Service) (earlier : List Request) :
    (service.after earlier).limit = service.limit ∧
      (service.after earlier).lexicon.vocabulary = service.lexicon.vocabulary := by
  induction earlier generalizing service with
  | nil => exact ⟨rfl, rfl⟩
  | cons request rest inductionHypothesis =>
      obtain ⟨sameLimit, sameWords⟩ := inductionHypothesis (service.respond request).2
      refine ⟨sameLimit, sameWords.trans ?_⟩
      exact (Lexicon.Lasting.vocabulary _).answer service.limit request rfl

/-- A hosted performance is the performance of the same source under the limit that holds
for the request. -/
theorem respond_run (service : Service) (source : String) (prompter : Prompter)
    (asked : Option Int) {patience : Nat}
    (patient : (effectiveLimit asked service.limit).toNat < patience) :
    (runSource service.lexicon.vocabulary patience (some (effectiveLimit asked service.limit))
        prompter source).map (Response.ofResult .performed) =
      some (service.respond (.run source prompter asked)).1 := by
  have result := withStatements_eq ⟨service.lexicon, []⟩ source
    (performWithin (effectiveLimit asked service.limit) prompter)
  have responded : (service.respond (.run source prompter asked)).1 =
      Response.ofResult .performed (withStatements ⟨service.lexicon, []⟩ source
        (performWithin (effectiveLimit asked service.limit) prompter)).1 := rfl
  rw [responded, result]
  unfold runSource
  cases readSource service.lexicon.vocabulary source with
  | error fault => rfl
  | ok statements =>
      dsimp only
      rw [Production.run_of_limit rfl patient]
      rfl

end Service

/-! ### Limits -/

/-- A limit does nothing but cut a performance short.  If a performance does not end by its
limit, then it ends the same under every higher limit and without one.  If it does, then it
has executed exactly as many statements as the limit says and counted one more, and the
performance under a higher limit comes to the same house and prints on from there.

A service performs a play under the smaller of the limit asked for and its own, whatever
was asked before, and never executes more statements than its own limit says. -/
theorem limits_only_cut_short :
    (∀ {σ : Type} (provider : Provider σ) (sink : Sink σ) (statements : List Statement)
        (input : σ) (limit : Nat) (higher : Option Int),
        (∀ bound, higher = some bound → (limit : Int) ≤ bound) →
      let lower := Production.ofStatements provider (some limit) statements sink
      let upper := Production.ofStatements provider higher statements sink
      let start := Production.opening [] input
      let short := lower.runWithin limit rfl input
      (short.isCutShort = false →
        ∀ patience, limit < patience → upper.run patience input = some short) ∧
      (short.isCutShort = true →
        (lower.executed (limit + 1) start).length = limit ∧ short.house.steps = limit + 1 ∧
        upper.Continues start short)) ∧
    (∀ (settings : Settings) (directory : String → Category → Except Absence String)
        (earlier : List Request) (source : String) (prompter : Prompter) (asked : Option Int),
      let service := Service.ofSettings settings directory
      let vocabulary := (Lexicon.ofShelf (settings.shelf directory)).vocabulary
      let everybody := settings.stepLimit.getD standardLimit
      let limit := min (asked.getD everybody) everybody
      (∃ response, service.respondAll (earlier ++ [.run source prompter asked]) =
          service.respondAll earlier ++ [response] ∧
        ∀ patience, limit.toNat < patience →
          (runSource vocabulary patience (some limit) prompter source).map
            (Response.ofResult .performed) = some response) ∧
      ∀ statements, readSource vocabulary source = .ok statements → ∀ patience,
        ((Production.ofStatements Prompter.provider (some limit) statements).executed patience
          (Production.opening [] prompter)).length ≤ everybody.toNat) := by
  constructor
  · intro σ provider sink statements input limit higher above lower upper start short
    have raised : upper = lower.withLimit higher := rfl
    have ended (patience : Nat) (patient : limit < patience) :
        lower.run patience input = some short := Production.run_of_limit rfl patient input
    constructor
    · intro uncut patience patient
      rw [raised]
      exact Production.runFrom_raise rfl above (ended patience patient) uncut
    · intro cut
      have last : lower.runFrom (limit + 1) start = some short :=
        ended (limit + 1) (Nat.lt_succ_self limit)
      have counted := Production.steps_of_isCutShort rfl (Int.natCast_nonneg limit) last cut
      have total := Production.steps_of_runFrom last
      have unbegun : start.house.steps = 0 := rfl
      rw [cut, unbegun, Bool.toNat_true] at total
      refine ⟨by omega, by omega, ?_⟩
      rw [raised]
      exact Production.continues_of_runFrom rfl above last cut
  · intro settings directory earlier source prompter asked service vocabulary everybody limit
    obtain ⟨sameLimit, sameWords⟩ := service.frame_after earlier
    constructor
    · refine ⟨((service.after earlier).respond (.run source prompter asked)).1, ?_, ?_⟩
      · rw [Service.respondAll_append]
        rfl
      · intro patience patient
        have isLimit : limit = effectiveLimit asked (service.after earlier).limit := by
          rw [sameLimit]
          rfl
        have isWords : vocabulary = (service.after earlier).lexicon.vocabulary := sameWords.symm
        rw [isLimit] at patient ⊢
        rw [isWords]
        exact Service.respond_run (service.after earlier) source prompter asked patient
    · intro statements understood patience
      let hosted := Production.ofStatements Prompter.provider (some limit) statements
      have within : (hosted.executed patience (Production.opening [] prompter)).length ≤
          (limit - (0 : Nat)).toNat := Production.length_executed_le rfl patience _
      have lower : limit ≤ everybody := Int.min_le_right _ _
      exact Nat.le_trans within (Int.toNat_le_toNat (by omega))

/-- A play in which Ajax makes Puck say his number for ever. -/
def encore : String :=
  "P.\nPuck.\nAjax.\nAct I: a.\nScene I: a.\n[Enter Puck and Ajax]\n" ++
    "Ajax: Open your heart! Let us return to scene I."

/-- Its statements. -/
def encoreStatements : List Statement :=
  [⟨.declare "Puck", 2⟩, ⟨.declare "Ajax", 3⟩, ⟨.scene "I.I", 5⟩, ⟨.printNumber "Puck", 7⟩,
    ⟨.jump "I.I", 7⟩]

/-- A directory with the few words that it needs. -/
def encoreLists (_ : String) : Category → Except Absence String
  | .character => .ok "Puck\nAjax"
  | .secondPersonPossessive => .ok "your"
  | _ => .ok ""

/-- The settings of a service that allows seven statements. -/
def encoreSettings : Settings := { wordLists := some "lists", stepLimit := some 7 }

/-- Seven statements print the number twice, and without a limit it is printed again and
again; the first two statements alone take no harm from the limit.  The service allows
seven statements to somebody who asks for sixty. -/
theorem limits_only_cut_short_encore :
    (∃ short, (Production.ofStatements Prompter.provider (some (7 : Nat)) encoreStatements).run 8
        ⟨[], []⟩ = some short ∧
      short.house.output = [48, 48] ∧ short.house.steps = 7 + 1 ∧
      (Production.ofStatements Prompter.provider none encoreStatements).Continues
        (Production.opening [] ⟨[], []⟩) short) ∧
    (∃ whole, (Production.ofStatements Prompter.provider (some (7 : Nat))
        (encoreStatements.take 2)).run 8 ⟨[], []⟩ = some whole ∧
      (Production.ofStatements Prompter.provider none (encoreStatements.take 2)).run 8 ⟨[], []⟩ =
        some whole) ∧
    (∃ response, (Service.ofSettings encoreSettings encoreLists).respondAll
        [.health, .run encore ⟨[], []⟩ (some 60)] =
          (Service.ofSettings encoreSettings encoreLists).respondAll [.health] ++ [response] ∧
      (runSource (Lexicon.ofShelf (encoreSettings.shelf encoreLists)).vocabulary 8 (some 7)
        ⟨[], []⟩ encore).map (Response.ofResult .performed) = some response) ∧
    ((Production.ofStatements Prompter.provider (some 7) encoreStatements).executed 100
      (Production.opening [] ⟨[], []⟩)).length ≤ 7 := by
  obtain ⟨transparent, hosted⟩ := limits_only_cut_short
  have unlimited (bound : Int) (isBound : none = some bound) : ((7 : Nat) : Int) ≤ bound := by
    cases isBound
  have patient : ((7 : Nat) : Int).toNat < 8 := by decide
  refine ⟨?_, ?_, ?_, ?_⟩
  · obtain ⟨_, counted, continues⟩ :=
      (transparent Prompter.provider .text encoreStatements ⟨[], []⟩ 7 none unlimited).2
        (by decide +kernel)
    exact ⟨_, Production.run_of_limit rfl patient _, by decide +kernel, counted, continues⟩
  · have same := (transparent Prompter.provider .text (encoreStatements.take 2) ⟨[], []⟩ 7 none
      unlimited).1 (by decide +kernel) 8 (by decide)
    exact ⟨_, Production.run_of_limit rfl patient _, same⟩
  · obtain ⟨⟨response, responded, performed⟩, _⟩ :=
      hosted encoreSettings encoreLists [.health] encore ⟨[], []⟩ (some 60)
    exact ⟨response, responded, performed 8 (by decide)⟩
  · have read : (readSource (Lexicon.ofShelf (encoreSettings.shelf encoreLists)).vocabulary
        encore).toOption = some encoreStatements := by decide +kernel
    exact (hosted encoreSettings encoreLists [] encore ⟨[], []⟩ (some 60)).2 encoreStatements
      (Consulting.eq_ok_of_toOption read) 100

end Playhouse

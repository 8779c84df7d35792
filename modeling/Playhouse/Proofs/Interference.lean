/-
Module: Playhouse.Proofs.Interference
Purpose: Requests to a service do not influence each other, whether they succeed or fail.
Main exports: Lexicon.Lasting.isKept, Request.answer_fresh, Service.Reaches,
  Service.respond_of_reaches, requests_do_not_interfere
-/
import Playhouse.Proofs.Hosting

namespace Playhouse

/-!
All that requests share is a lexicon.  A request that fails may have fetched some of the
lists that it needed and not the others, and written some patterns.  What is kept of all
this agrees with the shelf, and no answer depends on it.
-/

/-! ### Requests -/

/-- Fetching lists leaves a lexicon as faithful as it was. -/
theorem Lexicon.Lasting.isKept (start : Lexicon) : Lasting start.IsKept := by
  intro lexicon category kept
  exact kept.trans ⟨kept.faithful.keep category, lexicon.fresh_keep category⟩

namespace Request

theorem answer_health (limit : Int) (desk : Desk) :
    (health.answer limit desk).1 =
      match ((Lexicon.countWords Category.all).run.run desk.lexicon).1 with
      | .ok words => .done (.healthy words)
      | .error fault => .broken fault.failure := by
  unfold answer Desk.consult
  dsimp only
  rcases (Lexicon.countWords Category.all).run.run desk.lexicon with ⟨fault | words, after⟩ <;> rfl

theorem answer_tokenize (limit : Int) (desk : Desk) (source : String) :
    ((tokenize source).answer limit desk).1 =
      .ofResult .tokens
        ((Playhouse.tokenize desk.lexicon.vocabulary source).mapError LexiconFault.failure) := by
  rw [← desk.tokenize_eq]
  rfl

/-- The answer to a request is that which a desk with nothing fetched gives. -/
theorem answer_fresh (limit : Int) (request : Request) (desk : Desk)
    (faithful : desk.lexicon.IsFaithful) :
    (request.answer limit desk).1 =
      (request.answer limit ⟨desk.lexicon.fresh, []⟩).1 := by
  have sameWords : desk.lexicon.vocabulary = desk.lexicon.fresh.vocabulary := faithful.vocabulary
  have sameUse {α : Type} (source : String) (use : List Statement → Except Failure α) :
      (withStatements desk source use).1 =
        (withStatements ⟨desk.lexicon.fresh, []⟩ source use).1 := by
    rw [withStatements_eq, withStatements_eq, sameWords]
  cases request with
  | health =>
      rw [answer_health, answer_health, (Lexicon.modest_countWords Category.all).answer faithful]
  | tokenize source => rw [answer_tokenize, answer_tokenize, sameWords]
  | parse source => exact congrArg (Response.ofResult .statements) (sameUse source _)
  | verify source => exact congrArg (Response.ofResult .remarks) (sameUse source _)
  | run source prompter asked => exact congrArg (Response.ofResult .performed) (sameUse source _)

end Request

/-! ### The service -/

namespace Service

/-- The services that a service may have become: requests were answered, and questions
were put to the lexicon that all requests share. -/
inductive Reaches (start : Service) : Service → Prop where
  | here : Reaches start start
  | responded {service : Service} (reached : Reaches start service) (request : Request) :
      Reaches start (service.respond request).2
  | consulted {service : Service} (reached : Reaches start service)
      (inquiry : Lexicon.Inquiry) :
      Reaches start { service with lexicon := (inquiry.ask.run.run service.lexicon).2 }

variable {start service : Service}

/-- Neither the limit nor the faithfulness of a service is ever lost. -/
theorem Reaches.isKept (reached : start.Reaches service) (faithful : start.lexicon.IsFaithful) :
    service.limit = start.limit ∧ start.lexicon.IsKept service.lexicon := by
  induction reached with
  | here => exact ⟨rfl, faithful.isKept⟩
  | @responded service reached request inductionHypothesis =>
      obtain ⟨sameLimit, kept⟩ := inductionHypothesis
      have answered : service.lexicon.IsKept (service.respond request).2.lexicon :=
        (Lexicon.Lasting.isKept service.lexicon).answer service.limit request kept.faithful.isKept
      exact ⟨sameLimit, kept.trans answered⟩
  | consulted reached inquiry inductionHypothesis =>
      obtain ⟨sameLimit, kept⟩ := inductionHypothesis
      exact ⟨sameLimit, kept.trans (inquiry.steady.kept kept.faithful)⟩

/-- Whatever a service has been asked, it answers as it would have done at first. -/
theorem respond_of_reaches (reached : start.Reaches service) (faithful : start.lexicon.IsFaithful)
    (request : Request) : (service.respond request).1 = (start.respond request).1 := by
  obtain ⟨sameLimit, kept⟩ := reached.isKept faithful
  have later : (service.respond request).1 =
      (request.answer service.limit ⟨service.lexicon.fresh, []⟩).1 :=
    request.answer_fresh service.limit ⟨service.lexicon, []⟩ kept.faithful
  have first : (start.respond request).1 =
      (request.answer start.limit ⟨start.lexicon.fresh, []⟩).1 :=
    request.answer_fresh start.limit ⟨start.lexicon, []⟩ faithful
  rw [later, first, sameLimit, kept.fresh]

theorem respondAll_of_reaches (reached : start.Reaches service)
    (faithful : start.lexicon.IsFaithful) (requests : List Request) :
    service.respondAll requests = requests.map fun request => (start.respond request).1 := by
  induction requests generalizing service with
  | nil => rfl
  | cons request rest inductionHypothesis =>
      rw [respondAll_cons, List.map_cons, respond_of_reaches reached faithful,
        inductionHypothesis (reached.responded request)]

end Service

/-- **Requests do not interfere.**  A service answers every request in a sequence as it would
answer this request if it were the first, whatever the requests before it were and whether
they succeeded.  The same holds for a service whose lexicon was used in any other way in
between, and the lexicon itself gives the same answers and the same faults as at first. -/
theorem requests_do_not_interfere (settings : Settings)
    (directory : String → Category → Except Absence String) :
    let fresh := Service.ofSettings settings directory
    (∀ requests : List Request,
      fresh.respondAll requests = requests.map fun request => (fresh.respond request).1) ∧
    ∀ service, fresh.Reaches service →
      (∀ requests : List Request,
        service.respondAll requests = requests.map fun request => (fresh.respond request).1) ∧
      ∀ inquiry : Lexicon.Inquiry,
        (inquiry.ask.run.run service.lexicon).1 = (inquiry.ask.run.run fresh.lexicon).1 := by
  intro fresh
  have faithful : fresh.lexicon.IsFaithful := Lexicon.isFaithful_ofShelf _ _
  refine ⟨Service.respondAll_of_reaches .here faithful, ?_⟩
  intro service reached
  refine ⟨Service.respondAll_of_reaches reached faithful, ?_⟩
  intro inquiry
  obtain ⟨_, kept⟩ := reached.isKept faithful
  exact inquiry.steady.agree kept.faithful faithful kept.fresh

/-- A directory in which the list of negative comparatives is missing. -/
def tornLists (_ : String) : Category → Except Absence String
  | .character => .ok "Puck\nAjax"
  | .positiveNoun => .ok "joy"
  | .negativeComparative => .error .noSuchFile
  | _ => .ok ""

/-- The first request fails after other lists were fetched, and so does the question to the
lexicon after it.  What follows is answered as if neither had been asked. -/
theorem requests_do_not_interfere_tornLists :
    let fresh := Service.ofSettings { wordLists := some "lists" } tornLists
    let failed := (fresh.respond (.tokenize "joy")).2
    let used : Service :=
      { failed with
        lexicon :=
          ((Lexicon.Inquiry.compile "<positive_noun> <negative_comparative>" true).ask.run.run
            failed.lexicon).2 }
    failed.lexicon.loaded.map Prod.fst = [.secondPersonPossessive, .positiveComparative] ∧
    used.lexicon.loaded.length = 3 ∧
    (used.respondAll [.tokenize "joy", .health, .parse "Act I: a", .tokenize "Act I: a"]).map
      Response.status = [422, 500, 422, 200] ∧
    used.respondAll [.tokenize "joy", .health, .parse "Act I: a", .tokenize "Act I: a"] =
      [(fresh.respond (.tokenize "joy")).1, (fresh.respond .health).1,
        (fresh.respond (.parse "Act I: a")).1, (fresh.respond (.tokenize "Act I: a")).1] := by
  intro fresh failed used
  have reached : fresh.Reaches used := .consulted (.responded .here _) _
  obtain ⟨same, _⟩ :=
    (requests_do_not_interfere { wordLists := some "lists" } tornLists).2 used reached
  refine ⟨by decide +kernel, by decide +kernel, by decide +kernel, same _⟩

end Playhouse

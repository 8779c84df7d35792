/-
Module: Playhouse.Proofs.Faithfulness
Purpose: What a lexicon keeps is what it would find again, so that every question has the
  answer which a lexicon from which nothing was taken gives, and the same fault.
Main exports: Lexicon.run_bind, Lexicon.run_list, Lexicon.IsFaithful, Lexicon.IsKept,
  Lexicon.Steady, Lexicon.Lasting, Lexicon.Modest, Lexicon.steady_compile,
  Lexicon.Inquiry, Lexicon.Inquiry.modest, Lexicon.Inquiry.steady
-/
import Playhouse.Lexicon

namespace Playhouse.Lexicon

/-!
A lexicon keeps the lists that it fetched and the patterns that it wrote.  A question may
fail halfway, and then a part of what it needed is kept and the rest is not.  None of this
can be seen from outside, because everything kept agrees with the shelf: that is
`IsFaithful`, and `Steady` questions are those which respect it and do not notice what is
kept.  Most of them are `Modest`: they fetch lists and do nothing else.
-/

variable {α β : Type}

/-! ### Asking -/

theorem run_bind (question : Consult α) (further : α → Consult β) (lexicon : Lexicon) :
    (question >>= further).run.run lexicon =
      match question.run.run lexicon with
      | (.ok answer, after) => (further answer).run.run after
      | (.error fault, after) => (.error fault, after) := by
  simp only [ExceptT.run_bind, StateT.run_bind]
  cases question.run.run lexicon with
  | mk answer after => cases answer <;> rfl

theorem run_list (category : Category) (lexicon : Lexicon) :
    (list category).run.run lexicon = (lexicon.read category, lexicon.keep category) := by
  have taken : (get : Consult Lexicon).run.run lexicon = (.ok lexicon, lexicon) := rfl
  have kept : (set (lexicon.keep category) : Consult PUnit).run.run lexicon =
      (.ok ⟨⟩, lexicon.keep category) := rfl
  rw [list, run_bind, taken]
  dsimp only
  rw [run_bind, kept]
  dsimp only
  cases lexicon.read category <;> rfl

section

variable {template text : String} {flags : Flags} {compiled : Compiled} {matcher : Matcher}
  {lexicon : Lexicon}

/-- A written pattern that is known is not read again. -/
theorem run_readOnce_known (known : lexicon.patterns.lookup (text, flags) = some matcher) :
    (readOnce text flags).run.run lexicon = (.ok ⟨text, flags, matcher⟩, lexicon) := by
  have taken : (get : Consult Lexicon).run.run lexicon = (.ok lexicon, lexicon) := rfl
  rw [readOnce, run_bind, taken]
  dsimp only
  rw [known]
  rfl

/-- A written pattern that is not known is read, and kept if it is well written. -/
theorem run_readOnce_new (unknown : lexicon.patterns.lookup (text, flags) = none) :
    (readOnce text flags).run.run lexicon =
      match lexicon.reader.read text flags with
      | .error breakdown => (.error (.badPattern breakdown), lexicon)
      | .ok matcher => (.ok ⟨text, flags, matcher⟩, lexicon.withPattern text flags matcher) := by
  have taken : (get : Consult Lexicon).run.run lexicon = (.ok lexicon, lexicon) := rfl
  rw [readOnce, run_bind, taken]
  dsimp only
  rw [unknown]
  dsimp only
  cases lexicon.reader.read text flags <;> rfl

/-- A template that is known is not expanded again. -/
theorem run_compile_known (known : lexicon.templates.lookup (template, flags) = some compiled) :
    (compile template flags).run.run lexicon = (.ok compiled, lexicon) := by
  have taken : (get : Consult Lexicon).run.run lexicon = (.ok lexicon, lexicon) := rfl
  rw [compile, run_bind, taken]
  dsimp only
  rw [known]
  rfl

/-- A template that is not known is expanded and read, and entered if that succeeds. -/
theorem run_compile_new (unknown : lexicon.templates.lookup (template, flags) = none) :
    (compile template flags).run.run lexicon =
      match (readTemplate template flags).run.run lexicon with
      | (.ok compiled, after) => (.ok compiled, after.withTemplate template flags compiled)
      | (.error fault, after) => (.error fault, after) := by
  have taken : (get : Consult Lexicon).run.run lexicon = (.ok lexicon, lexicon) := rfl
  rw [compile, run_bind, taken]
  dsimp only
  rw [unknown]
  dsimp only
  rw [run_bind]
  rcases (readTemplate template flags).run.run lexicon with ⟨fault | compiled, after⟩ <;> rfl

theorem answer_compile_new (unknown : lexicon.templates.lookup (template, flags) = none) :
    ((compile template flags).run.run lexicon).1 =
      ((readTemplate template flags).run.run lexicon).1 := by
  rw [run_compile_new unknown]
  rcases (readTemplate template flags).run.run lexicon with ⟨fault | compiled, after⟩ <;> rfl

end

/-! ### Lexicons that agree with their shelf -/

/-- Whatever is kept is what would be found now: the lists are those on the shelf, each with
its words in lower case, the patterns are what they are read as, and the templates have the
patterns which they would get at first. -/
structure IsFaithful (lexicon : Lexicon) : Prop where
  lists : ∀ {category words}, lexicon.loaded.get? category = some words →
    ∃ lower, lexicon.folded.get? category = some lower ∧
      lexicon.shelf.load category = .ok ⟨words, lower⟩
  lowered : ∀ {category lower}, lexicon.folded.get? category = some lower →
    (lexicon.loaded.get? category).isSome
  patterns : ∀ {text flags matcher}, lexicon.patterns.lookup (text, flags) = some matcher →
    lexicon.reader.read text flags = .ok matcher
  templates : ∀ {template flags compiled},
    lexicon.templates.lookup (template, flags) = some compiled →
    ((readTemplate template flags).run.run lexicon.fresh).1 = .ok compiled

theorem isFaithful_ofShelf (shelf : Shelf) (reader : PatternReader) :
    (ofShelf shelf reader).IsFaithful where
  lists found := by cases found
  lowered found := by cases found
  patterns found := by cases found
  templates found := by cases found

theorem isFaithful_fresh (lexicon : Lexicon) : lexicon.fresh.IsFaithful :=
  isFaithful_ofShelf lexicon.shelf lexicon.reader

/-- The list of a class is read as it stands on the shelf. -/
theorem IsFaithful.read {lexicon : Lexicon} (faithful : lexicon.IsFaithful)
    (category : Category) : lexicon.read category = lexicon.shelf.load category := by
  unfold Lexicon.read
  split
  · rename_i words found
    obtain ⟨lower, isLower, loaded⟩ := faithful.lists found
    rw [isLower, loaded]
    rfl
  · rfl

theorem IsFaithful.vocabulary {lexicon : Lexicon} (faithful : lexicon.IsFaithful) :
    lexicon.vocabulary = lexicon.fresh.vocabulary := by
  simp only [Lexicon.vocabulary, faithful.read, lexicon.isFaithful_fresh.read]
  rfl

theorem keep_cases (lexicon : Lexicon) (category : Category) :
    lexicon.keep category = lexicon ∨
      ∃ list, lexicon.loaded.get? category = none ∧ lexicon.shelf.load category = .ok list ∧
        lexicon.keep category =
          { lexicon with
            loaded := lexicon.loaded.put category list.words
            folded := lexicon.folded.put category list.folded } := by
  unfold keep
  split
  · exact Or.inl rfl
  · rename_i absent
    split
    · rename_i list fetched
      exact Or.inr ⟨list, absent, fetched, rfl⟩
    · exact Or.inl rfl

theorem fresh_keep (lexicon : Lexicon) (category : Category) :
    (lexicon.keep category).fresh = lexicon.fresh := by
  rcases lexicon.keep_cases category with same | ⟨list, _, _, kept⟩
  · rw [same]
  · rw [kept]
    rfl

/-- A new entry is found under its own key, and otherwise the old ones are. -/
theorem lookup_concat {κ ν : Type} [BEq κ] [LawfulBEq κ] {entries : List (κ × ν)} {key asked : κ}
    {value found : ν} (isFound : (entries ++ [(key, value)]).lookup asked = some found) :
    entries.lookup asked = some found ∨ asked = key ∧ found = value := by
  rw [List.lookup_append] at isFound
  cases known : entries.lookup asked with
  | some old =>
      rw [known] at isFound
      exact Or.inl isFound
  | none =>
      rw [known, Option.none_or, List.lookup_cons] at isFound
      split at isFound
      · rename_i same
        exact Or.inr ⟨eq_of_beq same, (Option.some.inj isFound).symm⟩
      · cases isFound

theorem IsFaithful.keep {lexicon : Lexicon} (faithful : lexicon.IsFaithful)
    (category : Category) : (lexicon.keep category).IsFaithful := by
  rcases lexicon.keep_cases category with same | ⟨list, _, fetched, kept⟩
  · rw [same]
    exact faithful
  · rw [kept]
    constructor
    · intro other words found
      dsimp only at found ⊢
      rw [Ledger.get?_put] at found ⊢
      split at found
      · rename_i same
        cases found
        subst same
        exact ⟨list.folded, if_pos rfl, fetched⟩
      · rename_i isOther
        rw [if_neg isOther]
        exact faithful.lists found
    · intro other lower found
      dsimp only at found ⊢
      rw [Ledger.get?_put] at found ⊢
      split at found
      · rename_i same
        rw [if_pos same]
        rfl
      · rename_i isOther
        rw [if_neg isOther]
        exact faithful.lowered found
    · exact faithful.patterns
    · exact faithful.templates

theorem IsFaithful.withPattern {lexicon : Lexicon} (faithful : lexicon.IsFaithful)
    {text : String} {flags : Flags} {matcher : Matcher}
    (isRead : lexicon.reader.read text flags = .ok matcher) :
    (lexicon.withPattern text flags matcher).IsFaithful where
  lists := faithful.lists
  lowered := faithful.lowered
  patterns isFound := by
    rcases lookup_concat isFound with known | ⟨same, rfl⟩
    · exact faithful.patterns known
    · cases same
      exact isRead
  templates := faithful.templates

theorem IsFaithful.withTemplate {lexicon : Lexicon} (faithful : lexicon.IsFaithful)
    {template : String} {compiled : Compiled} (flags : Flags)
    (isRead : ((readTemplate template flags).run.run lexicon.fresh).1 = .ok compiled) :
    (lexicon.withTemplate template flags compiled).IsFaithful where
  lists := faithful.lists
  lowered := faithful.lowered
  patterns := faithful.patterns
  templates isFound := by
    rcases lookup_concat isFound with known | ⟨same, rfl⟩
    · exact faithful.templates known
    · cases same
      exact isRead

/-! ### Questions whose answer does not depend on what is kept -/

/-- A lexicon after some use: it is still faithful, and its shelf and its reader are the
same. -/
structure IsKept (lexicon after : Lexicon) : Prop where
  faithful : after.IsFaithful
  fresh : after.fresh = lexicon.fresh

theorem IsKept.trans {first second third : Lexicon} (once : first.IsKept second)
    (again : second.IsKept third) : first.IsKept third :=
  ⟨again.faithful, again.fresh.trans once.fresh⟩

theorem IsFaithful.isKept {lexicon : Lexicon} (faithful : lexicon.IsFaithful) :
    lexicon.IsKept lexicon :=
  ⟨faithful, rfl⟩

/-- A question that a faithful lexicon answers as if nothing had been taken from it, and
that leaves the lexicon faithful, also where it fails. -/
structure Steady (question : Consult α) : Prop where
  answer : ∀ {lexicon : Lexicon}, lexicon.IsFaithful →
    (question.run.run lexicon).1 = (question.run.run lexicon.fresh).1
  kept : ∀ {lexicon : Lexicon}, lexicon.IsFaithful →
    lexicon.IsKept (question.run.run lexicon).2

/-- Two faithful lexicons over one shelf, with one reader, answer a steady question alike. -/
theorem Steady.agree {question : Consult α} (steady : Steady question) {first second : Lexicon}
    (firstFaithful : first.IsFaithful) (secondFaithful : second.IsFaithful)
    (sameFresh : first.fresh = second.fresh) :
    (question.run.run first).1 = (question.run.run second).1 := by
  rw [steady.answer firstFaithful, steady.answer secondFaithful, sameFresh]

/-- What one question of a faithful lexicon says of the lexicon before anything was taken. -/
theorem Steady.of_run {question : Consult α} (steady : Steady question) {lexicon after : Lexicon}
    (faithful : lexicon.IsFaithful) {answer : Except LexiconFault α}
    (asked : question.run.run lexicon = (answer, after)) :
    (question.run.run lexicon.fresh).1 = answer ∧ lexicon.IsKept after := by
  have sameAnswer := steady.answer faithful
  have kept := steady.kept faithful
  rw [asked] at sameAnswer kept
  exact ⟨sameAnswer.symm, kept⟩

/-- Where one of two such lexicons has an answer the other has it too, and afterwards they still
agree. -/
theorem Steady.run_agree {question : Consult α} (steady : Steady question)
    {first second after : Lexicon} (firstFaithful : first.IsFaithful)
    (secondFaithful : second.IsFaithful) (sameFresh : first.fresh = second.fresh)
    {answer : Except LexiconFault α} (asked : question.run.run first = (answer, after)) :
    ∃ otherAfter, question.run.run second = (answer, otherAfter) ∧ after.IsFaithful ∧
      otherAfter.IsFaithful ∧ after.fresh = otherAfter.fresh := by
  have sameAnswer := steady.agree firstFaithful secondFaithful sameFresh
  have kept := steady.kept firstFaithful
  have otherKept := steady.kept secondFaithful
  rw [asked] at sameAnswer kept
  generalize question.run.run second = otherAsked at sameAnswer otherKept ⊢
  obtain ⟨_, otherAfter⟩ := otherAsked
  obtain rfl := sameAnswer
  exact ⟨otherAfter, rfl, kept.faithful, otherKept.faithful,
    kept.fresh.trans (sameFresh.trans otherKept.fresh.symm)⟩

theorem steady_pure (value : α) : Steady (pure value : Consult α) where
  answer _ := rfl
  kept faithful := faithful.isKept

theorem steady_throw (fault : LexiconFault) : Steady (throw fault : Consult α) where
  answer _ := rfl
  kept faithful := faithful.isKept

/-- One steady question after another. -/
theorem Steady.bind {question : Consult α} {further : α → Consult β} (steady : Steady question)
    (furtherSteady : ∀ value, Steady (further value)) : Steady (question >>= further) where
  answer {lexicon} faithful := by
    have sameAnswer := steady.answer faithful
    have kept := steady.kept faithful
    have keptFresh := steady.kept lexicon.isFaithful_fresh
    rw [run_bind, run_bind]
    generalize question.run.run lexicon = asked at sameAnswer kept ⊢
    generalize question.run.run lexicon.fresh = fresh at sameAnswer keptFresh ⊢
    obtain ⟨answer, after⟩ := asked
    obtain ⟨_, afterFresh⟩ := fresh
    subst sameAnswer
    cases answer with
    | error fault => rfl
    | ok value =>
        exact (furtherSteady value).agree kept.faithful keptFresh.faithful
          (kept.fresh.trans keptFresh.fresh.symm)
  kept {lexicon} faithful := by
    have kept := steady.kept faithful
    rw [run_bind]
    generalize question.run.run lexicon = asked at kept ⊢
    obtain ⟨fault | value, after⟩ := asked
    · exact kept
    · exact kept.trans ((furtherSteady value).kept kept.faithful)

/-! ### Questions that only fetch lists -/

/-- The lexicon after some lists have been asked for. -/
def keepAll (lexicon : Lexicon) (categories : List Category) : Lexicon :=
  categories.foldl keep lexicon

theorem keepAll_append (lexicon : Lexicon) (first second : List Category) :
    lexicon.keepAll (first ++ second) = (lexicon.keepAll first).keepAll second :=
  List.foldl_append

/-- A property of lexicons that lasts when lists are fetched.  All that a request does to the
lexicon is to fetch lists, so what lasts holds after every request if it held before. -/
def Lasting (holds : Lexicon → Prop) : Prop :=
  ∀ lexicon category, holds lexicon → holds (lexicon.keep category)

/-- A steady question that does nothing to a lexicon but fetch lists. -/
structure Modest (question : Consult α) : Prop extends Steady question where
  fetches : ∀ lexicon : Lexicon, ∃ categories : List Category,
    (question.run.run lexicon).2 = lexicon.keepAll categories

theorem Lasting.keepAll {holds : Lexicon → Prop} (lasting : Lasting holds)
    (categories : List Category) {lexicon : Lexicon} (before : holds lexicon) :
    holds (lexicon.keepAll categories) := by
  induction categories generalizing lexicon with
  | nil => exact before
  | cons category rest inductionHypothesis =>
      exact inductionHypothesis (lasting lexicon category before)

theorem Modest.preserves {question : Consult α} (modest : Modest question)
    {holds : Lexicon → Prop} (lasting : Lasting holds) {lexicon : Lexicon}
    (before : holds lexicon) : holds (question.run.run lexicon).2 := by
  obtain ⟨categories, fetched⟩ := modest.fetches lexicon
  rw [fetched]
  exact lasting.keepAll categories before

theorem modest_pure (value : α) : Modest (pure value : Consult α) where
  toSteady := steady_pure value
  fetches _ := ⟨[], rfl⟩

theorem modest_throw (fault : LexiconFault) : Modest (throw fault : Consult α) where
  toSteady := steady_throw fault
  fetches _ := ⟨[], rfl⟩

theorem Modest.bind {question : Consult α} {further : α → Consult β} (modest : Modest question)
    (furtherModest : ∀ value, Modest (further value)) : Modest (question >>= further) where
  toSteady := modest.toSteady.bind fun value => (furtherModest value).toSteady
  fetches lexicon := by
    obtain ⟨categories, fetched⟩ := modest.fetches lexicon
    rw [run_bind]
    generalize question.run.run lexicon = asked at fetched ⊢
    obtain ⟨fault | value, after⟩ := asked
    · exact ⟨categories, fetched⟩
    · obtain ⟨more, fetchedMore⟩ := (furtherModest value).fetches after
      refine ⟨categories ++ more, ?_⟩
      rw [keepAll_append, ← fetched]
      exact fetchedMore

theorem modest_list (category : Category) : Modest (list category) where
  answer {lexicon} faithful := by
    rw [run_list, run_list, faithful.read, lexicon.isFaithful_fresh.read]
    rfl
  kept {lexicon} faithful := by
    rw [run_list]
    exact ⟨faithful.keep category, lexicon.fresh_keep category⟩
  fetches lexicon := ⟨[category], by rw [run_list]; rfl⟩

theorem modest_contains (category : Category) (word : String) : Modest (contains category word) :=
  (modest_list category).bind fun _ => modest_pure _

theorem modest_categoryOf (word : String) (categories : List Category) :
    Modest (categoryOf word categories) := by
  induction categories with
  | nil => exact modest_pure none
  | cons category rest inductionHypothesis =>
      apply (modest_contains category word).bind
      intro found
      cases found with
      | true => exact modest_pure _
      | false => exact inductionHypothesis

theorem modest_expression (category : Category) (edges : Bool) :
    Modest (expression category edges) :=
  (modest_list category).bind fun _ => modest_pure _

theorem modest_expandFrom (skip : Nat) (text : List Char) : Modest (expandFrom skip text) := by
  induction text generalizing skip with
  | nil => exact modest_pure []
  | cons c rest inductionHypothesis =>
      unfold expandFrom
      split
      · exact inductionHypothesis _
      · split
        · split
          · exact modest_throw _
          · apply (modest_expression _ _).bind
            intro written
            exact (inductionHypothesis _).bind fun _ => modest_pure _
        · exact (inductionHypothesis 0).bind fun _ => modest_pure _

theorem modest_expand (template : String) : Modest (expand template) :=
  (modest_expandFrom 0 template.toList).bind fun _ => modest_pure _

theorem modest_countWords (categories : List Category) : Modest (countWords categories) := by
  induction categories with
  | nil => exact modest_pure 0
  | cons category rest inductionHypothesis =>
      apply (modest_list category).bind
      intro words
      exact inductionHypothesis.bind fun _ => modest_pure _

/-! ### Questions that are remembered -/

/-- Whether a written pattern was read before makes no difference, and one that is not well
written leaves nothing behind. -/
theorem steady_readOnce (text : String) (flags : Flags) : Steady (readOnce text flags) where
  answer {lexicon} faithful := by
    have unknown : lexicon.fresh.patterns.lookup (text, flags) = none := rfl
    have sameReader : lexicon.fresh.reader = lexicon.reader := rfl
    rw [run_readOnce_new unknown, sameReader]
    cases known : lexicon.patterns.lookup (text, flags) with
    | some matcher => rw [run_readOnce_known known, faithful.patterns known]
    | none =>
        rw [run_readOnce_new known]
        cases lexicon.reader.read text flags <;> rfl
  kept {lexicon} faithful := by
    cases known : lexicon.patterns.lookup (text, flags) with
    | some matcher =>
        rw [run_readOnce_known known]
        exact faithful.isKept
    | none =>
        rw [run_readOnce_new known]
        cases isRead : lexicon.reader.read text flags with
        | error breakdown => exact faithful.isKept
        | ok matcher => exact ⟨faithful.withPattern isRead, rfl⟩

theorem steady_readTemplate (template : String) (flags : Flags) :
    Steady (readTemplate template flags) :=
  (modest_expand template).toSteady.bind fun written => steady_readOnce written flags

/-- The templates asked for before make no difference, and one that fails leaves no entry. -/
theorem steady_compile (template : String) (flags : Flags) :
    Steady (compile template flags) where
  answer {lexicon} faithful := by
    have unknown : lexicon.fresh.templates.lookup (template, flags) = none := rfl
    rw [answer_compile_new unknown]
    cases known : lexicon.templates.lookup (template, flags) with
    | some compiled =>
        rw [run_compile_known known]
        exact (faithful.templates known).symm
    | none =>
        rw [answer_compile_new known]
        exact (steady_readTemplate template flags).answer faithful
  kept {lexicon} faithful := by
    cases known : lexicon.templates.lookup (template, flags) with
    | some compiled =>
        rw [run_compile_known known]
        exact faithful.isKept
    | none =>
        have isRead := (steady_readTemplate template flags).answer faithful
        have kept := (steady_readTemplate template flags).kept faithful
        rw [run_compile_new known]
        generalize (readTemplate template flags).run.run lexicon = asked at isRead kept ⊢
        obtain ⟨fault | compiled, after⟩ := asked
        · exact kept
        · refine ⟨kept.faithful.withTemplate flags ?_, kept.fresh⟩
          rw [kept.fresh]
          exact isRead.symm

/-! ### All that may be asked -/

/-- The questions that a lexicon answers. -/
inductive Inquiry where
  | words (category : Category)
  | contains (category : Category) (word : String)
  | categoryOf (word : String) (categories : List Category)
  | expression (category : Category) (edges : Bool)
  | expand (template : String)
  | compile (template : String) (flags : Flags)

inductive Answer where
  | words (list : WordList)
  | member (isMember : Bool)
  | category (found : Option Category)
  | written (text : String)
  | compiled (compiled : Compiled)

/-- Ask a question. -/
def Inquiry.ask : Inquiry → Consult Answer
  | words category => do pure (.words (← list category))
  | contains category word => do pure (.member (← Lexicon.contains category word))
  | categoryOf word categories => do pure (.category (← Lexicon.categoryOf word categories))
  | expression category edges => do pure (.written (← Lexicon.expression category edges))
  | expand template => do pure (.written (← Lexicon.expand template))
  | compile template flags => do pure (.compiled (← Lexicon.compile template flags))

/-- Only the request for a pattern does more than fetch lists. -/
theorem Inquiry.modest (inquiry : Inquiry)
    (fetches : ∀ template flags, inquiry ≠ .compile template flags) :
    Modest inquiry.ask := by
  cases inquiry with
  | words category => exact (modest_list category).bind fun _ => modest_pure _
  | contains category word => exact (modest_contains category word).bind fun _ => modest_pure _
  | categoryOf word categories =>
      exact (modest_categoryOf word categories).bind fun _ => modest_pure _
  | expression category edges =>
      exact (modest_expression category edges).bind fun _ => modest_pure _
  | expand template => exact (modest_expand template).bind fun _ => modest_pure _
  | compile template flags => exact absurd rfl (fetches template flags)

/-- Every question is steady. -/
theorem Inquiry.steady (inquiry : Inquiry) : Steady inquiry.ask := by
  by_cases compiles : ∃ template flags, inquiry = .compile template flags
  · obtain ⟨template, flags, rfl⟩ := compiles
    exact (steady_compile template flags).bind fun _ => steady_pure _
  · apply Modest.toSteady
    apply inquiry.modest
    intro template flags isCompile
    exact compiles ⟨template, flags, isCompile⟩

end Playhouse.Lexicon

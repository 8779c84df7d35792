/-
Module: Playhouse.Proofs.Keeping
Purpose: What a lexicon keeps cannot be told from its answers, is never replaced, and holds
  nothing of what failed; each written pattern is kept once.
Main exports: Lexicon.askAll, Lexicon.Changes, Lexicon.Extends, Lexicon.IsTidy,
  Lexicon.compiledAmong, Lexicon.patterns_askAll, Lexicon.answer_readTemplate_fresh,
  keeping_never_shows
-/
import Mathlib.Data.List.Dedup
import Playhouse.Proofs.Faithfulness

namespace Playhouse

theorem Shelf.folded_of_load {shelf : Shelf} {category : Category} {list : WordList}
    (loaded : shelf.load category = .ok list) : list.folded = list.words.map foldCase := by
  cases shelf with
  | bundled =>
      cases loaded
      rfl
  | directory name file =>
      unfold load at loaded
      dsimp only at loaded
      split at loaded
      · cases loaded
        rfl
      · cases loaded

namespace Lexicon

variable {lexicon after : Lexicon}

/-! ### What a lexicon that agrees with its shelf can keep -/

/-- With the words of a class their lower case is kept. -/
theorem IsFaithful.folded_of_loaded (faithful : lexicon.IsFaithful) {category : Category}
    {words : List String} (found : lexicon.loaded.get? category = some words) :
    lexicon.folded.get? category = some (words.map foldCase) := by
  obtain ⟨lower, isLower, loaded⟩ := faithful.lists found
  rw [isLower, ← Shelf.folded_of_load loaded]

/-- A list that cannot be fetched is not kept. -/
theorem IsFaithful.absent (faithful : lexicon.IsFaithful) {category : Category}
    {fault : LexiconFault} (unloadable : lexicon.shelf.load category = .error fault) :
    lexicon.loaded.get? category = none ∧ lexicon.folded.get? category = none := by
  have noWords : lexicon.loaded.get? category = none := by
    cases found : lexicon.loaded.get? category with
    | none => rfl
    | some words =>
        obtain ⟨lower, _, loaded⟩ := faithful.lists found
        cases unloadable.symm.trans loaded
  refine ⟨noWords, ?_⟩
  cases found : lexicon.folded.get? category with
  | none => rfl
  | some lower =>
      have isLoaded := faithful.lowered found
      rw [noWords] at isLoaded
      cases isLoaded

/-- A written pattern that is not well written is not kept. -/
theorem IsFaithful.unread (faithful : lexicon.IsFaithful) {text : String} {flags : Flags}
    {breakdown : Breakdown} (failed : lexicon.reader.read text flags = .error breakdown) :
    lexicon.patterns.lookup (text, flags) = none := by
  cases found : lexicon.patterns.lookup (text, flags) with
  | none => rfl
  | some matcher => cases failed.symm.trans (faithful.patterns found)

/-- A template that cannot be expanded, or is not well written, is not entered. -/
theorem IsFaithful.unentered (faithful : lexicon.IsFaithful) {template : String} {flags : Flags}
    {fault : LexiconFault}
    (failed : ((readTemplate template flags).run.run lexicon.fresh).1 = .error fault) :
    lexicon.templates.lookup (template, flags) = none := by
  cases found : lexicon.templates.lookup (template, flags) with
  | none => rfl
  | some compiled => cases failed.symm.trans (faithful.templates found)

/-! ### One question after another -/

/-- Ask some questions in order. -/
def askAll (lexicon : Lexicon) :
    List Inquiry → List (Except LexiconFault Answer) × Lexicon
  | [] => ([], lexicon)
  | inquiry :: rest =>
      let asked := inquiry.ask.run.run lexicon
      let others := asked.2.askAll rest
      (asked.1 :: others.1, others.2)

/-- A faithful lexicon answers as one from which nothing was taken, and stays faithful. -/
theorem askAll_faithful (faithful : lexicon.IsFaithful) (inquiries : List Inquiry) :
    (lexicon.askAll inquiries).1 =
        inquiries.map (fun inquiry => (inquiry.ask.run.run lexicon.fresh).1) ∧
      lexicon.IsKept (lexicon.askAll inquiries).2 := by
  induction inquiries generalizing lexicon with
  | nil => exact ⟨rfl, faithful.isKept⟩
  | cons inquiry rest inductionHypothesis =>
      have kept := inquiry.steady.kept faithful
      obtain ⟨answers, keptAll⟩ := inductionHypothesis kept.faithful
      refine ⟨?_, kept.trans keptAll⟩
      rw [askAll, List.map_cons, answers, inquiry.steady.answer faithful, kept.fresh]

/-! ### What a question does to a lexicon -/

/-- The written pattern, with its flags, that a question has been given. -/
def Inquiry.compiled? : Inquiry → Except LexiconFault Answer → Option (String × Flags)
  | compile _ _, .ok (.compiled compiled) => some (compiled.text, compiled.flags)
  | _, _ => none

/-- All that a question can do to a lexicon: it fetches lists, or it finds its template there
already, or it fetches lists and enters its template with a pattern that was read before or
is new.  A question that fails only fetches. -/
inductive Changes (lexicon : Lexicon) (inquiry : Inquiry) :
    Except LexiconFault Answer → Lexicon → Prop where
  | fetched {answer : Except LexiconFault Answer} (categories : List Category)
      (unread : inquiry.compiled? answer = none) :
      Changes lexicon inquiry answer (lexicon.keepAll categories)
  | known {template : String} {flags : Flags} {compiled : Compiled}
      (asked : inquiry = .compile template flags)
      (found : lexicon.templates.lookup (template, flags) = some compiled) :
      Changes lexicon inquiry (.ok (.compiled compiled)) lexicon
  | shared (categories : List Category) {template text : String} {flags : Flags}
      {matcher : Matcher} (asked : inquiry = .compile template flags)
      (found : (lexicon.keepAll categories).patterns.lookup (text, flags) = some matcher) :
      Changes lexicon inquiry (.ok (.compiled ⟨text, flags, matcher⟩))
        ((lexicon.keepAll categories).withTemplate template flags ⟨text, flags, matcher⟩)
  | entered (categories : List Category) {template text : String} {flags : Flags}
      {matcher : Matcher} (asked : inquiry = .compile template flags)
      (unknown : (lexicon.keepAll categories).patterns.lookup (text, flags) = none) :
      Changes lexicon inquiry (.ok (.compiled ⟨text, flags, matcher⟩))
        (((lexicon.keepAll categories).withPattern text flags matcher).withTemplate template flags
          ⟨text, flags, matcher⟩)

/-- A request for a pattern hands on the pattern that it gets. -/
theorem run_ask_compile (template : String) (flags : Flags) (lexicon : Lexicon) :
    (Inquiry.compile template flags).ask.run.run lexicon =
      (((compile template flags).run.run lexicon).1.map .compiled,
        ((compile template flags).run.run lexicon).2) := by
  rw [Inquiry.ask, run_bind]
  rcases (compile template flags).run.run lexicon with ⟨fault | compiled, after⟩ <;> rfl

theorem changes_compile (lexicon : Lexicon) (template : String) (flags : Flags) :
    lexicon.Changes (.compile template flags)
      (((compile template flags).run.run lexicon).1.map .compiled)
      ((compile template flags).run.run lexicon).2 := by
  cases entered : lexicon.templates.lookup (template, flags) with
  | some compiled =>
      rw [run_compile_known entered]
      exact .known rfl entered
  | none =>
      obtain ⟨categories, fetched⟩ := (modest_expand template).fetches lexicon
      rw [run_compile_new entered, readTemplate, run_bind]
      generalize (expand template).run.run lexicon = expanded at fetched ⊢
      obtain ⟨fault | written, after⟩ := expanded
      · obtain rfl : after = _ := fetched
        exact .fetched categories rfl
      · obtain rfl : after = _ := fetched
        dsimp only
        cases known : (lexicon.keepAll categories).patterns.lookup (written, flags) with
        | some matcher =>
            rw [run_readOnce_known known]
            exact .shared categories rfl known
        | none =>
            rw [run_readOnce_new known]
            cases (lexicon.keepAll categories).reader.read written flags with
            | error breakdown => exact .fetched categories rfl
            | ok matcher => exact .entered categories rfl known

theorem changes_ask (lexicon : Lexicon) (inquiry : Inquiry) :
    lexicon.Changes inquiry (inquiry.ask.run.run lexicon).1 (inquiry.ask.run.run lexicon).2 := by
  by_cases compiles : ∃ template flags, inquiry = .compile template flags
  · obtain ⟨template, flags, rfl⟩ := compiles
    rw [run_ask_compile]
    exact lexicon.changes_compile template flags
  · have fetches template flags : inquiry ≠ .compile template flags :=
      fun isCompile => compiles ⟨template, flags, isCompile⟩
    obtain ⟨categories, fetched⟩ := (inquiry.modest fetches).fetches lexicon
    rw [fetched]
    apply Changes.fetched
    cases inquiry with
    | compile template flags => exact absurd rfl (fetches template flags)
    | _ => rfl

/-! ### Nothing is replaced -/

/-- Everything kept in one lexicon is kept in the other. -/
structure Extends (lexicon after : Lexicon) : Prop where
  loaded : ∀ {category words}, lexicon.loaded.get? category = some words →
    after.loaded.get? category = some words
  folded : ∀ {category lower}, lexicon.folded.get? category = some lower →
    after.folded.get? category = some lower
  templates : ∀ {key compiled}, lexicon.templates.lookup key = some compiled →
    after.templates.lookup key = some compiled
  patterns : ∀ {key matcher}, lexicon.patterns.lookup key = some matcher →
    after.patterns.lookup key = some matcher

theorem Extends.refl (lexicon : Lexicon) : lexicon.Extends lexicon :=
  ⟨id, id, id, id⟩

theorem Extends.trans {last : Lexicon} (first : lexicon.Extends after)
    (second : after.Extends last) : lexicon.Extends last :=
  ⟨second.loaded ∘ first.loaded, second.folded ∘ first.folded,
    second.templates ∘ first.templates, second.patterns ∘ first.patterns⟩

/-- A list is entered under a class that has none, so that nothing is replaced. -/
theorem IsFaithful.extends_keep (faithful : lexicon.IsFaithful) (category : Category) :
    lexicon.Extends (lexicon.keep category) := by
  rcases lexicon.keep_cases category with same | ⟨list, absent, _, kept⟩
  · rw [same]
    exact .refl lexicon
  · rw [kept]
    refine ⟨?_, ?_, id, id⟩
    · intro other words found
      have isOther : category ≠ other := by
        rintro rfl
        rw [absent] at found
        cases found
      rw [Ledger.get?_put, if_neg isOther, found]
    · intro other lower found
      have isOther : category ≠ other := by
        rintro rfl
        have isLoaded := faithful.lowered found
        rw [absent] at isLoaded
        cases isLoaded
      rw [Ledger.get?_put, if_neg isOther, found]

theorem IsFaithful.extends_keepAll (faithful : lexicon.IsFaithful) (categories : List Category) :
    lexicon.Extends (lexicon.keepAll categories) := by
  have lasting : Lasting fun after => after.IsFaithful ∧ lexicon.Extends after := by
    rintro after category ⟨stillFaithful, extends_⟩
    exact ⟨stillFaithful.keep category, extends_.trans (stillFaithful.extends_keep category)⟩
  exact (lasting.keepAll categories ⟨faithful, .refl lexicon⟩).2

theorem extends_withTemplate (lexicon : Lexicon) (template : String) (flags : Flags)
    (compiled : Compiled) : lexicon.Extends (lexicon.withTemplate template flags compiled) where
  loaded := id
  folded := id
  templates found := by
    rw [withTemplate, List.lookup_append, found]
    rfl
  patterns := id

theorem extends_withPattern (lexicon : Lexicon) (text : String) (flags : Flags)
    (matcher : Matcher) : lexicon.Extends (lexicon.withPattern text flags matcher) where
  loaded := id
  folded := id
  templates := id
  patterns found := by
    rw [withPattern, List.lookup_append, found]
    rfl

theorem Changes.extends {inquiry : Inquiry} {answer : Except LexiconFault Answer}
    (changes : lexicon.Changes inquiry answer after) (faithful : lexicon.IsFaithful) :
    lexicon.Extends after := by
  cases changes with
  | fetched categories unread => exact faithful.extends_keepAll categories
  | known asked found => exact .refl lexicon
  | shared categories asked found =>
      exact (faithful.extends_keepAll categories).trans (extends_withTemplate _ _ _ _)
  | entered categories asked unknown =>
      exact ((faithful.extends_keepAll categories).trans (extends_withPattern _ _ _ _)).trans
        (extends_withTemplate _ _ _ _)

theorem extends_askAll (faithful : lexicon.IsFaithful) (inquiries : List Inquiry) :
    lexicon.Extends (lexicon.askAll inquiries).2 := by
  induction inquiries generalizing lexicon with
  | nil => exact .refl lexicon
  | cons inquiry rest inductionHypothesis =>
      have kept := inquiry.steady.kept faithful
      exact ((lexicon.changes_ask inquiry).extends faithful).trans
        (inductionHypothesis kept.faithful)

/-! ### Every written pattern is kept once -/

/-- The written patterns that were read, each with its flags. -/
def writings (lexicon : Lexicon) : List (String × Flags) :=
  lexicon.patterns.map Prod.fst

theorem mem_writings_of_lookup {entries : List ((String × Flags) × Matcher)}
    {writing : String × Flags} {matcher : Matcher}
    (found : entries.lookup writing = some matcher) : writing ∈ entries.map Prod.fst := by
  obtain ⟨_, _, isSplit, _⟩ := List.lookup_eq_some_iff.mp found
  simp [isSplit]

theorem not_mem_writings_of_lookup {entries : List ((String × Flags) × Matcher)}
    {writing : String × Flags} (unknown : entries.lookup writing = none) :
    writing ∉ entries.map Prod.fst := by
  rw [List.lookup_eq_none_iff] at unknown
  simp only [List.mem_map, not_exists, not_and]
  rintro entry member rfl
  simpa using unknown entry member

/-- No written pattern is kept twice, and the pattern of every template is kept. -/
structure IsTidy (lexicon : Lexicon) : Prop where
  once : lexicon.writings.Nodup
  entered : ∀ {key compiled}, lexicon.templates.lookup key = some compiled →
    (compiled.text, compiled.flags) ∈ lexicon.writings

theorem isTidy_ofShelf (shelf : Shelf) (reader : PatternReader) :
    (ofShelf shelf reader).IsTidy where
  once := List.nodup_nil
  entered found := by cases found

theorem writings_withPattern (lexicon : Lexicon) (text : String) (flags : Flags)
    (matcher : Matcher) :
    (lexicon.withPattern text flags matcher).writings = lexicon.writings ++ [(text, flags)] := by
  simp [writings, withPattern]

theorem IsTidy.withTemplate (tidy : lexicon.IsTidy) (template : String) (flags : Flags)
    {compiled : Compiled} (isKept : (compiled.text, compiled.flags) ∈ lexicon.writings) :
    (lexicon.withTemplate template flags compiled).IsTidy where
  once := tidy.once
  entered found := by
    rcases lookup_concat found with known | ⟨_, rfl⟩
    · exact tidy.entered known
    · exact isKept

theorem IsTidy.withPattern (tidy : lexicon.IsTidy) {text : String} {flags : Flags}
    (unknown : lexicon.patterns.lookup (text, flags) = none) (matcher : Matcher) :
    (lexicon.withPattern text flags matcher).IsTidy where
  once := by
    rw [writings_withPattern, List.nodup_append_comm]
    exact List.nodup_cons.mpr ⟨not_mem_writings_of_lookup unknown, tidy.once⟩
  entered found := by
    rw [writings_withPattern]
    exact List.mem_append_left _ (tidy.entered found)

/-- Fetching lists leaves templates, patterns and the reader alone. -/
theorem records_keepAll (lexicon : Lexicon) (categories : List Category) :
    (lexicon.keepAll categories).templates = lexicon.templates ∧
      (lexicon.keepAll categories).patterns = lexicon.patterns ∧
      (lexicon.keepAll categories).reader = lexicon.reader := by
  have lasting : Lasting fun after => after.templates = lexicon.templates ∧
      after.patterns = lexicon.patterns ∧ after.reader = lexicon.reader := by
    intro after category same
    rcases after.keep_cases category with unchanged | ⟨list, _, _, kept⟩
    · rw [unchanged]
      exact same
    · rw [kept]
      exact same
  exact lasting.keepAll categories ⟨rfl, rfl, rfl⟩

theorem writings_keepAll (categories : List Category) :
    (lexicon.keepAll categories).writings = lexicon.writings := by
  rw [writings, (lexicon.records_keepAll categories).2.1, writings]

theorem IsTidy.keepAll (tidy : lexicon.IsTidy) (categories : List Category) :
    (lexicon.keepAll categories).IsTidy where
  once := by
    rw [writings_keepAll]
    exact tidy.once
  entered found := by
    rw [(lexicon.records_keepAll categories).1] at found
    rw [writings_keepAll]
    exact tidy.entered found

/-- A question adds the pattern that it is given and no other. -/
theorem Changes.writings {inquiry : Inquiry} {answer : Except LexiconFault Answer}
    (changes : lexicon.Changes inquiry answer after) (tidy : lexicon.IsTidy) :
    after.IsTidy ∧ ∀ writing, writing ∈ after.writings ↔
      writing ∈ lexicon.writings ∨ inquiry.compiled? answer = some writing := by
  cases changes with
  | fetched categories unread =>
      refine ⟨tidy.keepAll categories, fun writing => ?_⟩
      rw [writings_keepAll, unread]
      simp
  | known asked found =>
      refine ⟨tidy, fun writing => ?_⟩
      subst asked
      constructor
      · exact Or.inl
      · rintro (isKept | isGiven)
        · exact isKept
        · cases isGiven
          exact tidy.entered found
  | @shared categories template text flags matcher asked found =>
      have isKept := mem_writings_of_lookup found
      refine ⟨(tidy.keepAll categories).withTemplate _ _ isKept, fun writing => ?_⟩
      subst asked
      have sameWritings : (lexicon.keepAll categories).writings = lexicon.writings :=
        writings_keepAll categories
      show writing ∈ (lexicon.keepAll categories).writings ↔ _
      rw [sameWritings]
      constructor
      · exact Or.inl
      · rintro (known | isGiven)
        · exact known
        · cases isGiven
          rw [← sameWritings]
          exact isKept
  | @entered categories template text flags matcher asked unknown =>
      have tidyNow := (tidy.keepAll categories).withPattern unknown matcher
      refine ⟨tidyNow.withTemplate template flags ?_, fun writing => ?_⟩
      · rw [writings_withPattern]
        exact List.mem_append_right _ (List.mem_singleton_self _)
      · subst asked
        show writing ∈ ((lexicon.keepAll categories).withPattern text flags matcher).writings ↔ _
        rw [writings_withPattern, writings_keepAll, List.mem_append, List.mem_singleton]
        apply or_congr_right
        simp only [Inquiry.compiled?, Option.some.injEq]
        exact eq_comm

/-- The patterns that some questions have been given. -/
def compiledAmong (inquiries : List Inquiry) (answers : List (Except LexiconFault Answer)) :
    List (String × Flags) :=
  (inquiries.zip answers).filterMap fun asked => asked.1.compiled? asked.2

theorem writings_askAll (tidy : lexicon.IsTidy) (inquiries : List Inquiry) :
    (lexicon.askAll inquiries).2.IsTidy ∧
      ∀ writing, writing ∈ (lexicon.askAll inquiries).2.writings ↔
        writing ∈ lexicon.writings ∨
          writing ∈ compiledAmong inquiries (lexicon.askAll inquiries).1 := by
  induction inquiries generalizing lexicon with
  | nil => exact ⟨tidy, fun writing => by simp [askAll, compiledAmong]⟩
  | cons inquiry rest inductionHypothesis =>
      obtain ⟨tidyNow, now⟩ := (lexicon.changes_ask inquiry).writings tidy
      obtain ⟨tidyAll, all⟩ := inductionHypothesis tidyNow
      refine ⟨tidyAll, fun writing => ?_⟩
      have given : writing ∈ compiledAmong (inquiry :: rest) (lexicon.askAll (inquiry :: rest)).1 ↔
          inquiry.compiled? (inquiry.ask.run.run lexicon).1 = some writing ∨
            writing ∈ compiledAmong rest
              ((inquiry.ask.run.run lexicon).2.askAll rest).1 := by
        simp [compiledAmong, askAll]
      rw [given, askAll, all, now, or_assoc]

/-- There are as many patterns as different ones have been given. -/
theorem length_patterns_askAll (shelf : Shelf) (reader : PatternReader)
    (inquiries : List Inquiry) :
    ((ofShelf shelf reader).askAll inquiries).2.patterns.length =
      (compiledAmong inquiries ((ofShelf shelf reader).askAll inquiries).1).dedup.length := by
  obtain ⟨tidy, entered⟩ := writings_askAll (isTidy_ofShelf shelf reader) inquiries
  have counted : ((ofShelf shelf reader).askAll inquiries).2.patterns.length =
      ((ofShelf shelf reader).askAll inquiries).2.writings.length := (List.length_map _).symm
  rw [counted]
  apply List.Perm.length_eq
  rw [List.perm_ext_iff_of_nodup tidy.once (List.nodup_dedup _)]
  intro writing
  rw [entered, List.mem_dedup]
  exact or_iff_right List.not_mem_nil

/-! ### What a template comes to -/

/-- At first a template is expanded, and what comes of it is read. -/
theorem answer_readTemplate_fresh (lexicon : Lexicon) (template : String) (flags : Flags) :
    ((readTemplate template flags).run.run lexicon.fresh).1 =
      match ((expand template).run.run lexicon.fresh).1 with
      | .error fault => .error fault
      | .ok text =>
          match lexicon.reader.read text flags with
          | .error breakdown => .error (.badPattern breakdown)
          | .ok matcher => .ok ⟨text, flags, matcher⟩ := by
  obtain ⟨categories, fetched⟩ := (modest_expand template).fetches lexicon.fresh
  rw [readTemplate, run_bind]
  generalize (expand template).run.run lexicon.fresh = expanded at fetched ⊢
  obtain ⟨fault | text, after⟩ := expanded
  · rfl
  · obtain rfl : after = _ := fetched
    obtain ⟨_, samePatterns, sameReader⟩ := lexicon.fresh.records_keepAll categories
    have unknown : (lexicon.fresh.keepAll categories).patterns.lookup (text, flags) = none := by
      rw [samePatterns]
      rfl
    dsimp only
    have sameFresh : lexicon.fresh.reader = lexicon.reader := rfl
    rw [run_readOnce_new unknown, sameReader, sameFresh]
    cases lexicon.reader.read text flags <;> rfl

end Lexicon

/-- **What a lexicon keeps never shows.**  Ask a lexicon any questions, one after the other,
whether they can be answered or not, and let anybody read its patterns.  Every answer and every
fault is that which a lexicon gives from which nothing was taken.  Whenever the words of a class
are kept, so are they in lower case.  A list that cannot be fetched leaves nothing behind, nor
does a template that fails, nor a pattern that is not well written.  Whatever is kept stays as
it is, whatever is asked later.  A request for a pattern is answered with what the expansion of
its template is read as, and there are as many patterns as different ones, with their flags,
have been given in answer to such requests. -/
theorem keeping_never_shows (reader : PatternReader) (shelf : Shelf)
    (inquiries : List Lexicon.Inquiry) :
    let fresh := Lexicon.ofShelf shelf reader
    let used := (fresh.askAll inquiries).2
    (fresh.askAll inquiries).1 =
      inquiries.map (fun inquiry => (inquiry.ask.run.run fresh).1) ∧
    (∀ category words, used.loaded.get? category = some words →
      used.folded.get? category = some (words.map foldCase)) ∧
    (∀ category fault, shelf.load category = .error fault →
      used.loaded.get? category = none ∧ used.folded.get? category = none) ∧
    (∀ template flags fault,
      ((Lexicon.compile template flags).run.run fresh).1 = .error fault →
      used.templates.lookup (template, flags) = none) ∧
    (∀ text flags breakdown, reader.read text flags = .error breakdown →
      used.patterns.lookup (text, flags) = none) ∧
    (∀ later, used.Extends (used.askAll later).2) ∧
    (∀ template flags, ((Lexicon.compile template flags).run.run used).1 =
      match ((Lexicon.expand template).run.run fresh).1 with
      | .error fault => .error fault
      | .ok text =>
          match reader.read text flags with
          | .error breakdown => .error (.badPattern breakdown)
          | .ok matcher => .ok ⟨text, flags, matcher⟩) ∧
    used.patterns.length =
      (Lexicon.compiledAmong inquiries (fresh.askAll inquiries).1).dedup.length := by
  intro fresh used
  have faithful : fresh.IsFaithful := Lexicon.isFaithful_ofShelf shelf reader
  obtain ⟨answers, kept⟩ := Lexicon.askAll_faithful faithful inquiries
  have sameFresh : used.fresh = fresh := kept.fresh
  have sameShelf : used.shelf = shelf := congrArg Lexicon.shelf sameFresh
  have sameReader : used.reader = reader := congrArg Lexicon.reader sameFresh
  refine ⟨answers, fun category words found => kept.faithful.folded_of_loaded found, ?_, ?_, ?_,
    Lexicon.extends_askAll kept.faithful, ?_,
    Lexicon.length_patterns_askAll shelf reader inquiries⟩
  · intro category fault unloadable
    rw [← sameShelf] at unloadable
    exact kept.faithful.absent unloadable
  · intro template flags fault failed
    apply kept.faithful.unentered
    rw [sameFresh, ← Lexicon.answer_compile_new rfl]
    exact failed
  · intro text flags breakdown failed
    rw [← sameReader] at failed
    exact kept.faithful.unread failed
  · intro template flags
    have agreed : ((Lexicon.compile template flags).run.run used).1 =
        ((Lexicon.compile template flags).run.run fresh).1 :=
      (Lexicon.steady_compile template flags).agree kept.faithful faithful sameFresh
    rw [agreed, Lexicon.answer_compile_new rfl]
    exact fresh.answer_readTemplate_fresh template flags

/-- Lists of which only that of the forms of "be" is there. -/
def tornPages : Shelf :=
  .directory "lists" fun
    | .be => .ok "Am\nART"
    | _ => .error .noSuchFile

/-- Questions of which the second fails halfway and the fourth writes out what the first
abbreviates.  Two others ask for a pattern that is not well written, and for flags that do not
go together. -/
def repeatedQuestions : List Lexicon.Inquiry :=
  [.compile "<be>" true, .compile "<be> <article>" true, .contains .article "the",
    .compile "\\b(ART|Am)\\b" true, .compile "(<be>" false, .compile "<be>" ⟨288⟩,
    .compile "<be>" false, .compile "<be>" true, .contains .be "aM"]

/-- What those questions leave of a lexicon of those lists. -/
def wornLexicon : Lexicon :=
  ((Lexicon.ofShelf tornPages).askAll repeatedQuestions).2

/-- Seven requests for a pattern, of which three fail, leave two written patterns. -/
theorem keeping_never_shows_repeatedQuestions :
    ((Lexicon.ofShelf tornPages).askAll repeatedQuestions).1 =
      repeatedQuestions.map
        (fun inquiry => (inquiry.ask.run.run (Lexicon.ofShelf tornPages)).1) ∧
    wornLexicon.loaded.get? .be = some ["Am", "ART"] ∧
    wornLexicon.folded.get? .be = some ["am", "art"] ∧
    wornLexicon.loaded.get? .article = none ∧ wornLexicon.folded.get? .article = none ∧
    wornLexicon.templates.lookup ("<be> <article>", (true : Flags)) = none ∧
    (wornLexicon.patterns.lookup ("(\\b(ART|Am)\\b", (false : Flags))).isNone ∧
    (wornLexicon.patterns.lookup ("\\b(ART|Am)\\b", ⟨288⟩)).isNone ∧
    (wornLexicon.askAll [.words .article, .words .be]).2.loaded.get? .be =
      some ["Am", "ART"] ∧
    wornLexicon.templates.length = 3 ∧ wornLexicon.patterns.length = 2 := by
  have isWorn : wornLexicon = ((Lexicon.ofShelf tornPages).askAll repeatedQuestions).2 := rfl
  have general := keeping_never_shows .standard tornPages repeatedQuestions
  dsimp only at general
  rw [← isWorn] at general
  obtain ⟨answers, lower, unloaded, unexpanded, unread, kept, _, size⟩ := general
  have loaded : wornLexicon.loaded.get? .be = some ["Am", "ART"] := by decide +kernel
  have folded : ["Am", "ART"].map foldCase = ["am", "art"] := by decide +kernel
  have lowered := lower .be _ loaded
  rw [folded] at lowered
  obtain ⟨noWords, noLower⟩ :=
    unloaded .article (.unreadable "lists" .article .noSuchFile) rfl
  have failed : ((Lexicon.compile "<be> <article>" true).run.run (Lexicon.ofShelf tornPages)).1 =
      .error (.unreadable "lists" .article .noSuchFile) := by
    have unwritten : ((Lexicon.expand "<be> <article>").run.run (Lexicon.ofShelf tornPages)).1 =
        .error (.unreadable "lists" .article .noSuchFile) := by decide +kernel
    have isRead :=
      (Lexicon.ofShelf tornPages).answer_readTemplate_fresh "<be> <article>" (true : Flags)
    rw [show (Lexicon.ofShelf tornPages).fresh = Lexicon.ofShelf tornPages from rfl,
      unwritten] at isRead
    rw [Lexicon.answer_compile_new rfl, isRead]
  have noTemplate := unexpanded "<be> <article>" true _ failed
  have open_ := unread "(\\b(ART|Am)\\b" (false : Flags)
    ⟨"error", "missing ), unterminated subpattern at position 0"⟩ rfl
  have clash := unread "\\b(ART|Am)\\b" ⟨288⟩
    ⟨"ValueError", "ASCII and UNICODE flags are incompatible"⟩ rfl
  have three : wornLexicon.templates.length = 3 := by decide +kernel
  have two : (Lexicon.compiledAmong repeatedQuestions
    ((Lexicon.ofShelf tornPages).askAll repeatedQuestions).1).dedup.length = 2 := by
    decide +kernel
  exact ⟨answers, loaded, lowered, noWords, noLower, noTemplate,
    Option.isNone_iff_eq_none.mpr open_, Option.isNone_iff_eq_none.mpr clash,
    (kept [.words .article, .words .be]).loaded loaded, three, size.trans two⟩

end Playhouse

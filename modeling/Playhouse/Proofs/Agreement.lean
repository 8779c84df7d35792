/-
Module: Playhouse.Proofs.Agreement
Purpose: Cutting with the rules in writing, through a lexicon that keeps their patterns, gives
  the tokens of a scan with the words of the lexicon, and fetches the same lists.
Main exports: Lexicon.Knows, Lexicon.bare, Tandem, tandem_ofShelf, Tandem.keepAll,
  Tandem.compile, Attempt.IsMatched, Tandem.findRule, Scan.cutting, Tandem.cutFrom,
  Tandem.tokenize, Tandem.readSource, cut_agrees
-/
import Playhouse.Proofs.Cutting
import Playhouse.Proofs.Expansion
import Playhouse.Proofs.Hosting
import Playhouse.Proofs.WrittenRules

namespace Playhouse

/-!
A desk cuts a source with the vocabulary of its lexicon, and afterwards it fetches the lists
that were needed.  A full lexicon is asked for a pattern whenever a rule is tried, and fetches
a list while the pattern is written.  The two go in step: `Tandem` says that they have the same
lists, and that whatever the full lexicon has read by now is no news.
-/

namespace Lexicon

/-! ### Lists that were asked for -/

/-- A lexicon that has nothing to fetch for a class any more: it has the list, or the list
cannot be had. -/
def Knows (lexicon : Lexicon) (category : Category) : Prop :=
  lexicon.keep category = lexicon

/-- What is kept of the lists on a shelf does not depend on the rest of the lexicon. -/
theorem knows_iff {lexicon : Lexicon} {category : Category} :
    lexicon.Knows category ↔ (lexicon.loaded.get? category).isSome ∨
      ∃ fault, lexicon.shelf.load category = .error fault := by
  unfold Knows keep
  cases found : lexicon.loaded.get? category with
  | some words => simp
  | none =>
      cases fetched : lexicon.shelf.load category with
      | error fault => simp
      | ok list =>
          simp only [Option.isSome_none, Bool.false_eq_true, reduceCtorEq, exists_false, or_self,
            iff_false]
          intro same
          have known := congrArg (fun lexicon => lexicon.loaded.get? category) same
          dsimp only at known
          rw [Ledger.get?_put, if_pos rfl, found] at known
          cases known

theorem knows_keep (lexicon : Lexicon) (category : Category) :
    (lexicon.keep category).Knows category := by
  rw [knows_iff]
  rcases lexicon.keep_cases category with same | ⟨list, _, _, kept⟩
  · rw [same]
    exact knows_iff.mp same
  · rw [kept, Ledger.get?_put, if_pos rfl]
    exact Or.inl rfl

theorem Knows.keep {lexicon : Lexicon} {category : Category} (knows : lexicon.Knows category)
    (other : Category) : (lexicon.keep other).Knows category := by
  rw [knows_iff] at knows ⊢
  rcases lexicon.keep_cases other with same | ⟨list, _, _, kept⟩
  · rw [same]
    exact knows
  · rw [kept, Ledger.get?_put]
    rcases knows with known | failed
    · split
      · exact Or.inl rfl
      · exact Or.inl known
    · exact Or.inr failed

section

variable {lexicon : Lexicon} {category : Category} {categories : List Category}

theorem Knows.keepAll (knows : lexicon.Knows category) (categories : List Category) :
    (lexicon.keepAll categories).Knows category := by
  induction categories generalizing lexicon with
  | nil => exact knows
  | cons other rest inductionHypothesis => exact inductionHypothesis (knows.keep other)

theorem knows_keepAll (lexicon : Lexicon) (asked : category ∈ categories) :
    (lexicon.keepAll categories).Knows category := by
  induction categories generalizing lexicon with
  | nil => cases asked
  | cons other rest inductionHypothesis =>
      rcases List.mem_cons.mp asked with rfl | further
      · exact (lexicon.knows_keep category).keepAll rest
      · exact inductionHypothesis (lexicon.keep other) further

/-- Nothing is fetched for classes that are known. -/
theorem keepAll_of_knows (knows : ∀ category ∈ categories, lexicon.Knows category) :
    lexicon.keepAll categories = lexicon := by
  induction categories with
  | nil => rfl
  | cons other rest inductionHypothesis =>
      have first : lexicon.keep other = lexicon := knows other List.mem_cons_self
      rw [Lexicon.keepAll, List.foldl_cons, first]
      exact inductionHypothesis fun category member =>
        knows category (List.mem_cons_of_mem other member)

end

/-! ### Lexicons with lists only -/

/-- A lexicon without the patterns that it has read. -/
def bare (lexicon : Lexicon) : Lexicon :=
  { lexicon with templates := [], patterns := [] }

theorem bare_keep (lexicon : Lexicon) (category : Category) :
    (lexicon.keep category).bare = lexicon.bare.keep category := by
  unfold keep bare
  dsimp only
  split
  · rfl
  · split <;> rfl

theorem knows_bare {lexicon : Lexicon} {category : Category} :
    lexicon.bare.Knows category ↔ lexicon.Knows category := by
  rw [knows_iff, knows_iff]
  rfl

/-- What a lexicon knows can be told from its lists. -/
theorem Knows.of_bare {lexicon other : Lexicon} {category : Category}
    (knows : lexicon.Knows category) (sameLists : lexicon.bare = other.bare) :
    other.Knows category := by
  rw [← knows_bare, ← sameLists, knows_bare]
  exact knows

theorem vocabulary_keepAll (lexicon : Lexicon) (categories : List Category) :
    (lexicon.keepAll categories).vocabulary = lexicon.vocabulary := by
  induction categories generalizing lexicon with
  | nil => rfl
  | cons category rest inductionHypothesis =>
      exact (inductionHypothesis (lexicon.keep category)).trans (lexicon.vocabulary_keep category)

theorem list_vocabulary (lexicon : Lexicon) (category : Category) :
    lexicon.vocabulary.list category = lexicon.read category := by
  cases category <;> rfl

end Lexicon

open Lexicon (Knows)

/-! ### The rules in both forms -/

namespace Template

/-- The rules of the table, each with its template and its flags. -/
def rules : List ((String × Bool) × Rule) :=
  table.zip Rule.table

/-- A rule in writing. -/
def written (entry : (String × Bool) × Rule) : WrittenRule :=
  entry.2.written entry.1.1 entry.1.2

theorem map_written_rules : rules.map written = WrittenRule.table := by
  rw [WrittenRule.table, rules, List.zip, List.map_zipWith]
  rfl

theorem map_snd_rules : rules.map Prod.snd = Rule.table :=
  List.map_snd_zip (Nat.le_of_eq says_table.length_eq.symm)

theorem says_of_mem {entry : (String × Bool) × Rule} (member : entry ∈ rules) :
    Says entry.1.1 entry.1.2 entry.2 :=
  (List.forall₂_zip says_table) member

/-- A rule asks for one class at most. -/
theorem eq_of_mem_slots {entry : (String × Bool) × Rule} (member : entry ∈ rules)
    {category other : Category} (isSlot : category ∈ entry.2.pattern.slots)
    (isOther : other ∈ entry.2.pattern.slots) : category = other := by
  cases says_of_mem member with
  | plain isPlain noSlot read =>
      rw [noSlot] at isSlot
      cases isSlot
  | slotted isTemplate plainBefore plainBehind oneSlot read =>
      rw [oneSlot, List.mem_singleton] at isSlot isOther
      rw [isSlot, isOther]

/-- A rule with a place is filled with the list of the class that stands there. -/
theorem fill_of_loaded {entry : (String × Bool) × Rule} (member : entry ∈ rules) {shelf : Shelf}
    {category : Category} (isSlot : category ∈ entry.2.pattern.slots) {list : WordList}
    (loaded : shelf.load category = .ok list) :
    (entry.2.pattern.fill fun category =>
        (shelf.load category).map fun list => list.pattern entry.2.caseless) =
      .ok (entry.2.pattern.fillAll (list.pattern entry.2.caseless)) := by
  apply Pattern.fill_of_forall
  intro key isKey
  obtain rfl : key = category := eq_of_mem_slots member isKey isSlot
  rw [loaded]
  rfl

/-- The classes that the first rules ask for, in the order of the table. -/
def slotsOfFirst (count : Nat) : List Category :=
  (Rule.table.take count).flatMap fun rule => rule.pattern.slots

section

variable {earlier later : List ((String × Bool) × Rule)} {entry : (String × Bool) × Rule}

theorem get?_table (isSplit : rules = earlier ++ entry :: later) :
    Rule.table[earlier.length]? = some entry.2 := by
  rw [← map_snd_rules, isSplit]
  simp

theorem slotsOfFirst_succ (isSplit : rules = earlier ++ entry :: later) :
    slotsOfFirst (earlier.length + 1) =
      slotsOfFirst earlier.length ++ entry.2.pattern.slots := by
  rw [slotsOfFirst, List.take_add_one, get?_table isSplit, List.flatMap_append]
  simp [slotsOfFirst]

end

/-- More rules ask for the same classes and for others behind them. -/
theorem slotsOfFirst_of_le {few many : Nat} (le : few ≤ many) :
    ∃ others, slotsOfFirst many = slotsOfFirst few ++ others := by
  refine ⟨((Rule.table.take many).drop few).flatMap fun rule => rule.pattern.slots, ?_⟩
  have parted := congrArg (fun rules => rules.flatMap fun rule => rule.pattern.slots)
    (List.take_append_drop few (Rule.table.take many)).symm
  rw [List.flatMap_append, List.take_take, Nat.min_eq_left le] at parted
  exact parted

end Template

open Template (slotsOfFirst slotsOfFirst_succ slotsOfFirst_of_le)

/-- Fetching for the first rules and again for other first rules is fetching for the larger
number of them. -/
theorem Lexicon.keepAll_first (lexicon : Lexicon) (once again : Nat) :
    (lexicon.keepAll (slotsOfFirst once)).keepAll (slotsOfFirst again) =
      lexicon.keepAll (slotsOfFirst (max once again)) := by
  rcases Nat.le_total again once with fewer | more
  · rw [Nat.max_eq_left fewer]
    obtain ⟨others, isMore⟩ := slotsOfFirst_of_le fewer
    apply Lexicon.keepAll_of_knows
    intro category asked
    apply lexicon.knows_keepAll
    rw [isMore]
    exact List.mem_append_left others asked
  · rw [Nat.max_eq_right more]
    obtain ⟨others, isMore⟩ := slotsOfFirst_of_le more
    have nothingNew : (lexicon.keepAll (slotsOfFirst once)).keepAll (slotsOfFirst once) =
        lexicon.keepAll (slotsOfFirst once) :=
      Lexicon.keepAll_of_knows fun _ asked => lexicon.knows_keepAll asked
    rw [isMore, Lexicon.keepAll_append, nothingNew, Lexicon.keepAll_append]

/-! ### Two lexicons in step -/

/-- A full lexicon in step with one that keeps lists only. -/
structure Tandem (full lists : Lexicon) : Prop where
  faithful : full.IsFaithful
  standard : full.reader = .standard
  bare : full.bare = lists.bare
  /-- The lists for a pattern that was read are there. -/
  settled : ∀ entry ∈ Template.rules, ∀ compiled,
    full.templates.lookup (entry.1.1, (entry.1.2 : Flags)) = some compiled →
      ∀ category ∈ entry.2.pattern.slots, full.Knows category

theorem tandem_ofShelf (shelf : Shelf) :
    Tandem (Lexicon.ofShelf shelf) (Lexicon.ofShelf shelf) where
  faithful := Lexicon.isFaithful_ofShelf shelf .standard
  standard := rfl
  bare := rfl
  settled _ _ _ known := by cases known

namespace Tandem

variable {full lists : Lexicon}

theorem vocabulary (tandem : Tandem full lists) : lists.vocabulary = full.vocabulary := by
  have sameLists : lists.bare.vocabulary = full.bare.vocabulary :=
    congrArg Lexicon.vocabulary tandem.bare.symm
  exact sameLists

/-- Both fetch a list. -/
theorem keep (tandem : Tandem full lists) (category : Category) :
    Tandem (full.keep category) (lists.keep category) where
  faithful := tandem.faithful.keep category
  standard := (congrArg Lexicon.reader (full.fresh_keep category)).trans tandem.standard
  bare := by rw [Lexicon.bare_keep, Lexicon.bare_keep, tandem.bare]
  settled entry member compiled known other isSlot := by
    have sameTemplates : (full.keep category).templates = full.templates := by
      rcases full.keep_cases category with same | ⟨list, _, _, kept⟩
      · rw [same]
      · rw [kept]
    rw [sameTemplates] at known
    exact (tandem.settled entry member compiled known other isSlot).keep category

theorem keepAll (tandem : Tandem full lists) (categories : List Category) :
    Tandem (full.keepAll categories) (lists.keepAll categories) := by
  induction categories generalizing full lists with
  | nil => exact tandem
  | cons category rest inductionHypothesis => exact inductionHypothesis (tandem.keep category)

/-- The words of a rule, as the lists give them. -/
theorem fill_eq (tandem : Tandem full lists) (rule : Rule) :
    (lists.vocabulary.fill rule).pattern =
      rule.pattern.fill fun category =>
        (full.shelf.load category).map fun list => list.pattern rule.caseless := by
  have contents : (fun category => do
      let list ← full.vocabulary.list category
      pure (list.pattern rule.caseless)) =
      fun category => (full.shelf.load category).map fun list => list.pattern rule.caseless := by
    funext category
    rw [full.list_vocabulary, tandem.faithful.read]
    cases full.shelf.load category <;> rfl
  rw [tandem.vocabulary, Vocabulary.fill, contents]

end Tandem

/-! ### One pattern -/

section

variable {full lists : Lexicon} {entry : (String × Bool) × Rule}

/-- What comes of a template at first is what the rule in its place is filled to. -/
theorem answer_compile_of_mem (tandem : Tandem full lists) (member : entry ∈ Template.rules) :
    match (lists.vocabulary.fill entry.2).pattern with
    | .error fault =>
        ((Lexicon.compile entry.1.1 entry.1.2).run.run full.fresh).1 = .error fault
    | .ok pattern => ∃ compiled,
        ((Lexicon.compile entry.1.1 entry.1.2).run.run full.fresh).1 = .ok compiled ∧
          compiled.matcher.Finds pattern := by
  rw [tandem.fill_eq, Lexicon.answer_compile_new rfl, full.answer_readTemplate_fresh,
    tandem.standard]
  cases Template.says_of_mem member with
  | plain isPlain noSlot read =>
      obtain ⟨matcher, isRead, finds⟩ := read
      have filled (contents : Category → Except LexiconFault (Pattern Empty)) :
          entry.2.pattern.fill contents = .ok (entry.2.pattern.fillAll .nothing) := by
        apply Pattern.fill_of_forall
        rw [noSlot]
        exact fun _ member => (List.not_mem_nil member).elim
      have standardRead : PatternReader.standard.read entry.1.1 entry.1.2 = .ok matcher := isRead
      rw [filled, Lexicon.run_expand_plain isPlain]
      dsimp only
      rw [standardRead]
      exact ⟨_, rfl, finds⟩
  | @slotted before behind category isTemplate plainBefore plainBehind oneSlot read =>
      have sameRead : full.fresh.read category = full.shelf.load category := rfl
      rw [Lexicon.run_expand_slotted isTemplate plainBefore plainBehind, sameRead]
      cases loaded : full.shelf.load category with
      | error fault =>
          rw [Pattern.fill_error_of_slots oneSlot (by rw [loaded]; rfl)]
          rfl
      | ok list =>
          have isSlot : category ∈ entry.2.pattern.slots := by
            rw [oneSlot]
            exact List.mem_singleton_self category
          obtain ⟨matcher, isRead, finds⟩ :=
            readPattern_of_reads (Reads.of_toList String.toList_ofList (read list))
          have standardRead : PatternReader.standard.read _ entry.1.2 = .ok matcher := isRead
          rw [Template.fill_of_loaded member isSlot loaded]
          dsimp only [Except.map]
          rw [standardRead]
          exact ⟨_, rfl, finds⟩

/-- Expanding a template fetches the lists for the rule in its place. -/
theorem expand_fetches (member : entry ∈ Template.rules) (lexicon : Lexicon) :
    ((Lexicon.expand entry.1.1).run.run lexicon).2 =
      lexicon.keepAll entry.2.pattern.slots := by
  cases Template.says_of_mem member with
  | plain isPlain noSlot read =>
      rw [Lexicon.run_expand_plain isPlain, noSlot]
      rfl
  | slotted isTemplate plainBefore plainBehind oneSlot read =>
      rw [Lexicon.run_expand_slotted isTemplate plainBefore plainBehind, oneSlot]
      rfl

/-- A rule cannot be filled only if its lists cannot be had. -/
theorem knows_of_fill_error (tandem : Tandem full lists) (member : entry ∈ Template.rules)
    {fault : LexiconFault} (failed : (lists.vocabulary.fill entry.2).pattern = .error fault) :
    ∀ category ∈ entry.2.pattern.slots, lists.Knows category := by
  rw [tandem.fill_eq] at failed
  intro category isSlot
  refine Knows.of_bare (Lexicon.knows_iff.mpr (Or.inr ?_)) tandem.bare
  cases loaded : full.shelf.load category with
  | error fault => exact ⟨fault, rfl⟩
  | ok list =>
      rw [Template.fill_of_loaded member isSlot loaded] at failed
      cases failed

namespace Tandem

/-- A pattern that is read is no news. -/
theorem withPattern (tandem : Tandem full lists) {text : String} {flags : Flags}
    {matcher : Matcher} (isRead : full.reader.read text flags = .ok matcher) :
    Tandem (full.withPattern text flags matcher) lists where
  faithful := tandem.faithful.withPattern isRead
  standard := tandem.standard
  bare := tandem.bare
  settled entry member compiled known category isSlot :=
    (tandem.settled entry member compiled known category isSlot).of_bare rfl

/-- A template is entered when its lists are there. -/
theorem withTemplate (tandem : Tandem full lists) (member : entry ∈ Template.rules)
    (knows : ∀ category ∈ entry.2.pattern.slots, full.Knows category) {compiled : Compiled}
    (isRead : ((Lexicon.readTemplate entry.1.1 entry.1.2).run.run full.fresh).1 = .ok compiled) :
    Tandem (full.withTemplate entry.1.1 entry.1.2 compiled) lists where
  faithful := tandem.faithful.withTemplate _ isRead
  standard := tandem.standard
  bare := tandem.bare
  settled other otherMember found known category isSlot := by
    refine Knows.of_bare (?_ : full.Knows category) rfl
    rcases Lexicon.lookup_concat known with old | ⟨same, -⟩
    · exact tandem.settled other otherMember found old category isSlot
    · -- The two rules have one template, and so it fetches the lists of both.
      have sameTemplate : other.1.1 = entry.1.1 := (Prod.mk.inj same).1
      have fetched : full.keepAll other.2.pattern.slots = full := by
        rw [← expand_fetches otherMember, sameTemplate, expand_fetches member]
        exact Lexicon.keepAll_of_knows knows
      have known := full.knows_keepAll isSlot
      rw [fetched] at known
      exact known

theorem readOnce (tandem : Tandem full lists) (text : String) (flags : Flags) :
    Tandem ((Lexicon.readOnce text flags).run.run full).2 lists := by
  cases known : full.patterns.lookup (text, flags) with
  | some matcher =>
      rw [Lexicon.run_readOnce_known known]
      exact tandem
  | none =>
      rw [Lexicon.run_readOnce_new known]
      cases isRead : full.reader.read text flags with
      | error breakdown => exact tandem
      | ok matcher => exact tandem.withPattern isRead

/-- Asking for the pattern of a template fetches the lists for the rule in its place. -/
theorem readTemplate (tandem : Tandem full lists) (member : entry ∈ Template.rules) :
    Tandem ((Lexicon.readTemplate entry.1.1 entry.1.2).run.run full).2
      (lists.keepAll entry.2.pattern.slots) := by
  have fetched := expand_fetches member full
  rw [Lexicon.readTemplate, Lexicon.run_bind]
  generalize (Lexicon.expand entry.1.1).run.run full = expanded at fetched ⊢
  obtain ⟨fault | written, after⟩ := expanded <;> obtain rfl : after = _ := fetched
  · exact tandem.keepAll _
  · exact (tandem.keepAll _).readOnce written entry.1.2

/-- Where the template was entered, nothing has to be fetched. -/
theorem compile (tandem : Tandem full lists) (member : entry ∈ Template.rules) :
    Tandem ((Lexicon.compile entry.1.1 entry.1.2).run.run full).2
      (lists.keepAll entry.2.pattern.slots) := by
  cases known : full.templates.lookup (entry.1.1, (entry.1.2 : Flags)) with
  | some compiled =>
      have alreadyKnown : lists.keepAll entry.2.pattern.slots = lists := by
        apply Lexicon.keepAll_of_knows
        intro category isSlot
        exact (tandem.settled entry member compiled known category isSlot).of_bare tandem.bare
      rw [Lexicon.run_compile_known known, alreadyKnown]
      exact tandem
  | none =>
      have answered := (Lexicon.steady_readTemplate entry.1.1 entry.1.2).answer tandem.faithful
      have sameFresh :=
        ((Lexicon.steady_readTemplate entry.1.1 entry.1.2).kept tandem.faithful).fresh
      have fetched := tandem.readTemplate member
      rw [Lexicon.run_compile_new known]
      generalize (Lexicon.readTemplate entry.1.1 entry.1.2).run.run full = asked
        at answered sameFresh fetched ⊢
      obtain ⟨fault | compiled, after⟩ := asked
      · exact fetched
      · refine fetched.withTemplate member ?_ ?_
        · intro category isSlot
          exact (lists.knows_keepAll isSlot).of_bare fetched.bare.symm
        · rw [sameFresh]
          exact answered.symm

end Tandem

end

/-! ### The first rule that finds something -/

/-- What a full lexicon answers for an attempt with the words of its lists.  The lists for the
rules that were tried are fetched on the way. -/
inductive Attempt.IsMatched (lists : Lexicon) :
    Attempt → Except LexiconFault (Option (WrittenRule × Found)) × Lexicon → Prop where
  | found {kind : Option TokenKind} {tried : Nat} {rule : WrittenRule} {found : Found}
      {after : Lexicon}
      (built : ∀ passed rest line,
        rule.build passed rest found line = .ok (kind.map fun kind => ⟨kind, line⟩))
      (tandem : Tandem after (lists.keepAll (slotsOfFirst tried))) :
      IsMatched lists (.found found.text kind tried) (.ok (some (rule, found)), after)
  | unknown {tried : Nat} {after : Lexicon}
      (tandem : Tandem after (lists.keepAll (slotsOfFirst tried))) :
      IsMatched lists (.unknown tried) (.ok none, after)
  | blocked {fault : LexiconFault} {tried : Nat} {after : Lexicon} {rule : Rule}
      (isRule : Rule.table[tried]? = some rule)
      (knows : ∀ category ∈ rule.pattern.slots,
        (lists.keepAll (slotsOfFirst tried)).Knows category)
      (tandem : Tandem after (lists.keepAll (slotsOfFirst tried))) :
      IsMatched lists (.blocked fault tried) (.error fault, after)

/-- Looking for a rule from some place of the table on. -/
theorem Tandem.findRule_from {lists : Lexicon} (passed rest : List Char)
    {earlier later : List ((String × Bool) × Rule)} (isSplit : Template.rules = earlier ++ later)
    {full : Lexicon} (tandem : Tandem full (lists.keepAll (slotsOfFirst earlier.length))) :
    (attempt passed.getLast? rest earlier.length
        (later.map fun entry => lists.vocabulary.fill entry.2)).IsMatched lists
      ((Lexicon.findRule passed rest (later.map Template.written)).run.run full) := by
  induction later generalizing earlier full with
  | nil => exact .unknown tandem
  | cons entry later inductionHypothesis =>
      have member : entry ∈ Template.rules := by
        rw [isSplit]
        exact List.mem_append_right earlier List.mem_cons_self
      have sameWords : (lists.keepAll (slotsOfFirst earlier.length)).vocabulary =
          lists.vocabulary := lists.vocabulary_keepAll _
      have answered := answer_compile_of_mem tandem member
      have blocked := @knows_of_fill_error _ _ _ tandem member
      have compiles := tandem.compile member
      have sameAnswer := (Lexicon.steady_compile entry.1.1 entry.1.2).answer tandem.faithful
      rw [sameWords] at answered blocked
      rw [← sameAnswer] at answered
      rw [← Lexicon.keepAll_append, ← slotsOfFirst_succ isSplit] at compiles
      rw [List.map_cons, List.map_cons, attempt, Lexicon.run_findRule_cons]
      have isWritten : (Template.written entry).template = entry.1.1 ∧
          (Template.written entry).flags = entry.1.2 := ⟨rfl, rfl⟩
      rw [isWritten.1, isWritten.2]
      generalize (Lexicon.compile entry.1.1 entry.1.2).run.run full = asked
        at answered compiles ⊢
      obtain ⟨answer, after⟩ := asked
      cases filled : (lists.vocabulary.fill entry.2).pattern with
      | error fault =>
          rw [filled] at answered
          obtain rfl : answer = .error fault := answered
          have knows := blocked filled
          have nothingNew : lists.keepAll (slotsOfFirst (earlier.length + 1)) =
              lists.keepAll (slotsOfFirst earlier.length) := by
            rw [slotsOfFirst_succ isSplit, Lexicon.keepAll_append, Lexicon.keepAll_of_knows knows]
          rw [nothingNew] at compiles
          exact .blocked (Template.get?_table isSplit) knows compiles
      | ok pattern =>
          rw [filled] at answered
          obtain ⟨compiled, isAnswer, finds⟩ := answered
          obtain rfl : answer = .ok compiled := isAnswer
          have isSplitBehind : Template.rules = (earlier ++ [entry]) ++ later := by
            rw [isSplit, List.append_assoc, List.singleton_append]
          have grown : (earlier ++ [entry]).length = earlier.length + 1 := by simp
          rw [← grown] at compiles ⊢
          have further := inductionHypothesis isSplitBehind compiles
          dsimp only
          rw [finds passed rest]
          cases pattern.match? passed.getLast? rest with
          | none => exact further
          | some found =>
              dsimp only
              split
              · exact further
              · exact .found (fun _ _ _ => rfl) compiles

/-- Looking for a rule, next to an attempt. -/
theorem Tandem.findRule {full lists : Lexicon} (tandem : Tandem full lists)
    (passed rest : List Char) :
    (attempt passed.getLast? rest 0 (Rule.table.map lists.vocabulary.fill)).IsMatched lists
      ((Lexicon.findRule passed rest WrittenRule.table).run.run full) := by
  have sameRules : Template.rules.map (fun entry => lists.vocabulary.fill entry.2) =
      Rule.table.map lists.vocabulary.fill := by
    rw [← Template.map_snd_rules, List.map_map]
    rfl
  have matched := @findRule_from lists passed rest [] Template.rules rfl full tandem
  rw [Template.map_written_rules, sameRules] at matched
  exact matched

/-! ### A whole source -/

/-- The slice of a step. -/
def Step.slice (step : Step) : Slice :=
  ⟨step.text, step.line, step.token?⟩

/-- The slices of a scan, up to its end or to the first list that cannot be had. -/
def Scan.cutting (scan : Scan) : Cutting :=
  ⟨scan.steps.map Step.slice, scan.obstacle.map fun stop => .lexicon stop.1⟩

theorem Scan.tokens_cutting (scan : Scan) :
    scan.cutting.tokens = scan.tokens.mapError Obstacle.lexicon := by
  obtain ⟨steps, obstacle⟩ := scan
  cases obstacle with
  | none => simp [Scan.cutting, Cutting.tokens, Scan.tokens, List.filterMap_map, Except.mapError,
      Function.comp_def, Step.slice]
  | some stop => rfl

theorem Scan.reach_cons (step : Step) (scan : Scan) :
    (scan.cons step).reach = max step.tried scan.reach := by
  rw [reach, reach, cons, List.map_cons, List.foldl_cons, Nat.max_comm, List.foldl_assoc]

/-- Two lexicons in step over a scan from some place on: the full lexicon cuts the same slices,
and then it is in step with the lists for all rules that were tried.  The rule that could not
be filled asked for no list that can be had. -/
structure Tandem.Ends (lists : Lexicon) (scan : Scan) (result : Cutting × Lexicon) : Prop where
  cutting : result.1 = scan.cutting
  tandem : Tandem result.2 (lists.keepAll (slotsOfFirst scan.reach))
  knows : ∀ stop rule, scan.obstacle = some stop → Rule.table[stop.2]? = some rule →
    ∀ category ∈ rule.pattern.slots,
      (lists.keepAll (slotsOfFirst scan.reach)).Knows category

/-- A step in front of a scan, with the lists for the rules tried in it. -/
theorem Tandem.Ends.cons {lists : Lexicon} {step : Step} {scan : Scan}
    {result : Cutting × Lexicon}
    (ends : Tandem.Ends (lists.keepAll (slotsOfFirst step.tried)) scan result) :
    Tandem.Ends lists (scan.cons step) (result.1.cons step.slice, result.2) where
  cutting := by
    rw [ends.cutting]
    rfl
  tandem := by
    rw [Scan.reach_cons, ← Lexicon.keepAll_first]
    exact ends.tandem
  knows stop rule := by
    rw [Scan.reach_cons, ← Lexicon.keepAll_first]
    exact ends.knows stop rule

/-- Cutting the rest of a source, next to a scan. -/
theorem Tandem.cutFrom {full lists : Lexicon} (tandem : Tandem full lists)
    (passed rest : List Char) (line : Nat) :
    Tandem.Ends lists
      (scanFrom (Rule.table.map lists.vocabulary.fill) passed.getLast? line rest)
      (Playhouse.cutFrom WrittenRule.table passed line rest full) := by
  induction passed, line, rest, full using cutFrom.induct WrittenRule.table
    generalizing lists with
  | case1 passed line full =>
      rw [Playhouse.cutFrom, scanFrom]
      exact ⟨rfl, tandem, fun stop _ stops => absurd stops.symm (Option.some_ne_none stop)⟩
  | case2 passed line full c tail fault after asked =>
      have matched := tandem.findRule passed (c :: tail)
      rw [asked] at matched
      rw [Playhouse.cutFrom, asked, scanFrom]
      generalize attempt passed.getLast? (c :: tail) 0 (Rule.table.map lists.vocabulary.fill) =
        attempted at matched ⊢
      cases matched with
      | @blocked fault tried after rule isRule knows tandem =>
          refine ⟨rfl, tandem, ?_⟩
          intro stop other stops isOther
          obtain rfl := Option.some.inj stops
          obtain rfl := Option.some.inj (isRule.symm.trans isOther)
          exact knows
  | case3 passed line full c tail after asked inductionHypothesis =>
      have matched := tandem.findRule passed (c :: tail)
      rw [asked] at matched
      rw [Playhouse.cutFrom, asked, scanFrom]
      generalize attempt passed.getLast? (c :: tail) 0 (Rule.table.map lists.vocabulary.fill) =
        attempted at matched ⊢
      cases matched with
      | @unknown tried after tandem =>
          have further := inductionHypothesis tandem
          rw [List.getLast?_concat, Lexicon.vocabulary_keepAll] at further
          exact @Tandem.Ends.cons _ ⟨[c], line, some (.other c), tried⟩ _ _ further
  | case4 passed line full c tail rule found after asked breakdown failed =>
      have matched := tandem.findRule passed (c :: tail)
      rw [asked] at matched
      generalize attempt passed.getLast? (c :: tail) 0 (Rule.table.map lists.vocabulary.fill) =
        attempted at matched
      cases matched with
      | found built tandem =>
          rw [built] at failed
          cases failed
  | case5 passed line full c tail rule found after asked token? made inductionHypothesis =>
      have matched := tandem.findRule passed (c :: tail)
      rw [asked] at matched
      rw [Playhouse.cutFrom, asked, scanFrom]
      dsimp only
      rw [made]
      generalize attempt passed.getLast? (c :: tail) 0 (Rule.table.map lists.vocabulary.fill) =
        attempted at matched ⊢
      cases matched with
      | @found kind tried rule found after built tandem =>
          have further := inductionHypothesis tandem
          rw [List.getLast?_append, Lexicon.vocabulary_keepAll] at further
          rw [built] at made
          obtain rfl := Except.ok.inj made
          exact @Tandem.Ends.cons _ ⟨found.text, line, kind, tried⟩ _ _ further

/-- The classes that a desk asks for after a scan are those of the rules that were tried; what
it asks for besides cannot be had. -/
theorem Tandem.Ends.keepAll_consulted {lists : Lexicon} {scan : Scan}
    {result : Cutting × Lexicon} (ends : Tandem.Ends lists scan result) :
    lists.keepAll (scan.consulted Rule.table) =
      lists.keepAll (slotsOfFirst scan.reach) := by
  unfold Scan.consulted
  dsimp only
  split
  · rename_i missing fault place stopped
    rw [Lexicon.keepAll_append]
    apply Lexicon.keepAll_of_knows
    intro category asked
    cases isRule : Rule.table[place]? with
    | none =>
        rw [isRule] at asked
        cases asked
    | some rule =>
        rw [isRule] at asked
        exact ends.knows _ rule stopped isRule category ((List.takeWhile_subset _ asked))
  · rfl

/-- A desk and a full lexicon that has the same lists cut a source into the same tokens, or
stop over the same fault, and then they have the same lists again. -/
theorem Tandem.tokenize {full : Lexicon} {desk : Desk} (tandem : Tandem full desk.lexicon)
    (source : String) :
    (cut WrittenRule.table source.toList full).1.tokens =
        (desk.tokenize source).1.mapError .lexicon ∧
      Tandem (cut WrittenRule.table source.toList full).2 (desk.tokenize source).2.lexicon := by
  have ends := tandem.cutFrom [] source.toList 1
  have isCut : Playhouse.cutFrom WrittenRule.table [] 1 source.toList full =
      cut WrittenRule.table source.toList full := rfl
  have isScan : scanFrom (Rule.table.map desk.lexicon.vocabulary.fill)
      ([] : List Char).getLast? 1 source.toList =
        scan Rule.table desk.lexicon.vocabulary source.toList := rfl
  rw [isCut, isScan] at ends
  constructor
  · rw [ends.cutting, Scan.tokens_cutting, Desk.tokenize_eq]
    rfl
  · rw [desk.lexicon_tokenize, ends.keepAll_consulted]
    exact ends.tandem

/-- Reading tokens asks for words only, so it leaves the two in step. -/
theorem Tandem.readTokens {full : Lexicon} {desk : Desk} (tandem : Tandem full desk.lexicon)
    (journal : List Entry) (tokens : List Token) :
    ((⟨full, journal⟩ : Desk).readTokens tokens).1 = (desk.readTokens tokens).1 ∧
      Tandem ((⟨full, journal⟩ : Desk).readTokens tokens).2.lexicon
        (desk.readTokens tokens).2.lexicon := by
  unfold Desk.readTokens
  dsimp only
  rw [Desk.lexicon_followCourse, Desk.lexicon_followCourse, tandem.vocabulary]
  exact ⟨rfl, tandem.keepAll _⟩

/-- At a desk the source of a play is understood as it is by a full lexicon that is asked for
the pattern of every rule tried, and then for the words: both have the same result, and leave
the same lists behind. -/
theorem Tandem.readSource {full : Lexicon} {desk : Desk} (tandem : Tandem full desk.lexicon)
    (journal : List Entry) (source : String) :
    match cut WrittenRule.table source.toList full with
    | (cutting, after) =>
        match cutting.tokens with
        | .error obstacle =>
            (∃ fault, obstacle = .lexicon fault ∧
              (desk.readSource source).1 = .error (.lexicon fault)) ∧
            Tandem after (desk.readSource source).2.lexicon
        | .ok tokens =>
            ((⟨after, journal⟩ : Desk).readTokens tokens).1 = (desk.readSource source).1 ∧
            Tandem ((⟨after, journal⟩ : Desk).readTokens tokens).2.lexicon
              (desk.readSource source).2.lexicon := by
  obtain ⟨sameTokens, stillTandem⟩ := tandem.tokenize source
  generalize cut WrittenRule.table source.toList full = result at sameTokens stillTandem ⊢
  obtain ⟨cutting, after⟩ := result
  unfold Desk.readSource
  generalize desk.tokenize source = found at sameTokens stillTandem ⊢
  obtain ⟨fault | tokens, behind⟩ := found
  · dsimp only at sameTokens stillTandem ⊢
    rw [sameTokens]
    exact ⟨⟨fault, rfl, rfl⟩, stillTandem⟩
  · dsimp only at sameTokens stillTandem ⊢
    rw [sameTokens]
    exact stillTandem.readTokens journal tokens

/-- Whatever a lexicon was asked before, it cuts a source into the tokens that its words
make. -/
theorem cut_agrees {lexicon : Lexicon} (faithful : lexicon.IsFaithful)
    (standard : lexicon.reader = .standard) (source : String) :
    (cut WrittenRule.table source.toList lexicon).1.tokens =
      (tokenize lexicon.vocabulary source).mapError .lexicon := by
  have isFresh : lexicon.fresh = Lexicon.ofShelf lexicon.shelf := by
    rw [Lexicon.fresh, standard]
  have sameCutting : (cut WrittenRule.table source.toList lexicon).1 =
      (cut WrittenRule.table source.toList lexicon.fresh).1 :=
    cutFrom_agree faithful lexicon.isFaithful_fresh rfl
  have sameWords : lexicon.fresh.vocabulary = lexicon.vocabulary := by
    unfold Lexicon.vocabulary
    simp only [faithful.read, lexicon.isFaithful_fresh.read]
    rfl
  have tandem : Tandem lexicon.fresh (⟨lexicon.fresh, []⟩ : Desk).lexicon := by
    rw [isFresh]
    exact tandem_ofShelf lexicon.shelf
  rw [sameCutting, (tandem.tokenize source).1, Desk.tokenize_eq, sameWords]

end Playhouse

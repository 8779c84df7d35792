/-
Module: Playhouse.Proofs.Contiguity
Purpose: Cutting loses nothing and invents nothing: the slices laid end to end are the source,
  up to the place where a rule goes wrong, and a table of sound rules comes to the end.
Main exports: WrittenRule.IsSound, WrittenRule.isSound_of_mem_table, Cuts.inLineOrder,
  cutting_loses_nothing
-/
import Playhouse.Proofs.Agreement
import Playhouse.Proofs.Coverage

namespace Playhouse

open Lexicon (findRule)

/-! ### Rules that do their part -/

/-- A rule that can be relied on: its template has a pattern, and whatever the pattern finds,
the rule makes at most one token of it, on the line that it was told. -/
structure WrittenRule.IsSound (lexicon : Lexicon) (rule : WrittenRule) : Prop where
  reads : ∃ compiled,
    ((Lexicon.compile rule.template rule.flags).run.run lexicon).1 = .ok compiled
  builds : ∀ passed rest found line, ∃ token?, rule.build passed rest found line = .ok token?
  numbers : ∀ passed rest found line token,
    rule.build passed rest found line = .ok (some token) → token.line = line

/-- A rule of the table that is filled has a pattern where it stands in writing. -/
theorem Template.isSound_written {shelf : Shelf} {entry : (String × Bool) × Rule}
    (member : entry ∈ Template.rules) {pattern : Pattern Empty}
    (filled : ((Lexicon.ofShelf shelf).vocabulary.fill entry.2).pattern = .ok pattern) :
    (Template.written entry).IsSound (Lexicon.ofShelf shelf) where
  reads := by
    have answered := answer_compile_of_mem (tandem_ofShelf shelf) member
    rw [filled] at answered
    obtain ⟨compiled, isAnswer, -⟩ := answered
    exact ⟨compiled, isAnswer⟩
  builds _ _ _ _ := ⟨_, rfl⟩
  numbers passed rest found line token built := by
    obtain ⟨kind, -, rfl⟩ := Option.map_eq_some_iff.mp (Except.ok.inj built)
    rfl

/-- Where all lists can be had, every rule of the table in writing is sound. -/
theorem WrittenRule.isSound_of_mem_table {shelf : Shelf}
    (had : ∀ category, ∃ list, shelf.load category = .ok list) :
    ∀ rule ∈ WrittenRule.table, rule.IsSound (Lexicon.ofShelf shelf) := by
  intro rule member
  rw [← Template.map_written_rules] at member
  obtain ⟨entry, isEntry, rfl⟩ := List.mem_map.mp member
  have contents (category : Category) : ∃ pattern,
      ((shelf.load category).map fun list => list.pattern entry.2.caseless) = .ok pattern := by
    obtain ⟨list, loaded⟩ := had category
    exact ⟨_, by rw [loaded]; rfl⟩
  obtain ⟨pattern, filled⟩ := Pattern.exists_fill contents entry.2.pattern
  refine @Template.isSound_written shelf entry isEntry pattern ?_
  rw [(tandem_ofShelf shelf).fill_eq]
  exact filled

section

variable {table : List WrittenRule} {lexicon : Lexicon} {passed rest : List Char}
  {cutting : Cutting}

/-- The rule behind a slice is one of the table. -/
theorem mem_of_findRule {rule : WrittenRule} {found : Found}
    (first : ((findRule passed rest table).run.run lexicon).1 = .ok (some (rule, found))) :
    rule ∈ table := by
  have asked : (findRule passed rest table).run.run lexicon =
      (.ok (some (rule, found)), ((findRule passed rest table).run.run lexicon).2) :=
    Prod.ext first rfl
  exact (Lexicon.found_of_findRule asked).1

/-- Sound rules tell the line where a slice starts. -/
theorem Slice.Takes.line_eq (sound : ∀ rule ∈ table, rule.IsSound lexicon) {slice : Slice}
    (takes : slice.Takes table lexicon passed rest) {token : Token}
    (isToken : slice.token? = some token) : token.line = slice.line := by
  cases takes with
  | found first text built =>
      rw [isToken] at built
      exact (sound _ (mem_of_findRule first)).numbers _ _ _ _ _ built
  | unknown first text made =>
      rw [isToken] at made
      obtain rfl := Option.some.inj made
      rfl

/-- Nothing stops a cutting with sound rules. -/
theorem Obstacle.Blocks.false (faithful : lexicon.IsFaithful)
    (sound : ∀ rule ∈ table, rule.IsSound lexicon.fresh) {obstacle : Obstacle}
    (blocks : obstacle.Blocks table lexicon passed rest) : False := by
  cases blocks with
  | lexicon failed =>
      exact Lexicon.findRule_ne_error faithful (fun rule member => (sound rule member).reads) _
        failed
  | builder first failed =>
      obtain ⟨token?, built⟩ := (sound _ (mem_of_findRule first)).builds _ _ _ _
      cases failed.symm.trans built

/-- The slices behind some text start on its last line or further down. -/
theorem Cuts.le_line (cuts : Cuts table lexicon passed rest cutting) :
    ∀ slice ∈ cutting.slices, 1 + countNewlines passed ≤ slice.line := by
  induction cuts with
  | finished | stopped isLeft blocks => exact fun _ member => nomatch member
  | cut isRest nonempty line takes cuts inductionHypothesis =>
      intro slice member
      rcases List.mem_cons.mp member with rfl | further
      · exact Nat.le_of_eq line.symm
      · have below := inductionHypothesis slice further
        rw [countNewlines_append] at below
        omega

/-- The lines of slices never go back. -/
theorem Cuts.forward (cuts : Cuts table lexicon passed rest cutting) :
    cutting.slices.Pairwise fun slice later => slice.line ≤ later.line := by
  induction cuts with
  | finished | stopped isLeft blocks => exact .nil
  | cut isRest nonempty line takes cuts inductionHypothesis =>
      refine .cons ?_ inductionHypothesis
      intro later member
      have below := cuts.le_line later member
      rw [countNewlines_append] at below
      omega

/-- One slice among the others: where it starts, and what it takes there. -/
theorem Cuts.takes (cuts : Cuts table lexicon passed rest cutting) {earlier later : List Slice}
    {slice : Slice} (isSplit : cutting.slices = earlier ++ slice :: later) :
    slice.text ≠ [] ∧
      slice.line = 1 + countNewlines (passed ++ earlier.flatMap Slice.text) ∧
      ∃ left, rest = earlier.flatMap Slice.text ++ (slice.text ++ left) ∧
        slice.Takes table lexicon (passed ++ earlier.flatMap Slice.text)
          (slice.text ++ left) := by
  obtain ⟨here, isRest, cutsHere⟩ := cuts.drop isSplit
  generalize isFurther : (⟨slice :: later, cutting.obstacle⟩ : Cutting) = others at cutsHere
  cases cutsHere with
  | finished | stopped isLeft blocks => cases isFurther
  | @cut _ _ left _ further isHere nonempty line takes cuts =>
      obtain ⟨rfl, -⟩ := List.cons.inj (congrArg Cutting.slices isFurther)
      rw [isHere] at isRest takes
      exact ⟨nonempty, line, left, isRest, takes⟩

/-- Tokens stand where their slices do, so that their lines never go back either. -/
theorem Cuts.inLineOrder (cuts : Cuts table lexicon passed rest cutting)
    (numbered : ∀ slice ∈ cutting.slices, ∀ token, slice.token? = some token →
      token.line = slice.line) : InLineOrder (cutting.slices.filterMap Slice.token?) := by
  rw [InLineOrder, List.pairwise_filterMap]
  refine cuts.forward.imp_of_mem ?_
  intro slice later member isLater ordered token isToken laterToken isLaterToken
  rw [numbered slice member token isToken, numbered later isLater laterToken isLaterToken]
  exact ordered

end

/-- Cutting a source with any table of rules, through a lexicon that was asked anything before.

The slices, none of them empty, are laid end to end, and nothing of the source is left behind
them unless the cutting was stopped: because no rule could be found, some template having no
pattern, or because the rule that was found broke down.  Every slice takes what the first rule
that finds something there finds, or else a single character; at most one token is made of it,
by the rule itself, which is told the line on which the slice starts.

If the rules are sound, nothing stops the cutting, the slices are the source, and every token
bears the line on which its slice starts, so that lines never go back.  The rules of the language
are sound wherever all lists can be had. -/
theorem cutting_loses_nothing (reader : PatternReader) (shelf : Shelf)
    (inquiries : List Lexicon.Inquiry) (table : List WrittenRule) (source : List Char) :
    let fresh := Lexicon.ofShelf shelf reader
    let cutting := (cut table source (fresh.askAll inquiries).2).1
    (∃ behind, source = cutting.slices.flatMap Slice.text ++ behind ∧
      (cutting.obstacle = none ↔ behind = []) ∧
      ∀ obstacle, cutting.obstacle = some obstacle →
        obstacle.Blocks table fresh (cutting.slices.flatMap Slice.text) behind) ∧
    (∀ earlier slice later, cutting.slices = earlier ++ slice :: later →
      slice.text ≠ [] ∧ slice.line = 1 + countNewlines (earlier.flatMap Slice.text) ∧
      ∃ left, source = earlier.flatMap Slice.text ++ (slice.text ++ left) ∧
        slice.Takes table fresh (earlier.flatMap Slice.text) (slice.text ++ left)) ∧
    ((∀ rule ∈ table, rule.IsSound fresh) →
      cutting.tokens = .ok (cutting.slices.filterMap Slice.token?) ∧
      cutting.slices.flatMap Slice.text = source ∧
      (∀ earlier slice later token, cutting.slices = earlier ++ slice :: later →
        slice.token? = some token →
          token.line = 1 + countNewlines (earlier.flatMap Slice.text)) ∧
      InLineOrder (cutting.slices.filterMap Slice.token?)) ∧
    (reader = .standard → (∀ category, ∃ list, shelf.load category = .ok list) →
      ∀ rule ∈ WrittenRule.table, rule.IsSound fresh) := by
  intro fresh cutting
  have faithful : fresh.IsFaithful := Lexicon.isFaithful_ofShelf shelf reader
  obtain ⟨_, kept⟩ := Lexicon.askAll_faithful faithful inquiries
  obtain ⟨cuts, _⟩ := @cutFrom_cuts table _ [] source kept.faithful 1 rfl
  rw [kept.fresh] at cuts
  have isCut : Cuts table fresh [] source cutting := cuts
  obtain ⟨behind, isSource, finished, blocks⟩ := isCut.text_eq
  rw [List.nil_append] at blocks
  have placed {earlier later : List Slice} {slice : Slice}
      (isSplit : cutting.slices = earlier ++ slice :: later) := isCut.takes isSplit
  simp only [List.nil_append] at placed
  refine ⟨⟨behind, isSource, finished, blocks⟩, fun _ _ _ isSplit => placed isSplit, ?_, ?_⟩
  · intro sound
    have unstopped : cutting.obstacle = none := by
      cases stopped : cutting.obstacle with
      | none => rfl
      | some obstacle => exact (Obstacle.Blocks.false faithful sound (blocks _ stopped)).elim
    obtain rfl := finished.mp unstopped
    have numbered : ∀ slice ∈ cutting.slices, ∀ token, slice.token? = some token →
        token.line = slice.line := by
      intro slice member token isToken
      obtain ⟨earlier, later, isSplit⟩ := List.append_of_mem member
      obtain ⟨_, _, left, _, takes⟩ := placed isSplit
      exact takes.line_eq sound isToken
    refine ⟨?_, ?_, ?_, isCut.inLineOrder numbered⟩
    · rw [Cutting.tokens, unstopped]
    · rw [List.append_nil] at isSource
      exact isSource.symm
    · intro earlier slice later token isSplit isToken
      have member : slice ∈ cutting.slices := by
        rw [isSplit]
        exact List.mem_append_right earlier List.mem_cons_self
      rw [numbered slice member token isToken, (placed isSplit).2.1]
  · rintro rfl had
    exact WrittenRule.isSound_of_mem_table had

/-- A directory of lists without words. -/
def emptyLists : Shelf :=
  .directory "lists" fun _ => .ok ""

/-- A lexicon of such lists that was asked for a pattern in vain, and for a list. -/
def emptyLexicon : Lexicon :=
  ((Lexicon.ofShelf emptyLists).askAll [.compile "(<be>" true, .words .be]).2

/-- Without any words, a rule for a class finds empty stretches only, and they are passed over:
"Recall", over two lines, then a word and a character of no kind on the third line. -/
theorem cutting_loses_nothing_recalled :
    (cut WrittenRule.table "Recall\n us!\nso @".toList emptyLexicon).1.tokens =
      .ok [⟨.popStack, 1⟩, ⟨.lexeme (.other "so"), 3⟩, ⟨.other '@', 3⟩] ∧
    (cut WrittenRule.table "Recall\n us!\nso @".toList emptyLexicon).1.slices.flatMap
      Slice.text = "Recall\n us!\nso @".toList := by
  have isWordless : emptyLexicon =
      ((Lexicon.ofShelf emptyLists).askAll [.compile "(<be>" true, .words .be]).2 := rfl
  have general := cutting_loses_nothing .standard emptyLists [.compile "(<be>" true, .words .be]
    WrittenRule.table "Recall\n us!\nso @".toList
  dsimp only at general
  rw [← isWordless] at general
  obtain ⟨_, _, whole, standardTable⟩ := general
  have sound := standardTable rfl fun category => ⟨_, rfl⟩
  refine ⟨?_, (whole sound).2.1⟩
  have kept := (Lexicon.askAll_faithful (Lexicon.isFaithful_ofShelf emptyLists .standard)
    [.compile "(<be>" true, .words .be]).2
  have sameTokens := cut_agrees kept.faithful (congrArg Lexicon.reader kept.fresh)
    "Recall\n us!\nso @"
  rw [← isWordless] at sameTokens
  rw [sameTokens]
  have cutTokens : (tokenize emptyLexicon.vocabulary "Recall\n us!\nso @").toOption =
      some [⟨.popStack, 1⟩, ⟨.lexeme (.other "so"), 3⟩, ⟨.other '@', 3⟩] := by decide +kernel
  rw [Consulting.eq_ok_of_toOption cutTokens]
  rfl

/-- A table with a misspelt class. -/
def misspeltTable : List WrittenRule :=
  [⟨"<nonsense>", false, fun _ _ _ _ => .ok none⟩]

/-- A table whose rule gives every letter the line on which the source starts. -/
def oneLineTable : List WrittenRule :=
  [⟨"[a-z]", false, fun _ _ found _ =>
    .ok (some ⟨.lexeme (.other (String.ofList found.text)), 1⟩)⟩]

/-- Whether a source is cut as a whole, and each token on the right line, hangs on the table,
though all lists are there: one of these tables stops at once, and the other one takes the second
line for the first. -/
theorem unsound_tables_go_wrong :
    (∀ category, ∃ list, Shelf.bundled.load category = .ok list) ∧
    (cut misspeltTable ['a'] (Lexicon.ofShelf .bundled)).1 =
      ⟨[], some (.lexicon (.unknownCategory "nonsense"))⟩ ∧
    (cut oneLineTable ['a', '\n', 'b'] (Lexicon.ofShelf .bundled)).1.slices =
      [⟨['a'], 1, some ⟨.lexeme (.other "a"), 1⟩⟩, ⟨['\n'], 1, some ⟨.other '\n', 1⟩⟩,
        ⟨['b'], 2, some ⟨.lexeme (.other "b"), 1⟩⟩] :=
  ⟨fun _ => ⟨_, rfl⟩, by decide +kernel, by decide +kernel⟩

end Playhouse

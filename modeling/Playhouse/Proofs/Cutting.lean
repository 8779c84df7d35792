/-
Module: Playhouse.Proofs.Cutting
Purpose: Cutting loses nothing and invents nothing, whatever the rules are: the slices are the
  source up to the first obstacle, and every rule is told the line on which its slice starts.
Main exports: Lexicon.steady_findRule, Slice.Takes, Obstacle.Blocks, Cuts, cutFrom_cuts,
  cutFrom_agree, Cuts.text_eq, Cuts.drop
-/
import Playhouse.Proofs.Faithfulness
import Playhouse.Proofs.TokenLines
import Playhouse.Token.Cutting

namespace Playhouse

/-!
A table of rules may be wrong in many ways: a template may ask for a class that does not exist
or not be well written, and what makes the tokens may break down or forget the line it was
told.  The cutting itself never errs.  Where it stands is known from what it has passed, every
step moves it over a slice that is not empty, and what it asks the lexicon has the answer that
a lexicon gives from which nothing was taken.
-/

open Lexicon (findRule IsFaithful IsKept Steady)

/-! ### The first rule that finds something -/

/-- Looking for a rule is a steady question. -/
theorem Lexicon.steady_findRule (passed rest : List Char) (rules : List WrittenRule) :
    Steady (findRule passed rest rules) := by
  induction rules with
  | nil => exact steady_pure none
  | cons rule rules inductionHypothesis =>
      apply (steady_compile rule.template rule.flags).bind
      intro compiled
      split
      · split
        · exact inductionHypothesis
        · exact steady_pure _
      · exact inductionHypothesis

section

variable {passed rest : List Char} {rule : WrittenRule} {rules : List WrittenRule} {found : Found}
  {lexicon : Lexicon}

/-- What comes of the first of some rules. -/
theorem Lexicon.run_findRule_cons :
    (findRule passed rest (rule :: rules)).run.run lexicon =
      match (compile rule.template rule.flags).run.run lexicon with
      | (.error fault, after) => (.error fault, after)
      | (.ok compiled, after) =>
          match compiled.matcher.find passed rest with
          | some found =>
              if found.text.isEmpty then (findRule passed rest rules).run.run after
              else (.ok (some (rule, found)), after)
          | none => (findRule passed rest rules).run.run after := by
  rw [findRule, run_bind]
  rcases (compile rule.template rule.flags).run.run lexicon with ⟨fault | compiled, after⟩
  · rfl
  · dsimp only
    cases compiled.matcher.find passed rest with
    | none => rfl
    | some found =>
        dsimp only
        split <;> rfl

/-- It finds a stretch at the place where the rules are tried, and not an empty one. -/
theorem Lexicon.found_of_findRule {after : Lexicon}
    (first : (findRule passed rest rules).run.run lexicon = (.ok (some (rule, found)), after)) :
    rule ∈ rules ∧ found.text <+: rest ∧ found.text ≠ [] := by
  induction rules generalizing lexicon with
  | nil => cases first
  | cons tried rules inductionHypothesis =>
      have further {lexicon : Lexicon}
          (first : (findRule passed rest rules).run.run lexicon =
            (.ok (some (rule, found)), after)) :
          rule ∈ tried :: rules ∧ found.text <+: rest ∧ found.text ≠ [] := by
        obtain ⟨member, others⟩ := inductionHypothesis first
        exact ⟨List.mem_cons_of_mem tried member, others⟩
      rw [run_findRule_cons] at first
      split at first
      · cases first
      · split at first
        · rename_i isFound
          split at first
          · exact further first
          · rename_i nonempty
            cases first
            exact ⟨List.mem_cons_self, Matcher.begins _ isFound, by simpa using nonempty⟩
        · exact further first

/-- Where all rules have a pattern, looking for one does not fail. -/
theorem Lexicon.findRule_ne_error (faithful : lexicon.IsFaithful)
    (read : ∀ rule ∈ rules, ∃ compiled,
      ((compile rule.template rule.flags).run.run lexicon.fresh).1 = .ok compiled)
    (fault : LexiconFault) : ((findRule passed rest rules).run.run lexicon).1 ≠ .error fault := by
  induction rules generalizing lexicon with
  | nil => exact fun failed => by cases failed
  | cons rule rules inductionHypothesis =>
      obtain ⟨compiled, isRead⟩ := read rule List.mem_cons_self
      rw [← (steady_compile rule.template rule.flags).answer faithful] at isRead
      have kept := (steady_compile rule.template rule.flags).kept faithful
      rw [run_findRule_cons]
      generalize (compile rule.template rule.flags).run.run lexicon = asked at isRead kept ⊢
      obtain ⟨answer, after⟩ := asked
      obtain rfl : answer = .ok compiled := isRead
      have further := @inductionHypothesis after kept.faithful fun other member => by
        rw [kept.fresh]
        exact read other (List.mem_cons_of_mem rule member)
      dsimp only
      split
      · split
        · exact further
        · exact fun failed => by cases failed
      · exact further

end

/-! ### Slices laid end to end -/

/-- What a slice takes behind the characters passed: the first stretch that a rule finds there,
with the token that the rule makes of it, or else a single character. -/
inductive Slice.Takes (table : List WrittenRule) (lexicon : Lexicon) (passed rest : List Char)
    (slice : Slice) : Prop where
  | found {rule : WrittenRule} {found : Found}
      (first : ((findRule passed rest table).run.run lexicon).1 = .ok (some (rule, found)))
      (text : slice.text = found.text)
      (token : rule.build passed rest found slice.line = .ok slice.token?)
  | unknown {c : Char} (first : ((findRule passed rest table).run.run lexicon).1 = .ok none)
      (text : slice.text = [c]) (token : slice.token? = some ⟨.other c, slice.line⟩)

/-- What stops a cutting behind the characters passed: no rule can be found, or the rule that
is found breaks down over its stretch. -/
inductive Obstacle.Blocks (table : List WrittenRule) (lexicon : Lexicon)
    (passed rest : List Char) : Obstacle → Prop where
  | lexicon {fault : LexiconFault}
      (failed : ((findRule passed rest table).run.run lexicon).1 = .error fault) :
      Blocks table lexicon passed rest (.lexicon fault)
  | builder {rule : WrittenRule} {found : Found} {breakdown : Breakdown}
      (first : ((findRule passed rest table).run.run lexicon).1 = .ok (some (rule, found)))
      (failed : rule.build passed rest found (1 + countNewlines passed) = .error breakdown) :
      Blocks table lexicon passed rest (.builder breakdown)

/-- The cutting of the rest of a source behind the characters passed. -/
inductive Cuts (table : List WrittenRule) (lexicon : Lexicon) :
    List Char → List Char → Cutting → Prop where
  | finished {passed : List Char} : Cuts table lexicon passed [] ⟨[], none⟩
  | stopped {passed rest : List Char} {obstacle : Obstacle} (isLeft : rest ≠ [])
      (blocks : obstacle.Blocks table lexicon passed rest) :
      Cuts table lexicon passed rest ⟨[], some obstacle⟩
  | cut {passed rest behind : List Char} {slice : Slice} {further : Cutting}
      (isRest : rest = slice.text ++ behind) (nonempty : slice.text ≠ [])
      (line : slice.line = 1 + countNewlines passed)
      (takes : slice.Takes table lexicon passed rest)
      (cuts : Cuts table lexicon (passed ++ slice.text) behind further) :
      Cuts table lexicon passed rest (further.cons slice)

section

variable {table : List WrittenRule} {lexicon : Lexicon} {passed rest : List Char}

/-- A cutting goes on right behind a stretch that is not empty. -/
theorem append_drop_of_begins {c : Char} {tail text : List Char} (isPrefix : text <+: c :: tail)
    (nonempty : text ≠ []) : c :: tail = text ++ tail.drop (text.length - 1) := by
  obtain ⟨behind, isRest⟩ := isPrefix
  cases text with
  | nil => exact absurd rfl nonempty
  | cons first others =>
      obtain ⟨rfl, rfl⟩ := List.cons.inj isRest
      simp

/-- Every step of a cutting takes a slice or meets an obstacle, and the lexicon stays what it
was. -/
theorem cutFrom_cuts (faithful : lexicon.IsFaithful) {line : Nat}
    (isLine : line = 1 + countNewlines passed) :
    Cuts table lexicon.fresh passed rest (cutFrom table passed line rest lexicon).1 ∧
      lexicon.IsKept (cutFrom table passed line rest lexicon).2 := by
  induction passed, line, rest, lexicon using cutFrom.induct table with
  | case1 passed line lexicon =>
      rw [cutFrom]
      exact ⟨.finished, faithful.isKept⟩
  | case2 passed line lexicon c tail fault after asked =>
      obtain ⟨failed, kept⟩ := (Lexicon.steady_findRule _ _ table).of_run faithful asked
      rw [cutFrom, asked]
      exact ⟨.stopped (List.cons_ne_nil c tail) (.lexicon failed), kept⟩
  | case3 passed line lexicon c tail after asked inductionHypothesis =>
      obtain ⟨first, kept⟩ := (Lexicon.steady_findRule _ _ table).of_run faithful asked
      subst isLine
      have counted : 1 + countNewlines passed + countNewlines [c] =
          1 + countNewlines (passed ++ [c]) := by rw [countNewlines_append, Nat.add_assoc]
      obtain ⟨further, keptFurther⟩ := inductionHypothesis kept.faithful counted
      rw [kept.fresh] at further
      rw [cutFrom, asked]
      refine ⟨?_, kept.trans keptFurther⟩
      exact .cut rfl (List.cons_ne_nil c []) rfl (.unknown first rfl rfl) further
  | case4 passed line lexicon c tail rule found after asked breakdown failed =>
      obtain ⟨first, kept⟩ := (Lexicon.steady_findRule _ _ table).of_run faithful asked
      subst isLine
      rw [cutFrom, asked]
      dsimp only
      rw [failed]
      exact ⟨.stopped (List.cons_ne_nil c tail) (.builder first failed), kept⟩
  | case5 passed line lexicon c tail rule found after asked token? built inductionHypothesis =>
      obtain ⟨first, kept⟩ := (Lexicon.steady_findRule _ _ table).of_run faithful asked
      obtain ⟨-, isPrefix, nonempty⟩ := Lexicon.found_of_findRule asked
      subst isLine
      have counted : 1 + countNewlines passed + countNewlines found.text =
          1 + countNewlines (passed ++ found.text) := by rw [countNewlines_append, Nat.add_assoc]
      obtain ⟨further, keptFurther⟩ := inductionHypothesis kept.faithful counted
      rw [kept.fresh] at further
      rw [cutFrom, asked]
      dsimp only
      rw [built]
      refine ⟨?_, kept.trans keptFurther⟩
      exact .cut (append_drop_of_begins isPrefix nonempty) nonempty rfl (.found first rfl built) further

/-- Two faithful lexicons over one shelf, with one reader, cut alike. -/
theorem cutFrom_agree {other : Lexicon} (faithful : lexicon.IsFaithful)
    (otherFaithful : other.IsFaithful) (sameFresh : lexicon.fresh = other.fresh) {line : Nat} :
    (cutFrom table passed line rest lexicon).1 = (cutFrom table passed line rest other).1 := by
  induction passed, line, rest, lexicon using cutFrom.induct table generalizing other with
  | case1 passed line lexicon => rw [cutFrom, cutFrom]
  | case2 passed line lexicon c tail fault after asked =>
      obtain ⟨otherAfter, otherAsked, _⟩ :=
        (Lexicon.steady_findRule _ _ table).run_agree faithful otherFaithful sameFresh asked
      rw [cutFrom, cutFrom, asked, otherAsked]
  | case3 passed line lexicon c tail after asked inductionHypothesis =>
      obtain ⟨otherAfter, otherAsked, kept, otherKept, sameAfter⟩ :=
        (Lexicon.steady_findRule _ _ table).run_agree faithful otherFaithful sameFresh asked
      rw [cutFrom, cutFrom, asked, otherAsked]
      exact congrArg (Cutting.cons _) (inductionHypothesis kept otherKept sameAfter)
  | case4 passed line lexicon c tail rule found after asked breakdown failed =>
      obtain ⟨otherAfter, otherAsked, _⟩ :=
        (Lexicon.steady_findRule _ _ table).run_agree faithful otherFaithful sameFresh asked
      rw [cutFrom, cutFrom, asked, otherAsked]
      dsimp only
      rw [failed]
  | case5 passed line lexicon c tail rule found after asked token? built inductionHypothesis =>
      obtain ⟨otherAfter, otherAsked, kept, otherKept, sameAfter⟩ :=
        (Lexicon.steady_findRule _ _ table).run_agree faithful otherFaithful sameFresh asked
      rw [cutFrom, cutFrom, asked, otherAsked]
      dsimp only
      rw [built]
      exact congrArg (Cutting.cons _) (inductionHypothesis kept otherKept sameAfter)

/-- The slices of a cutting with the text in front of the obstacle, if there is one, are all that
was left. -/
theorem Cuts.text_eq {cutting : Cutting} (cuts : Cuts table lexicon passed rest cutting) :
    ∃ behind, rest = cutting.slices.flatMap Slice.text ++ behind ∧
      (cutting.obstacle = none ↔ behind = []) ∧
      ∀ obstacle, cutting.obstacle = some obstacle →
        obstacle.Blocks table lexicon (passed ++ cutting.slices.flatMap Slice.text) behind := by
  induction cuts with
  | finished => exact ⟨[], rfl, ⟨fun _ => rfl, fun _ => rfl⟩, fun _ stops => nomatch stops⟩
  | @stopped passed rest obstacle isLeft blocks =>
      refine ⟨rest, rfl, ⟨fun none => (nomatch none), fun isEnd => absurd isEnd isLeft⟩, ?_⟩
      intro obstacle stops
      cases stops
      rw [List.flatMap_nil, List.append_nil]
      exact blocks
  | cut isRest nonempty line takes cuts inductionHypothesis =>
      obtain ⟨behind, isBehind, finished, stops⟩ := inductionHypothesis
      refine ⟨behind, ?_, finished, ?_⟩
      · rw [isRest, Cutting.cons, List.flatMap_cons, List.append_assoc, ← isBehind]
      · rw [Cutting.cons, List.flatMap_cons, ← List.append_assoc]
        exact stops

/-- Behind the first slices of a cutting the others are cut from what is left. -/
theorem Cuts.drop {cutting : Cutting} (cuts : Cuts table lexicon passed rest cutting)
    {earlier later : List Slice} (isSplit : cutting.slices = earlier ++ later) :
    ∃ left, rest = earlier.flatMap Slice.text ++ left ∧
      Cuts table lexicon (passed ++ earlier.flatMap Slice.text) left ⟨later, cutting.obstacle⟩ := by
  induction earlier generalizing passed rest cutting with
  | nil =>
      refine ⟨rest, rfl, ?_⟩
      rw [List.flatMap_nil, List.append_nil]
      obtain ⟨slices, obstacle⟩ := cutting
      obtain rfl : slices = later := isSplit
      exact cuts
  | cons first earlier inductionHypothesis =>
      cases cuts with
      | finished => cases isSplit
      | stopped isLeft blocks => cases isSplit
      | cut isRest nonempty line takes cuts =>
          obtain ⟨rfl, isSplitBehind⟩ := List.cons.inj isSplit
          obtain ⟨left, isBehind, cutsLeft⟩ := inductionHypothesis cuts isSplitBehind
          refine ⟨left, ?_, ?_⟩
          · rw [isRest, List.flatMap_cons, List.append_assoc, ← isBehind]
          · rw [List.flatMap_cons, ← List.append_assoc]
            exact cutsLeft

end

end Playhouse

/-
Module: Playhouse.Proofs.Brackets
Purpose: A text in brackets is taken apart in one way only, whatever stands behind it.
Main exports: Text.isDivider, Text.IsPlain, Text.comesOut, Text.IsPart, Text.append_inj_of_comesOut,
  Text.called, Text.isPart_called, Text.called_inj
-/
import Playhouse.Proofs.Words

namespace Playhouse.Text

/-!
A label, a bracket, some parts with commas between them and a closing bracket: the parts may hold
texts of the same shape.  A part ends at the first comma or closing bracket that is in no bracket
opened within it, so that the parts are told apart by counting how deep a character stands.
-/

/-! ### Plain text -/

/-- The characters that hold such a text together. -/
def isDivider (c : Char) : Bool :=
  c == ',' || c == '(' || c == ')'

/-- Text that holds none of them. -/
def IsPlain (text : List Char) : Prop :=
  ∀ c ∈ text, isDivider c = false

-- Not over all characters there are, but over those of the text.
instance (text : List Char) : Decidable (IsPlain text) :=
  List.decidableBAll (fun c => isDivider c = false) text

theorem IsPlain.append {first second : List Char} (plain : IsPlain first)
    (alsoPlain : IsPlain second) : IsPlain (first ++ second) :=
  List.forall_mem_append.mpr ⟨plain, alsoPlain⟩

/-! ### Parts -/

/-- How deep in brackets the text behind a character stands. -/
def depthAfter (depth : Nat) (c : Char) : Nat :=
  if c = '(' then depth + 1 else if c = ')' then depth - 1 else depth

/-- Whether a text that begins at a depth ends outside of all brackets, and has neither a comma nor
a closing bracket there. -/
def comesOut (depth : Nat) : List Char → Bool
  | [] => depth == 0
  | c :: rest => (depth != 0 || (c != ',' && c != ')')) && comesOut (depthAfter depth c) rest

/-- A text that can be a part of another one in brackets. -/
def IsPart (text : List Char) : Prop :=
  comesOut 0 text

theorem comesOut_cons_iff {depth : Nat} {c : Char} {rest : List Char} :
    comesOut depth (c :: rest) ↔
      (depth = 0 → c ≠ ',' ∧ c ≠ ')') ∧ comesOut (depthAfter depth c) rest := by
  simp only [comesOut, Bool.and_eq_true, Bool.or_eq_true, bne_iff_ne]
  constructor
  · rintro ⟨inside | allowed, further⟩
    · exact ⟨fun outside => absurd outside inside, further⟩
    · exact ⟨fun _ => allowed, further⟩
  · rintro ⟨allowed, further⟩
    by_cases outside : depth = 0
    · exact ⟨Or.inr (allowed outside), further⟩
    · exact ⟨Or.inl outside, further⟩

/-- Behind a text that comes out, one is as deep as before it. -/
theorem comesOut_append {depth : Nat} {text : List Char} (out : comesOut depth text) (more : Nat)
    (rest : List Char) : comesOut (depth + more) (text ++ rest) = comesOut more rest := by
  induction text generalizing depth with
  | nil =>
      have outside : depth = 0 := by simpa [comesOut] using out
      rw [outside, Nat.zero_add, List.nil_append]
  | cons c text inductionHypothesis =>
      obtain ⟨allowed, further⟩ := comesOut_cons_iff.mp out
      have deeper : depthAfter (depth + more) c = depthAfter depth c + more := by
        unfold depthAfter
        split
        · omega
        · split
          · rename_i closes
            have inside : depth ≠ 0 := fun outside => (allowed outside).2 closes
            omega
          · rfl
      rw [← inductionHypothesis further, ← deeper, Bool.eq_iff_iff, List.cons_append,
        comesOut_cons_iff]
      constructor
      · exact And.right
      · exact fun furtherMore => ⟨fun outside => allowed (by omega), furtherMore⟩

theorem IsPart.append {first second : List Char} (isPart : IsPart first)
    (alsoPart : IsPart second) : IsPart (first ++ second) :=
  (comesOut_append isPart 0 second).trans alsoPart

theorem IsPlain.isPart {text : List Char} (plain : IsPlain text) : IsPart text := by
  induction text with
  | nil => rfl
  | cons c rest inductionHypothesis =>
      obtain ⟨noDivider, others⟩ := List.forall_mem_cons.mp plain
      simp only [isDivider, Bool.or_eq_false_iff, beq_eq_false_iff_ne] at noDivider
      have outside : depthAfter 0 c = 0 := by
        rw [depthAfter, if_neg noDivider.1.2, if_neg noDivider.2]
      refine comesOut_cons_iff.mpr ⟨fun _ => ⟨noDivider.1.1, noDivider.2⟩, ?_⟩
      rw [outside]
      exact inductionHypothesis others

/-- Where a text that comes out ends, at a comma or a closing bracket, is told from the text. -/
theorem append_inj_of_comesOut {depth : Nat} {text other rest behind : List Char} {c d : Char}
    (out : comesOut depth text) (outOther : comesOut depth other) (ends : c = ',' ∨ c = ')')
    (endsOther : d = ',' ∨ d = ')') (same : text ++ c :: rest = other ++ d :: behind) :
    text = other ∧ c = d ∧ rest = behind := by
  -- Outside of all brackets, what ends one text cannot go on in the other.
  have apart {c : Char} {depth : Nat} {others : List Char} (out : comesOut depth [])
      (further : comesOut depth (c :: others)) : ¬ (c = ',' ∨ c = ')') := by
    have outside : depth = 0 := by simpa [comesOut] using out
    obtain ⟨noComma, noBracket⟩ := (comesOut_cons_iff.mp further).1 outside
    exact not_or.mpr ⟨noComma, noBracket⟩
  induction text generalizing depth other with
  | nil =>
      cases other with
      | nil =>
          obtain ⟨sameEnd, sameRest⟩ := List.cons.inj same
          exact ⟨rfl, sameEnd, sameRest⟩
      | cons e others =>
          obtain ⟨rfl, -⟩ := List.cons.inj same
          exact absurd ends (apart out outOther)
  | cons e text inductionHypothesis =>
      cases other with
      | nil =>
          obtain ⟨rfl, -⟩ := List.cons.inj same
          exact absurd endsOther (apart outOther out)
      | cons f others =>
          obtain ⟨rfl, sameRest⟩ := List.cons.inj same
          obtain ⟨rfl, sameEnd⟩ := inductionHypothesis (comesOut_cons_iff.mp out).2
            (comesOut_cons_iff.mp outOther).2 sameRest
          exact ⟨rfl, sameEnd⟩

/-! ### Labels with parts -/

/-- Parts with commas between them. -/
def listed (parts : List (List Char)) : List Char :=
  [','].intercalate parts

theorem listed_cons_cons (part next : List Char) (parts : List (List Char)) :
    listed (part :: next :: parts) = part ++ ',' :: listed (next :: parts) := by
  simp [listed]

/-- A label with parts in brackets. -/
def called (label : String) (parts : List (List Char)) : List Char :=
  label.toList ++ '(' :: (listed parts ++ [')'])

/-- Between brackets, the parts come out again. -/
theorem comesOut_listed {parts : List (List Char)} (areParts : ∀ part ∈ parts, IsPart part)
    (rest : List Char) : comesOut 1 (listed parts ++ rest) = comesOut 1 rest := by
  induction parts with
  | nil => simp [listed]
  | cons part others inductionHypothesis =>
      obtain ⟨isPart, othersAre⟩ := List.forall_mem_cons.mp areParts
      cases others with
      | nil =>
          have single : listed [part] = part := by simp [listed]
          rw [single]
          exact comesOut_append isPart 1 rest
      | cons next parts =>
          rw [listed_cons_cons, List.append_assoc]
          refine (comesOut_append isPart 1 _).trans ?_
          exact (Bool.true_and _).trans (inductionHypothesis othersAre)

/-- A plain label with parts is a part itself. -/
theorem isPart_called {label : String} (plain : IsPlain label.toList) {parts : List (List Char)}
    (areParts : ∀ part ∈ parts, IsPart part) : IsPart (called label parts) := by
  apply plain.isPart.append
  have opened : comesOut 1 (listed parts ++ [')']) := by
    rw [comesOut_listed areParts]
    rfl
  exact comesOut_cons_iff.mpr ⟨fun _ => ⟨by decide, by decide⟩, opened⟩

/-- Behind the first part stands the closing bracket, or a comma in front of the others. -/
theorem listed_append (part : List Char) (parts : List (List Char)) (rest : List Char) :
    ∃ c behind, listed (part :: parts) ++ ')' :: rest = part ++ c :: behind ∧
      (c = ')' ∧ parts = [] ∧ behind = rest ∨
        c = ',' ∧ parts ≠ [] ∧ behind = listed parts ++ ')' :: rest) := by
  cases parts with
  | nil => exact ⟨')', rest, by simp [listed], Or.inl ⟨rfl, rfl, rfl⟩⟩
  | cons next parts =>
      refine ⟨',', _, ?_, Or.inr ⟨rfl, List.cons_ne_nil next parts, rfl⟩⟩
      rw [listed_cons_cons, List.append_assoc, List.cons_append]

/-- Lists of parts in front of a closing bracket are told apart. -/
theorem listed_inj {parts others : List (List Char)} {rest behind : List Char}
    (areParts : ∀ part ∈ parts, IsPart part) (othersAre : ∀ part ∈ others, IsPart part)
    (somePart : parts ≠ []) (someOther : others ≠ [])
    (same : listed parts ++ ')' :: rest = listed others ++ ')' :: behind) :
    parts = others ∧ rest = behind := by
  induction parts generalizing others with
  | nil => exact absurd rfl somePart
  | cons part parts inductionHypothesis =>
      cases others with
      | nil => exact absurd rfl someOther
      | cons other others =>
          obtain ⟨isPart, restAre⟩ := List.forall_mem_cons.mp areParts
          obtain ⟨isOther, restOther⟩ := List.forall_mem_cons.mp othersAre
          obtain ⟨c, more, isText, ends⟩ := listed_append part parts rest
          obtain ⟨d, moreOther, isOtherText, endsOther⟩ := listed_append other others behind
          rw [isText, isOtherText] at same
          obtain ⟨rfl, sameEnd, sameRest⟩ := append_inj_of_comesOut isPart isOther
            (ends.symm.imp And.left And.left) (endsOther.symm.imp And.left And.left) same
          rcases ends with ⟨rfl, rfl, rfl⟩ | ⟨rfl, further, rfl⟩
          · rcases endsOther with ⟨rfl, rfl, rfl⟩ | ⟨rfl, -, -⟩
            · exact ⟨rfl, sameRest⟩
            · cases sameEnd
          · rcases endsOther with ⟨rfl, -, -⟩ | ⟨rfl, otherFurther, rfl⟩
            · cases sameEnd
            · obtain ⟨rfl, sameBehind⟩ :=
                inductionHypothesis restAre restOther further otherFurther sameRest
              exact ⟨rfl, sameBehind⟩

/-- Labels with parts are told apart, label, parts and what stands behind. -/
theorem called_inj {label other : String} {parts others : List (List Char)}
    {rest behind : List Char} (plain : IsPlain label.toList) (alsoPlain : IsPlain other.toList)
    (areParts : ∀ part ∈ parts, IsPart part) (othersAre : ∀ part ∈ others, IsPart part)
    (somePart : parts ≠ []) (someOther : others ≠ [])
    (same : called label parts ++ rest = called other others ++ behind) :
    label = other ∧ parts = others ∧ rest = behind := by
  have opened : label.toList ++ '(' :: (listed parts ++ ')' :: rest) =
      other.toList ++ '(' :: (listed others ++ ')' :: behind) := by
    simpa [called] using same
  have noBracket {text : List Char} (plain : IsPlain text) : ∀ c ∈ text, !isDivider c := by
    intro c member
    rw [plain c member]
    rfl
  obtain ⟨sameLabel, -, sameRest⟩ := append_cons_inj_of_span (fun c => !isDivider c) opened
    (noBracket plain) (noBracket alsoPlain) (by decide) (by decide)
  exact ⟨String.toList_inj.mp sameLabel, listed_inj areParts othersAre somePart someOther sameRest⟩

end Playhouse.Text

/-
Module: Playhouse.Proofs.LetterCase
Purpose: Being the same letter but for case is an equivalence, and white space and punctuation
  are the same as themselves only, in whatever case a text is written.
Main exports: Text.sameLetter_refl, Text.sameLetter_symm, Text.sameLetter_trans,
  Text.mem_of_mem_titleFrom, Text.IgnoresCase, Text.ignoresCase_of_lone, Pattern.Spelling,
  SameLetters
-/
import Mathlib.Data.List.Forall2
import Playhouse.Pattern.Phrase
import Playhouse.Proofs.Words

namespace Playhouse

namespace Text

/-! ### Variants -/

/-- The lower-case letters that are listed as variants of one. -/
def variantsOf (point : Nat) : List Nat :=
  (letterVariants.lookup point).getD []

/-- Two lower-case letters count as one. -/
def Variants (first second : Nat) : Prop :=
  first = second ∨ second ∈ variantsOf first

/-- Variants are listed both ways, and those of a variant are listed too; two of the first 128
code points are never variants of each other. -/
theorem variants_closed : ∀ entry ∈ letterVariants, ∀ point ∈ entry.2,
    entry.1 ∈ variantsOf point ∧ (128 ≤ entry.1 ∨ 128 ≤ point) ∧
      ∀ other ∈ variantsOf point, other = entry.1 ∨ other ∈ entry.2 := by
  decide +kernel

/-- The variants of a letter are those of its entry. -/
theorem exists_entry {first second : Nat} (variant : second ∈ variantsOf first) :
    (first, variantsOf first) ∈ letterVariants := by
  rw [variantsOf] at variant ⊢
  cases found : letterVariants.lookup first with
  | none =>
      rw [found] at variant
      cases variant
  | some points =>
      obtain ⟨earlier, later, isSplit, -⟩ := List.lookup_eq_some_iff.mp found
      simp [isSplit]

theorem Variants.symm {first second : Nat} (variants : Variants first second) :
    Variants second first := by
  rcases variants with rfl | variant
  · exact Or.inl rfl
  · exact Or.inr (variants_closed _ (exists_entry variant) second variant).1

theorem Variants.trans {first second third : Nat} (variants : Variants first second)
    (further : Variants second third) : Variants first third := by
  rcases variants with rfl | variant
  · exact further
  · rcases further with rfl | other
    · exact Or.inr variant
    · rcases (variants_closed _ (exists_entry variant) second variant).2.2 third other with
        isFirst | listed
      · exact Or.inl isFirst.symm
      · exact Or.inr listed

/-! ### The same letter -/

theorem lowerLetter_lt {c : Char} (small : c.toNat < 128) : (lowerLetter c).toNat < 128 := by
  have each : ∀ point < 128, (lowerLetter (Char.ofNat point)).toNat < 128 := by decide +kernel
  have lowered := each c.toNat small
  rwa [Char.ofNat_toNat] at lowered

/-- Two characters are the same letter if their lower-case counterparts are variants. -/
theorem sameLetter_iff {c d : Char} :
    sameLetter c d ↔ Variants (lowerLetter c).toNat (lowerLetter d).toNat := by
  have isVariant : sameLetter c d = true ↔ lowerLetter c = lowerLetter d ∨
      ((128 ≤ c.toNat ∨ 128 ≤ d.toNat) ∧
        (lowerLetter d).toNat ∈ variantsOf (lowerLetter c).toNat) := by
    simp only [sameLetter, variantsOf, Bool.or_eq_true, beq_iff_eq, Bool.and_eq_true,
      Bool.not_eq_true', Bool.and_eq_false_iff, decide_eq_false_iff_not, Nat.not_lt,
      List.contains_iff_mem]
  rw [isVariant, Variants, Char.toNat_inj]
  constructor
  · rintro (same | ⟨-, variant⟩)
    · exact Or.inl same
    · exact Or.inr variant
  · rintro (same | variant)
    · exact Or.inl same
    · refine Or.inr ⟨?_, variant⟩
      by_cases small : c.toNat < 128
      · by_cases alsoSmall : d.toNat < 128
        · have large := (variants_closed _ (exists_entry variant) _ variant).2.1
          have lowered := lowerLetter_lt small
          have alsoLowered := lowerLetter_lt alsoSmall
          dsimp only at large
          omega
        · exact Or.inr (Nat.le_of_not_lt alsoSmall)
      · exact Or.inl (Nat.le_of_not_lt small)

theorem sameLetter_refl (c : Char) : sameLetter c c :=
  sameLetter_iff.mpr (Or.inl rfl)

theorem sameLetter_symm {c d : Char} (same : sameLetter c d) : sameLetter d c :=
  sameLetter_iff.mpr (sameLetter_iff.mp same).symm

theorem sameLetter_trans {c d e : Char} (same : sameLetter c d) (further : sameLetter d e) :
    sameLetter c e :=
  sameLetter_iff.mpr ((sameLetter_iff.mp same).trans (sameLetter_iff.mp further))

/-! ### Characters without case -/

/-- White space, the marks that end a sentence, the colon, the comma, the brackets, and the
marks inside a free word. -/
def lonePoints : List Nat :=
  blankPoints ++ [0x21, 0x2e, 0x3a, 0x3f, 0x2c, 0x28, 0x29, 0x27, 0x2d, 0x2f]

/-- They have no lower case and no variants. -/
theorem lonePoints_alone : ∀ point ∈ lonePoints,
    lowerLetter (Char.ofNat point) = Char.ofNat point ∧ variantsOf point = [] := by
  decide +kernel

/-- Whether the runs of a table lead past all of them. -/
def leadPast (runs : List CaseRun) : Bool :=
  runs.all fun run => lonePoints.all fun point =>
    point < (run.first + run.shift).toNat || (run.last + run.shift).toNat < point

theorem leadPast_lowerRuns : leadPast lowerRuns := by
  decide +kernel

theorem leadPast_titleRuns : leadPast titleRuns := by
  decide +kernel

theorem not_lone_of_shift? {runs : List CaseRun} (past : leadPast runs) {run : CaseRun}
    (isRun : run ∈ runs) {point target : Nat} (moved : CaseRun.shift? point run = some target) :
    target ∉ lonePoints := by
  intro lone
  have apart := List.all_eq_true.mp (List.all_eq_true.mp past run isRun) target lone
  simp only [Bool.or_eq_true, decide_eq_true_eq] at apart
  rw [CaseRun.shift?] at moved
  split at moved
  · rename_i inRun
    simp only [Bool.and_eq_true, decide_eq_true_eq] at inRun
    have isTarget := Option.some.inj moved
    omega
  · cases moved

/-- Nothing else is moved to one of them. -/
theorem moveCase_eq_of_lone {runs : List CaseRun} (past : leadPast runs) {c : Char}
    (lone : (moveCase runs c).toNat ∈ lonePoints) : moveCase runs c = c := by
  rw [moveCase] at lone ⊢
  split at lone
  · rename_i target moved
    obtain ⟨run, isRun, shifted⟩ := List.exists_of_findSome?_eq_some moved
    rw [Char.ofNat] at lone
    by_cases valid : target.isValidChar
    · rw [dif_pos valid] at lone
      exact absurd lone (not_lone_of_shift? past isRun shifted)
    · rw [dif_neg valid] at lone
      exact absurd lone (by decide)
  · rfl

/-- Nothing else has one of them for its lower case. -/
theorem eq_of_lowerLetter_lone {c : Char} (lone : (lowerLetter c).toNat ∈ lonePoints) :
    lowerLetter c = c := by
  by_cases small : c.toNat < 128
  · have each : ∀ point < 128, (lowerLetter (Char.ofNat point)).toNat ∈ lonePoints →
        lowerLetter (Char.ofNat point) = Char.ofNat point := by decide +kernel
    have same := each c.toNat small
    rw [Char.ofNat_toNat] at same
    exact same lone
  · rw [lowerLetter, if_neg small] at lone ⊢
    exact moveCase_eq_of_lone leadPast_lowerRuns lone

/-- They are the same letter as themselves only. -/
theorem eq_of_sameLetter_lone {c d : Char} (lone : c.toNat ∈ lonePoints)
    (same : sameLetter c d) : d = c := by
  obtain ⟨isLower, noVariant⟩ := lonePoints_alone c.toNat lone
  rw [Char.ofNat_toNat] at isLower
  have variants := sameLetter_iff.mp same
  rw [isLower, Variants, noVariant] at variants
  rcases variants with sameLower | variant
  · have lowered := eq_of_lowerLetter_lone (sameLower ▸ lone)
    rw [← lowered]
    exact (Char.toNat_inj.mp sameLower).symm
  · cases variant

/-! ### Title case -/

/-- No letter has one of them in its form at the start of a word. -/
theorem eq_of_titleLetter_lone {c d : Char} (member : d ∈ titleLetter c)
    (lone : d.toNat ∈ lonePoints) : d = c := by
  have spelled : ∀ entry ∈ titleSpellings, ∀ point ∈ entry.2,
      (Char.ofNat point).toNat ∉ lonePoints := by decide +kernel
  by_cases small : c.toNat < 128
  · have each : ∀ point < 128, (Char.ofNat point).toUpper.toNat ∈ lonePoints →
        (Char.ofNat point).toUpper = Char.ofNat point := by decide +kernel
    have same := each c.toNat small
    rw [Char.ofNat_toNat] at same
    rw [titleLetter, if_pos small, List.mem_singleton] at member
    rw [member] at lone ⊢
    exact same lone
  · rw [titleLetter, if_neg small] at member
    split at member
    · rename_i spelling listed
      obtain ⟨point, inSpelling, rfl⟩ := List.mem_map.mp member
      obtain ⟨earlier, later, isSplit, -⟩ := List.lookup_eq_some_iff.mp listed
      have isEntry : (c.toNat, spelling) ∈ titleSpellings := by simp [isSplit]
      exact absurd lone (spelled _ isEntry point inSpelling)
    · rw [List.mem_singleton] at member
      rw [member] at lone ⊢
      exact moveCase_eq_of_lone leadPast_titleRuns lone

theorem eq_of_lowerInPlace_lone {before after : List Char} {c d : Char}
    (member : d ∈ lowerInPlace before c after) (lone : d.toNat ∈ lonePoints) : d = c := by
  have noneOther (isLetter : d ∈ ['i', '\u0307', '\u03c2', '\u03c3']) : d = c := by
    simp only [List.mem_cons, List.not_mem_nil, or_false] at isLetter
    rcases isLetter with rfl | rfl | rfl | rfl <;> exact absurd lone (by decide)
  unfold lowerInPlace at member
  split at member
  · exact noneOther (List.mem_append_left ['\u03c2', '\u03c3'] member)
  · split at member
    · apply noneOther
      rw [List.mem_singleton.mp member]
      split <;> decide
    · obtain rfl := List.mem_singleton.mp member
      exact eq_of_lowerLetter_lone lone

/-- A text in title case holds none of them that the text does not hold. -/
theorem mem_of_mem_titleFrom {before text : List Char} {d : Char}
    (member : d ∈ titleFrom before text) (lone : d.toNat ∈ lonePoints) : d ∈ text := by
  induction text generalizing before with
  | nil => cases member
  | cons c rest inductionHypothesis =>
      rw [titleFrom] at member
      rcases List.mem_append.mp member with here | further
      · have same : d = c := by
          split at here
          · exact eq_of_lowerInPlace_lone here lone
          · exact eq_of_titleLetter_lone here lone
        exact same ▸ List.mem_cons_self
      · exact List.mem_cons_of_mem c (inductionHypothesis further)

/-! ### Kinds without case -/

/-- A kind of characters that makes no difference between the cases of a letter. -/
def IgnoresCase (kind : Char → Bool) : Prop :=
  ∀ {c d : Char}, sameLetter c d → kind c = kind d

/-- A kind of characters without case makes none. -/
theorem ignoresCase_of_lone {kind : Char → Bool}
    (lone : ∀ c, kind c → c.toNat ∈ lonePoints) : IgnoresCase kind := by
  intro c d same
  cases isKind : kind c with
  | true => rw [eq_of_sameLetter_lone (lone c isKind) same, isKind]
  | false =>
      cases alsoKind : kind d with
      | true =>
          rw [eq_of_sameLetter_lone (lone d alsoKind) (sameLetter_symm same), alsoKind] at isKind
          cases isKind
      | false => rfl

theorem IgnoresCase.not {kind : Char → Bool} (ignores : IgnoresCase kind) :
    IgnoresCase fun c => !kind c := by
  intro c d same
  exact congrArg (!·) (ignores same)

theorem ignoresCase_isBlank : IgnoresCase isBlank :=
  ignoresCase_of_lone fun _ blank => List.mem_append_left _ (mem_blankPoints blank)

theorem ignoresCase_sameLetter (letter : Char) : IgnoresCase (sameLetter letter) := by
  intro c d same
  apply Bool.eq_iff_iff.mpr
  constructor
  · exact fun isLetter => sameLetter_trans isLetter same
  · exact fun isLetter => sameLetter_trans isLetter (sameLetter_symm same)

end Text

open Text

namespace Pattern

theorem ignoresCase_isEndMark : IgnoresCase isEndMark := by
  apply ignoresCase_of_lone
  intro c ends
  simp only [isEndMark, Bool.or_eq_true, beq_iff_eq] at ends
  rcases ends with (rfl | rfl) | rfl <;> decide

theorem ignoresCase_anyLetterKind (letters : List Char) :
    IgnoresCase (anyLetterKind true letters) := by
  intro c d same
  simp only [anyLetterKind, letterKind, if_true, ignoresCase_sameLetter _ same]

/-! ### Texts letter by letter -/

/-- A text that is written with the letters of a word, with or without regard to case. -/
def Spelling (caseless : Bool) : List Char → List Char → Prop :=
  List.Forall₂ fun letter c => letterKind caseless letter c

/-- A word that is spelled in two parts. -/
theorem spelling_append_iff {caseless : Bool} {first second text : List Char} :
    Spelling caseless (first ++ second) text ↔
      ∃ left right, text = left ++ right ∧ Spelling caseless first left ∧
        Spelling caseless second right := by
  induction first generalizing text with
  | nil =>
      constructor
      · exact fun spelling => ⟨[], text, rfl, .nil, spelling⟩
      · rintro ⟨_, right, rfl, ⟨⟩, spelling⟩
        exact spelling
  | cons c rest inductionHypothesis =>
      constructor
      · rintro (_ | ⟨same, spelling⟩)
        obtain ⟨left, right, rfl, leftSpelling, rightSpelling⟩ := inductionHypothesis.mp spelling
        exact ⟨_ :: left, right, rfl, .cons same leftSpelling, rightSpelling⟩
      · rintro ⟨_, right, rfl, _ | ⟨same, leftSpelling⟩, rightSpelling⟩
        exact .cons same (inductionHypothesis.mpr ⟨_, right, rfl, leftSpelling, rightSpelling⟩)

/-- With regard to case a word is spelled as itself only. -/
theorem spelling_false_iff {word text : List Char} : Spelling false word text ↔ text = word := by
  have isEq : (fun letter c : Char => letterKind false letter c = true) = fun letter c =>
      letter = c := by
    funext letter c
    apply propext
    constructor
    · exact fun same => (beq_iff_eq.mp same).symm
    · rintro rfl
      exact beq_self_eq_true letter
  rw [Spelling, isEq, List.forall₂_eq_eq_eq, eq_comm]

end Pattern

/-- Texts of the same letters, but for case. -/
abbrev SameLetters : List Char → List Char → Prop :=
  Pattern.Spelling true

theorem sameLetters_refl (text : List Char) : SameLetters text text :=
  List.forall₂_same.mpr fun c _ => sameLetter_refl c

/-- Where case makes no difference, all characters are of a kind in both texts or in neither. -/
theorem Text.IgnoresCase.forall_mem {kind : Char → Bool} (ignores : IgnoresCase kind)
    {first second : List Char} (same : SameLetters first second) (each : ∀ c ∈ first, kind c) :
    ∀ c ∈ second, kind c := by
  induction same with
  | nil => exact each
  | cons sameChar _ inductionHypothesis =>
      obtain ⟨isKind, others⟩ := List.forall_mem_cons.mp each
      exact List.forall_mem_cons.mpr ⟨ignores sameChar ▸ isKind, inductionHypothesis others⟩

end Playhouse

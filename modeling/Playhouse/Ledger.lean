/-
Module: Playhouse.Ledger
Purpose: Tables that keep their keys in the order in which they were first
  entered.
Main exports: Ledger, Ledger.get?, Ledger.put, Ledger.get?_put
-/

namespace Playhouse

/-- A table from keys to values.  A key keeps the place of its first entry. -/
abbrev Ledger (κ ν : Type) := List (κ × ν)

namespace Ledger

variable {κ ν : Type} [DecidableEq κ]

/-- The value of a key. -/
def get? : Ledger κ ν → κ → Option ν
  | [], _ => none
  | (entered, value) :: rest, key => if entered = key then some value else get? rest key

/-- Enter a value under a key, over an earlier one or at the end. -/
def put : Ledger κ ν → κ → ν → Ledger κ ν
  | [], key, value => [(key, value)]
  | (entered, old) :: rest, key, value =>
      if entered = key then (entered, value) :: rest else (entered, old) :: put rest key value

/-- The keys in the order of their first entry. -/
def keys (ledger : Ledger κ ν) : List κ :=
  ledger.map Prod.fst

/-- An entry is found again and disturbs no other. -/
theorem get?_put (ledger : Ledger κ ν) (key other : κ) (value : ν) :
    get? (put ledger key value) other = if key = other then some value else get? ledger other := by
  induction ledger with
  | nil => simp [put, get?]
  | cons entry rest inductionHypothesis =>
      obtain ⟨entered, old⟩ := entry
      by_cases here : entered = key
      · subst here
        by_cases asked : entered = other <;> simp [put, get?, asked]
      · by_cases asked : entered = other
        · subst asked
          simp [put, get?, here, Ne.symm here]
        · simp [put, get?, here, asked, inductionHypothesis]

/-- Entering a value adds its key at the end unless it is there already. -/
theorem keys_put (ledger : Ledger κ ν) (key : κ) (value : ν) :
    keys (put ledger key value) = if key ∈ keys ledger then keys ledger else keys ledger ++ [key] := by
  induction ledger with
  | nil => simp [put, keys]
  | cons entry rest inductionHypothesis =>
      obtain ⟨entered, old⟩ := entry
      by_cases here : entered = key
      · simp [put, keys, here]
      · simp only [keys] at inductionHypothesis
        simp only [put, here, if_false, keys, List.map_cons, List.mem_cons,
          inductionHypothesis, Ne.symm here, false_or]
        by_cases known : key ∈ List.map Prod.fst rest <;> simp [known]

end Ledger

end Playhouse

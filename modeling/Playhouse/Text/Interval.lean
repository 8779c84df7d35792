/-
Module: Playhouse.Text.Interval
Purpose: Membership in a table of closed intervals of code points.
Main exports: Interval.contains, Interval.contains_iff
-/

namespace Playhouse.Text.Interval

/-- Whether a code point lies in one of the closed intervals of a table. -/
def contains (table : List (Nat × Nat)) (point : Nat) : Bool :=
  table.any fun interval => interval.1 ≤ point && point ≤ interval.2

/-- A table contains exactly the points between the ends of one of its
intervals. -/
theorem contains_iff (table : List (Nat × Nat)) (point : Nat) :
    contains table point = true ↔
      ∃ interval ∈ table, interval.1 ≤ point ∧ point ≤ interval.2 := by
  simp [contains]

end Playhouse.Text.Interval

/-!
# Tables of characters

A class of characters as a list of ranges of code points, both ends included.
-/

namespace SharedSeq.Text

/-- Ranges of code points, both ends included. -/
abbrev Ranges := List (Nat × Nat)

def Ranges.contains (table : Ranges) (c : Char) : Bool :=
  table.any fun (low, high) => low ≤ c.toNat && c.toNat ≤ high

/-- A character of one of the ranges is in the table. -/
theorem Ranges.contains_of_mem (table : Ranges) {c : Char} {low high : Nat} (h : (low, high) ∈ table)
    (hl : low ≤ c.toNat) (hh : c.toNat ≤ high) : table.contains c = true :=
  List.any_eq_true.2 ⟨(low, high), h, by simp [hl, hh]⟩

end SharedSeq.Text

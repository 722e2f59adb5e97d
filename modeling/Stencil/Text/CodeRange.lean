/-! Sets of characters given as a list of closed ranges of code points. -/

namespace Stencil.Text

abbrev CodeRange := Nat × Nat

def CodeRange.contains (r : CodeRange) (n : Nat) : Bool :=
  decide (r.1 ≤ n) && decide (n ≤ r.2)

/-- Membership in a table that speaks of the characters beyond ASCII only. -/
def inTable (table : List CodeRange) (c : Char) : Bool :=
  decide (128 ≤ c.toNat) && table.any fun r => r.contains c.toNat

theorem inTable_of_ascii (table : List CodeRange) {c : Char} (h : c.toNat < 128) :
    inTable table c = false := by
  simp [inTable, Nat.not_le.mpr h]

end Stencil.Text

import CompletionWire.Text.CodePoint

/-!
# Tables of two-byte codes

Large scripts have codes of two bytes, one for the row of a table and one for the cell in it.
-/

namespace CompletionWire

/-- Rows of a table: the first byte of their codes, the second byte of their first cell, and their
code points. A row may have gaps, and U+FFFD stands in cells that are empty. -/
structure CodeTable where
  rows : List (Nat × Nat × String)

namespace CodeTable

/-- The code point in a cell of a row. -/
def find? (t : CodeTable) (row cell : Nat) : Option CodePoint :=
  t.rows.findSome? fun (first, start, cells) =>
    if first = row ∧ start ≤ cell then
      ((text cells)[cell - start]?).filter (· ≠ .replacement)
    else none

/-- The code point of a code whose two bytes both have their highest bit set. -/
def findHigh? (t : CodeTable) (a b : Nat) : Option CodePoint :=
  if 0x80 ≤ a ∧ 0x80 ≤ b then t.find? (a - 0x80) (b - 0x80) else none

end CodeTable

/-- The two code points that a code of two bytes stands for, where it stands for two. -/
def CodeTable.pair? (pairs : List ((Nat × Nat) × Nat × Nat)) (a b : Nat) : Option Text :=
  (pairs.find? (·.1 = (a, b))).map fun (_, c, d) => [CodePoint.ofNat c, CodePoint.ofNat d]

end CompletionWire

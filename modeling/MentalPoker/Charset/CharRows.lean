import MentalPoker.Text.Encoding

/-!
# Tables of character sets

Large character sets are arranged in rows of cells. Where most of the cells are in use the rows are
written out; where they are not, runs of neighbours are listed.

## Contents

* `CharRows`, with `CharRows.point?`: the character of a cell.
* `CharRun`, with `CharRun.find?`: the character of a number in a list of runs.
-/

namespace MentalPoker

/-- Rows of characters. -/
structure CharRows where
  firstRow : Nat
  firstCell : Nat
  rows : List String
  deriving DecidableEq, Repr

namespace CharRows

/-- The code point in a cell, if the cell is in use. -/
def point? (t : CharRows) (row cell : Nat) : Option Nat :=
  if row < t.firstRow || cell < t.firstCell then none
  else
    match t.rows[row - t.firstRow]? with
    | none => none
    | some s => ((text s)[cell - t.firstCell]?).filter fun c => c ≠ Utf8.replacement

end CharRows

/-- Neighbours in a character set that are neighbours in Unicode, too. -/
structure CharRun where
  number : Nat
  point : Nat
  count : Nat
  deriving DecidableEq, Repr

namespace CharRun

/-- The code point of a number. -/
def find? (runs : List CharRun) (number : Nat) : Option Nat :=
  (runs.find? fun r => r.number ≤ number && number < r.number + r.count).map fun r =>
    r.point + (number - r.number)

end CharRun

end MentalPoker

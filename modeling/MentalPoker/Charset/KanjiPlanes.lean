import MentalPoker.Charset.Rows.Kanji
import MentalPoker.Charset.Rows.KanjiPlanes

/-!
# The two planes of Japanese characters

The later Japanese character set has two planes: the main set with additions, and a second plane.
Some cells of the first plane hold a letter with a mark, which are two code points. The set has two
editions.

## Contents

* `KanjiEdition.first?`, `KanjiEdition.second?`: the text of a cell of the two planes.
-/

namespace MentalPoker

/-- An edition of the set. -/
inductive KanjiEdition where
  | early
  | late
  deriving DecidableEq, Repr

namespace KanjiEdition

open CharRows

/-- The cells of the first plane that the late edition added. -/
def lateCells : List (Nat × Nat) :=
  [(0x2E, 0x21), (0x2F, 0x7E), (0x4F, 0x54), (0x4F, 0x7E), (0x74, 0x27), (0x7E, 0x7A), (0x7E, 0x7B),
    (0x7E, 0x7C), (0x7E, 0x7D), (0x7E, 0x7E)]

/-- The edition has no character in a cell of the first plane where the other one has. -/
def lacks (e : KanjiEdition) (row cell : Nat) : Bool := e = early && lateCells.contains (row, cell)

def markedLetter? (row cell : Nat) : Option Text :=
  (markedLetters.find? fun m => m.1 = row && m.2.1 = cell).map fun m => [m.2.2.1, m.2.2.2]

/-- The text of a cell of the first plane. -/
def first? (e : KanjiEdition) (row cell : Nat) : Option Text :=
  if e.lacks row cell then none
  else
    (((kanji.point? row cell).or (laterKanji.point? row cell)).map ([·])).or
      (markedLetter? row cell)

/-- The character of a cell of the second plane. One of them the editions give otherwise. -/
def second? (e : KanjiEdition) (row cell : Nat) : Option Nat :=
  if e = early && row = 0x7D && cell = 0x3B then some 0x9B1D else secondKanji.point? row cell

/-- A tilde of full width is a plain one where ASCII has lost its tilde. -/
def narrowTilde (p : Nat) : Nat := if p = 0xFF5E then 0x7E else p

/-- The same of a tilde and of a backslash. -/
def narrow (p : Nat) : Nat := if p = 0xFF3C then 0x5C else narrowTilde p

end KanjiEdition

end MentalPoker

import TaggedCorpus.Text.Basic

/-!
Character sets: characters in rows of cells.
-/

namespace TaggedCorpus

/-- The number of the first row, and the characters of the rows, the first of which is in the cell
with number zero. -/
structure CharacterSet where
  firstRow : Nat
  rows : Array String

/-- Stretches of rows: a row, its first cell, and the characters from there on. -/
abbrev Runs := List (Nat × Nat × String)

namespace CharacterSet

/-- What a row has in an empty cell. -/
def emptyCell : Char := '\ufffe'

/-- The character in a cell. -/
def find? (s : CharacterSet) (row cell : Nat) : Option Char :=
  if row < s.firstRow then none
  else do
    let line ← s.rows[row - s.firstRow]?
    line.toList[cell]?.filter (· != emptyCell)

/-- The character in a cell, which two bytes from 0x21 to 0x7E tell. -/
def ofBytes? (s : CharacterSet) (a b : Nat) : Option Char :=
  if 0x21 ≤ b && b ≤ 0x7E then s.find? (a - 0x20) (b - 0x21) else none

end CharacterSet

/-- The character in a cell. -/
def Runs.find? (runs : Runs) (row cell : Nat) : Option Char :=
  runs.findSome? fun (r, first, characters) =>
    if r == row && first ≤ cell then characters.toList[cell - first]? else none

/-- The number of this rank among those from `n` on that are not taken. Those that are taken come
in order. -/
def nthFree : (taken : List Nat) → (n : Nat) → Nat
  | [], n => n
  | t :: rest, n => if t ≤ n then nthFree rest (n + 1) else n

end TaggedCorpus

import VideoTerminal.Padded
import VideoTerminal.Rendition

namespace VideoTerminal

structure Cell where
  glyph : Char := ' '
  rendition : Rendition := {}
  deriving DecidableEq, Repr, Inhabited

def Cell.blank (rendition : Rendition) : Cell := ⟨' ', rendition⟩

-- A row of cells without end. What is stored reaches as far as something was
-- written; every cell behind it is the default one.
structure Line where
  cells : List Cell := []
  doubleWidth : Bool := false
  doubleHeightTop : Bool := false
  doubleHeightBottom : Bool := false
  deriving DecidableEq, Repr, Inhabited

namespace Line

def filled (cell : Cell) (columns : Nat) : Line := { cells := List.replicate columns cell }

def length (l : Line) : Nat := l.cells.length

def cell? (l : Line) (column : Nat) : Option Cell := l.cells[column]?

def cellAt (l : Line) (column : Nat) : Cell := Padded.read {} l.cells column

def charAt (l : Line) (column : Nat) : Char := (l.cellAt column).glyph

def modify (l : Line) (column : Nat) (f : Cell → Cell) : Line :=
  { l with cells := Padded.modify {} column f l.cells }

def set (l : Line) (column : Nat) (cell : Cell) : Line := l.modify column fun _ => cell

def insert (l : Line) (column : Nat) (cell : Cell) : Line :=
  { l with cells := Padded.insert {} column cell l.cells }

def remove (l : Line) (column : Nat) : Line :=
  { l with cells := Padded.remove column l.cells }

def fill (l : Line) (first last : Nat) (cell : Cell) : Line :=
  { l with cells := Padded.fill {} first last cell l.cells }

def insertMany (l : Line) (column count : Nat) (cell : Cell) : Line :=
  { l with cells := Padded.insertMany {} column count cell l.cells }

def removeMany (l : Line) (column count : Nat) : Line :=
  { l with cells := Padded.removeMany column count l.cells }

def trim (l : Line) (columns : Nat) : Line := { l with cells := l.cells.take columns }

def clearSize (l : Line) : Line :=
  { l with doubleWidth := false, doubleHeightTop := false, doubleHeightBottom := false }

theorem cellAt_modify (l : Line) (column : Nat) (f : Cell → Cell) (j : Nat) :
    (l.modify column f).cellAt j = if j = column then f (l.cellAt column) else l.cellAt j :=
  Padded.read_modify ..

theorem cellAt_set (l : Line) (column : Nat) (cell : Cell) (j : Nat) :
    (l.set column cell).cellAt j = if j = column then cell else l.cellAt j :=
  cellAt_modify ..

theorem cellAt_insert (l : Line) (column : Nat) (cell : Cell) (j : Nat) :
    (l.insert column cell).cellAt j =
      if j < column then l.cellAt j else if j = column then cell else l.cellAt (j - 1) :=
  Padded.read_insert ..

theorem cellAt_remove (l : Line) (column : Nat) (j : Nat) :
    (l.remove column).cellAt j = if j < column then l.cellAt j else l.cellAt (j + 1) :=
  Padded.read_remove ..

theorem cellAt_fill (l : Line) (first last : Nat) (cell : Cell) (j : Nat) :
    (l.fill first last cell).cellAt j =
      if first ≤ j ∧ j < last then cell else l.cellAt j :=
  Padded.read_fill ..

theorem cellAt_insertMany (l : Line) (column count : Nat) (cell : Cell) (j : Nat) :
    (l.insertMany column count cell).cellAt j =
      if j < column then l.cellAt j
      else if j < column + count then cell
      else l.cellAt (j - count) :=
  Padded.read_insertMany ..

theorem cellAt_removeMany (l : Line) (column count : Nat) (j : Nat) :
    (l.removeMany column count).cellAt j =
      if j < column then l.cellAt j else l.cellAt (j + count) :=
  Padded.read_removeMany ..

theorem cellAt_trim (l : Line) (columns : Nat) (j : Nat) :
    (l.trim columns).cellAt j = if j < columns then l.cellAt j else {} :=
  Padded.read_take ..

end Line

end VideoTerminal

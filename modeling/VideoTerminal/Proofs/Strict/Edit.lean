import VideoTerminal.Proofs.Grid
import VideoTerminal.Proofs.Strict.Steps

-- Edits made of partial steps. Lines and buffers are grown before they are
-- written to, so nothing there can fail whatever the terminal is like; what can
-- fail are the subtractions and clampings that lead to a row or a column.
namespace VideoTerminal.Strict
open Terminal

def setCell (l : Line) (column : Nat) (cell : Cell) : Option Line := do
  let cells ← editReached {} column (fun _ => some cell) l.cells
  return { l with cells }

def insertCell (l : Line) (column : Nat) (cell : Cell) : Option Line := do
  let cells ← insertReached {} column cell l.cells
  return { l with cells }

def removeCell (l : Line) (column : Nat) : Option Line := do
  let cells ← removeStored column l.cells
  return { l with cells }

def editRow (b : Buffer) (row : Nat) (edit : Line → Option Line) : Option Buffer := do
  let lines ← editReached {} row edit b.lines
  return { b with lines }

def insertRow (b : Buffer) (row : Nat) (line : Line) : Option Buffer := do
  let lines ← insertReached {} row line b.lines
  return { b with lines }

def removeRow (b : Buffer) (row : Nat) : Option Buffer := do
  let lines ← removeStored row b.lines
  return { b with lines }

theorem setCell_eq (l : Line) (column : Nat) (cell : Cell) :
    setCell l column cell = some (l.set column cell) := by
  rw [setCell, editReached_eq (fun _ => rfl)]; rfl

theorem insertCell_eq (l : Line) (column : Nat) (cell : Cell) :
    insertCell l column cell = some (l.insert column cell) := by
  rw [insertCell, insertReached_eq]; rfl

theorem removeCell_eq (l : Line) (column : Nat) : removeCell l column = some (l.remove column) := by
  rw [removeCell, removeStored_eq]; rfl

theorem editRow_eq (b : Buffer) (row : Nat) {edit : Line → Option Line} {f : Line → Line}
    (edits : ∀ l, edit l = some (f l)) : editRow b row edit = some (b.modifyLine row f) := by
  rw [editRow, editReached_eq edits]; rfl

theorem insertRow_eq (b : Buffer) (row : Nat) (line : Line) :
    insertRow b row line = some (b.insert row line) := by
  rw [insertRow, insertReached_eq]; rfl

theorem removeRow_eq (b : Buffer) (row : Nat) : removeRow b row = some (b.remove row) := by
  rw [removeRow, removeStored_eq]; rfl

def fillCells (l : Line) (first last : Nat) (cell : Cell) : Option Line :=
  (span first last).foldlM (fun l column => setCell l column cell) l

theorem foldl_cells (step : List Cell → Nat → List Cell) (columns : List Nat) (l : Line) :
    columns.foldl (fun l column => { l with cells := step l.cells column }) l =
      { l with cells := columns.foldl step l.cells } := by
  induction columns generalizing l with
  | nil => rfl
  | cons column rest ih => exact ih { l with cells := step l.cells column }

theorem repeat_cells (step : List Cell → List Cell) (count : Nat) (l : Line) :
    Nat.repeat (fun l : Line => { l with cells := step l.cells }) count l =
      { l with cells := Nat.repeat step count l.cells } := by
  induction count with
  | zero => rfl
  | succ count ih => rw [Nat.repeat, ih]; rfl

theorem fillCells_eq (l : Line) (first last : Nat) (cell : Cell) :
    fillCells l first last cell = some (l.fill first last cell) := by
  have cells := foldl_cells (fun cells column => Padded.modify {} column (fun _ => cell) cells)
    (span first last) l
  rw [fillCells, foldlM_eq (P := fun _ => True) (fun l column _ => setCell_eq l column cell)
    (fun _ _ _ => trivial) _ trivial]
  refine congrArg some (cells.trans ?_)
  rw [span, Padded.foldl_modify_eq_fill, Line.fill]
  unfold Padded.fill
  by_cases proper : first < last
  · rw [show first + (last - first) = last by omega]
  · rw [if_neg proper, if_neg (by omega)]

theorem times_insertCell (l : Line) (column count : Nat) (cell : Cell) :
    times (insertCell · column cell) count l = some (l.insertMany column count cell) := by
  rw [times_eq (fun l => insertCell_eq l column cell), Line.insertMany,
    ← Padded.repeat_insert_eq_insertMany]
  exact congrArg some (repeat_cells _ count l)

theorem times_removeCell (l : Line) (column count : Nat) :
    times (removeCell · column) count l = some (l.removeMany column count) := by
  rw [times_eq (fun l => removeCell_eq l column), Line.removeMany,
    ← Padded.repeat_remove_eq_removeMany]
  exact congrArg some (repeat_cells _ count l)

def onBuffer (t : Terminal) (edit : Buffer → Option Buffer) : Option Terminal :=
  match t.active with
  | .normal => do return { t with normal := ← edit t.normal }
  | .alternate => do return { t with alternate := ← edit t.alternate }

def editLine (t : Terminal) (row : Nat) (edit : Line → Option Line) : Option Terminal :=
  onBuffer t fun b => editRow b (b.topRow + row) edit

theorem onBuffer_eq (t : Terminal) {edit : Buffer → Option Buffer} {f : Buffer → Buffer}
    (edits : ∀ b, edit b = some (f b)) : onBuffer t edit = some (t.mapBuffer f) := by
  unfold onBuffer Terminal.mapBuffer
  cases t.active <;> simp only [edits] <;> rfl

theorem editLine_eq (t : Terminal) (row : Nat) {edit : Line → Option Line} {f : Line → Line}
    (edits : ∀ l, edit l = some (f l)) : editLine t row edit = some (t.editLine row f) :=
  onBuffer_eq t fun _ => editRow_eq _ _ edits

def eraseCells (t : Terminal) (row first last : Nat) : Option Terminal := do
  let erased ← editLine t row fun l => do
    let filled ← fillCells l first (min last t.page.columns) (Cell.blank t.cursor.rendition)
    return filled.trim t.page.columns
  return (erased.reportCells row first last).marked

def eraseRow (t : Terminal) (row : Nat) : Option Terminal := eraseCells t row 0 t.page.columns

def eraseRows (t : Terminal) (first last : Nat) : Option Terminal :=
  (span first last).foldlM eraseRow t

def scrollRegionUp (t : Terminal) (top bottom : Nat) : Option Terminal := do
  let scrolled ← onBuffer t fun b => do
    let longer ← insertRow b (b.topRow + bottom + 1) {}
    removeRow longer (b.topRow + top)
  return (scrolled.reportRows top bottom).marked

def scrollRegionDown (t : Terminal) (top bottom : Nat) : Option Terminal := do
  let scrolled ← onBuffer t fun b => do
    let shorter ← removeRow b (b.topRow + bottom)
    insertRow shorter (b.topRow + top) {}
  return (scrolled.reportRows top bottom).marked

theorem eraseCells_eq (t : Terminal) (row first last : Nat) :
    eraseCells t row first last = some (t.eraseCells row first last) := by
  let blank := Cell.blank t.cursor.rendition
  rw [eraseCells, editLine_eq t row
    (f := fun l => (l.fill first (min last t.page.columns) blank).trim t.page.columns)]
  · rfl
  · intro l; rw [fillCells_eq]; rfl

theorem eraseRows_eq (t : Terminal) (first last : Nat) :
    eraseRows t first last = some (t.eraseRows first (last - first)) :=
  foldlM_eq (P := fun _ => True) (fun _ _ _ => eraseCells_eq ..) (fun _ _ _ => trivial) _ trivial

theorem scrollRegionUp_eq (t : Terminal) (top bottom : Nat) :
    scrollRegionUp t top bottom = some (t.scrollRegionUp top bottom) := by
  rw [scrollRegionUp, onBuffer_eq t
    (f := fun b => (b.insert (b.topRow + bottom + 1) {}).remove (b.topRow + top))]
  · rfl
  · intro b; rw [insertRow_eq]; exact removeRow_eq ..

theorem scrollRegionDown_eq (t : Terminal) (top bottom : Nat) :
    scrollRegionDown t top bottom = some (t.scrollRegionDown top bottom) := by
  rw [scrollRegionDown, onBuffer_eq t
    (f := fun b => (b.remove (b.topRow + bottom)).insert (b.topRow + top) {})]
  · rfl
  · intro b; rw [removeRow_eq]; exact insertRow_eq ..

def lastColumn (t : Terminal) : Option Nat := sub t.page.columns 1

def reportWindow (t : Terminal) : Option Terminal := do
  let last ← sub t.window.rows 1
  return t.reportRows 0 last

def scrollWindow (t : Terminal) : Option Terminal :=
  reportWindow (t.mapBuffer fun b => { b with topRow := b.topRow + 1 })

def advanceRow (t : Terminal) : Option Terminal :=
  if t.cursor.region.isSet then
    if t.bottomMargin ≤ t.cursor.row then do
      let scrolled ← scrollRegionUp t t.topMargin t.bottomMargin
      return { scrolled with cursor := { t.cursor with row := t.bottomMargin } }.marked
    else some { t with cursor := { t.cursor with row := t.cursor.row + 1 } }.marked
  else if t.window.rows ≤ t.cursor.row + 1 then do
    let last ← sub t.window.rows 1
    let scrolled ← scrollWindow { t with cursor := { t.cursor with row := last } }
    return scrolled.marked
  else some { t with cursor := { t.cursor with row := t.cursor.row + 1 } }.marked

def home (t : Terminal) : Option Terminal := do
  let row ← clamp t.originRow t.topMargin t.bottomMargin
  return { t with cursor := { t.cursor with row, column := 0 } }

variable {t : Terminal}

theorem lastColumn_eq (sized : Sized t) : lastColumn t = some t.lastColumn :=
  sub_one_eq sized.page_wide

theorem reportWindow_eq (tall : 0 < t.window.rows) : reportWindow t = some t.reportWindow := by
  rw [reportWindow, sub_one_eq tall]; rfl

theorem scrollWindow_eq (sized : Sized t) : scrollWindow t = some t.scrollWindow := by
  have drawn := mapBuffer_draws t fun b => { b with topRow := b.topRow + 1 }
  exact reportWindow_eq (sized.of_extents drawn.window drawn.page).tall

theorem advanceRow_eq (sized : Sized t) : advanceRow t = some t.advanceRow := by
  unfold advanceRow Terminal.advanceRow
  by_cases set : t.cursor.region.isSet
  · rw [if_pos set, if_pos set]
    by_cases bottom : t.bottomMargin ≤ t.cursor.row
    · rw [if_pos bottom, if_pos bottom, scrollRegionUp_eq]; rfl
    · rw [if_neg bottom, if_neg bottom]
  · rw [if_neg set, if_neg set]
    by_cases room : t.cursor.row + 1 < t.window.rows
    · rw [if_pos room, if_neg (Nat.not_le.mpr room)]
    · have still : Sized { t with cursor := { t.cursor with row := t.window.rows - 1 } } :=
        sized.of_extents rfl rfl
      have scrolled := scrollWindow_eq still
      rw [if_neg room, if_pos (Nat.le_of_not_lt room), sub_one_eq sized.tall, Option.bind_eq_bind,
        Option.bind_some, scrolled]
      rfl

theorem home_eq (t : Terminal) : home t = some t.home := by
  rw [home, clamp_eq (margins_ordered t)]; rfl

end VideoTerminal.Strict

import VideoTerminal.Terminal

namespace VideoTerminal.Terminal

def mapBuffer (t : Terminal) (f : Buffer → Buffer) : Terminal :=
  match t.active with
  | .normal => { t with normal := f t.normal }
  | .alternate => { t with alternate := f t.alternate }

def editLine (t : Terminal) (row : Nat) (f : Line → Line) : Terminal :=
  t.mapBuffer fun b => b.modifyLine (b.topRow + row) f

def marked (t : Terminal) : Terminal := { t with changed := true }

def raiseAll (t : Terminal) (events : List Event) : Terminal :=
  if t.listening then { t with outbox := t.outbox ++ events } else t

def raise (t : Terminal) (event : Event) : Terminal := t.raiseAll [event]

def cellEvent (t : Terminal) (row column : Nat) : Event :=
  .cellChanged row column (t.visibleCell column row)

-- One event for each cell of the row from `first` up to but not at `last`, as
-- far as the page goes. Rows below the window are not reported.
def reportCells (t : Terminal) (row first last : Nat) : Terminal :=
  if row < t.window.rows then
    t.raiseAll ((List.range' first (min last t.page.columns - first)).map (t.cellEvent row))
  else t

def reportRows (t : Terminal) (top bottom : Nat) : Terminal := t.raise (.rowsChanged top bottom)

def reportWindow (t : Terminal) : Terminal := t.reportRows 0 (t.window.rows - 1)

def eraseCells (t : Terminal) (row first last : Nat) : Terminal :=
  let blank := Cell.blank t.cursor.rendition
  let erase (l : Line) := (l.fill first (min last t.page.columns) blank).trim t.page.columns
  ((t.editLine row erase).reportCells row first last).marked

def eraseRow (t : Terminal) (row : Nat) : Terminal := t.eraseCells row 0 t.page.columns

def eraseRows (t : Terminal) (first count : Nat) : Terminal :=
  (List.range' first count).foldl eraseRow t

def scrollRegionUp (t : Terminal) (top bottom : Nat) : Terminal :=
  let scroll (b : Buffer) := (b.insert (b.topRow + bottom + 1) {}).remove (b.topRow + top)
  ((t.mapBuffer scroll).reportRows top bottom).marked

def scrollRegionDown (t : Terminal) (top bottom : Nat) : Terminal :=
  let scroll (b : Buffer) := (b.remove (b.topRow + bottom)).insert (b.topRow + top) {}
  ((t.mapBuffer scroll).reportRows top bottom).marked

-- The window moves one row down over its buffer; the row that leaves at the
-- top stays in the scrollback.
def scrollWindow (t : Terminal) : Terminal :=
  (t.mapBuffer fun b => { b with topRow := b.topRow + 1 }).reportWindow

def advanceRow (t : Terminal) : Terminal :=
  if t.cursor.region.isSet then
    if t.bottomMargin ≤ t.cursor.row then
      { t.scrollRegionUp t.topMargin t.bottomMargin with
        cursor := { t.cursor with row := t.bottomMargin } }.marked
    else { t with cursor := { t.cursor with row := t.cursor.row + 1 } }.marked
  else if t.cursor.row + 1 < t.window.rows then
    { t with cursor := { t.cursor with row := t.cursor.row + 1 } }.marked
  else { t with cursor := { t.cursor with row := t.window.rows - 1 } }.scrollWindow.marked

def clamp (value least most : Nat) : Nat := max least (min value most)

def home (t : Terminal) : Terminal :=
  { t with cursor :=
      { t.cursor with row := clamp t.originRow t.topMargin t.bottomMargin, column := 0 } }

end VideoTerminal.Terminal

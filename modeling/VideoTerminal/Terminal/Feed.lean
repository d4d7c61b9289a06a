import VideoTerminal.Dispatch
import VideoTerminal.Terminal.Perform

namespace VideoTerminal.Terminal
open Sequence

def dispatch (t : Terminal) (s : Sequence) : Terminal := t.performAll s.operations

-- Applies every complete unit and keeps the rest unread. Each unit is read in
-- the encoding that the units before it left; malformed bytes are dropped.
def apply (t : Terminal) (bytes : List UInt8) : Terminal :=
  match _scanned : scan t.encoding bytes with
  | .incomplete => { t with unread := bytes }
  | .malformed _ rest => t.apply rest
  | .unit s rest => (t.dispatch s).apply rest
termination_by bytes.length
decreasing_by
  · exact scan_shorter (by rw [_scanned]; rfl)
  · exact scan_shorter (by rw [_scanned]; rfl)

def feed (t : Terminal) (bytes : List UInt8) : Bool × Terminal :=
  let after := { t with unread := [], changed := false }.apply (t.unread ++ bytes)
  (after.changed, { after with changed := t.changed || after.changed })

-- A new window. The cursor stays on the same line of its buffer: where the
-- window became too short for it, the window moves down instead. A scroll
-- region stays only where all of it fits.
def resize (t : Terminal) (size : Extent) : Terminal :=
  let size := size.atLeastOne
  let row := min t.cursor.row (size.rows - 1)
  let fits := t.cursor.region.top < size.rows ∧ t.cursor.region.bottom.all (· < size.rows)
  let cursor :=
    { t.cursor with
      row
      column := min t.cursor.column (size.columns - 1)
      region := if fits then t.cursor.region else {} }
  let moved := t.mapBuffer fun b => { b with topRow := b.topRow + (t.cursor.row - row) }
  { moved with window := size, page := size, cursor }.reportWindow.marked

end VideoTerminal.Terminal

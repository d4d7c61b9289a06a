import VideoTerminal.Buffer
import VideoTerminal.Cursor
import VideoTerminal.Modes
import VideoTerminal.Sequence.Scan

namespace VideoTerminal

structure Extent where
  columns : Nat := 80
  rows : Nat := 24
  deriving DecidableEq, Repr, Inhabited

namespace Extent

def atLeastOne (e : Extent) : Extent := ⟨max 1 e.columns, max 1 e.rows⟩

def content (e : Extent) (titleBar : Bool) : Extent :=
  atLeastOne ⟨e.columns, if titleBar then e.rows - 1 else e.rows⟩

end Extent

-- What the terminal tells its host, in the order in which it happens. Rows
-- are those of the window and row ranges include both ends; a host that copies
-- the grid reads the rows of such a range again.
inductive Event where
  | sendData (bytes : List UInt8)
  | cellChanged (row column : Nat) (cell : Cell)
  | rowsChanged (top bottom : Nat)
  | titleChanged (title : String)
  | bell
  deriving DecidableEq, Repr, Inhabited

inductive BufferKind where
  | normal
  | alternate
  deriving DecidableEq, Repr, Inhabited

structure Identity where
  primary : List UInt8 := Utf8.encodeString "\x1b[?1;2c"
  secondary : List UInt8 := Utf8.encodeString "\x1b[>0;136;0c"
  deriving DecidableEq, Repr, Inhabited

-- The terminal: two buffers that share one cursor, the window onto them, and
-- the input that does not make a whole unit yet. The page is what text wraps
-- in; it is as wide as the window except while 132 columns are selected.
-- `changed` says that something visible changed since the host last asked,
-- and the outbox keeps, for a host that listens, the events it has not taken.
structure Terminal where
  normal : Buffer := {}
  alternate : Buffer := {}
  active : BufferKind := .normal
  cursor : Cursor := {}
  savedCursor : Option Cursor := none
  window : Extent := {}
  page : Extent := {}
  unread : List UInt8 := []
  changed : Bool := false
  title : String := ""
  cursorVisible : Bool := true
  blinkingCursor : Bool := false
  automaticNewLine : Bool := false
  keypad : Keypad := .numeric
  encoding : Encoding := .utf8
  charsets : Charsets := {}
  hostModes : HostModes := {}
  savedModes : SavedModes := {}
  identity : Identity := {}
  listening : Bool := false
  outbox : Array Event := #[]
  deriving DecidableEq, Inhabited

namespace Terminal

def new (size : Extent) (identity : Identity) (listening : Bool) : Terminal :=
  { window := size.atLeastOne, page := size.atLeastOne, identity, listening }

def buffer (t : Terminal) : Buffer :=
  match t.active with
  | .normal => t.normal
  | .alternate => t.alternate

def visibleLine? (t : Terminal) (row : Nat) : Option Line := t.buffer.visibleLine? row

def visibleCell (t : Terminal) (column row : Nat) : Cell :=
  (t.buffer.lineAt (t.buffer.topRow + row)).cellAt column

def visibleChar (t : Terminal) (column row : Nat) : Char := (t.visibleCell column row).glyph

def visibleChars (t : Terminal) (column row count : Nat) : List Char :=
  (List.range' column count).map fun x => t.visibleChar x row

def screenRows (t : Terminal) : List (List Char) :=
  (List.range t.window.rows).map fun row => t.visibleChars 0 row t.window.columns

def screenText (t : Terminal) : String :=
  "\n".intercalate (t.screenRows.map String.ofList)

def cursorPosition (t : Terminal) : Nat × Nat :=
  (min t.cursor.row (t.window.rows - 1), min t.cursor.column (t.window.columns - 1))

def topMargin (t : Terminal) : Nat := t.cursor.region.topIn t.window.rows

def bottomMargin (t : Terminal) : Nat := t.cursor.region.bottomIn t.window.rows

def lastColumn (t : Terminal) : Nat := t.page.columns - 1

def originRow (t : Terminal) : Nat := if t.cursor.originMode then t.cursor.region.top else 0

def takeEvents (t : Terminal) : Array Event × Terminal := (t.outbox, { t with outbox := #[] })

def clearChanged (t : Terminal) : Terminal := { t with changed := false }

end Terminal

end VideoTerminal

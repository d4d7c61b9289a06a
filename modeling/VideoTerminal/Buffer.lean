import VideoTerminal.Line

namespace VideoTerminal

-- A column of lines, stored as far as they have been touched, and the row at
-- which the visible window starts. Lines above that row are scrollback.
structure Buffer where
  lines : List Line := []
  topRow : Nat := 0
  deriving DecidableEq, Repr, Inhabited

namespace Buffer

def length (b : Buffer) : Nat := b.lines.length

def line? (b : Buffer) (row : Nat) : Option Line := b.lines[row]?

def lineAt (b : Buffer) (row : Nat) : Line := Padded.read {} b.lines row

def visibleLine? (b : Buffer) (row : Nat) : Option Line := b.line? (b.topRow + row)

def modifyLine (b : Buffer) (row : Nat) (f : Line → Line) : Buffer :=
  { b with lines := Padded.modify {} row f b.lines }

def insert (b : Buffer) (row : Nat) (line : Line) : Buffer :=
  { b with lines := Padded.insert {} row line b.lines }

def remove (b : Buffer) (row : Nat) : Buffer :=
  { b with lines := Padded.remove row b.lines }

theorem lineAt_modifyLine (b : Buffer) (row : Nat) (f : Line → Line) (i : Nat) :
    (b.modifyLine row f).lineAt i = if i = row then f (b.lineAt row) else b.lineAt i :=
  Padded.read_modify ..

theorem lineAt_insert (b : Buffer) (row : Nat) (line : Line) (i : Nat) :
    (b.insert row line).lineAt i =
      if i < row then b.lineAt i else if i = row then line else b.lineAt (i - 1) :=
  Padded.read_insert ..

theorem lineAt_remove (b : Buffer) (row : Nat) (i : Nat) :
    (b.remove row).lineAt i = if i < row then b.lineAt i else b.lineAt (i + 1) :=
  Padded.read_remove ..

theorem visibleLine?_getD (b : Buffer) (row : Nat) :
    (b.visibleLine? row).getD {} = b.lineAt (b.topRow + row) := by
  simp [visibleLine?, line?, lineAt, Padded.read]

end Buffer

end VideoTerminal

import VideoTerminal.Screen.Canvas
import VideoTerminal.Text.Width

-- Text in clusters: each is put down in its first column.
namespace VideoTerminal.Screen
open Text (isControl)

def Glyph.width (g : Glyph) : Nat := Text.width g.cluster

def Span.glyphs (s : Span) : List Glyph :=
  let pictures := (Text.clusters s.text).filter fun cluster => !cluster.any isControl
  pictures.map fun cluster => ⟨cluster, s.style⟩

-- Glyphs side by side in a room of so many columns, of which some are left.
-- A glyph fills its first column and leaves the others of its width as they
-- were. One without a column, or wider than the room, is passed over, and the
-- first that does not fit into what is left ends the row.
def lineUp (room : Nat) : Nat → List Glyph → List (Option Glyph)
  | _, [] => []
  | left, g :: rest =>
    if g.width = 0 ∨ room < g.width then lineUp room left rest
    else if left < g.width then []
    else some g :: List.replicate (g.width - 1) none ++ lineUp room (left - g.width) rest

def overwrite (row : List Glyph) (x : Nat) (columns : List (Option Glyph)) : List Glyph :=
  row.mapIdx fun i old => if x ≤ i then (columns[i - x]?.join).elim old (·.onto old) else old

def writeLine (area : Area) (line : List Span) (row : List Glyph) : List Glyph :=
  let room := min area.width (row.length - area.x)
  overwrite row area.x (lineUp room room (line.flatMap Span.glyphs))

def writeLines (c : Canvas) (area : Area) (lines : List (List Span)) : Canvas :=
  { c with
    rows := c.rows.mapIdx fun y row =>
      if area.y ≤ y ∧ y < area.y + area.height then
        (lines[y - area.y]?).elim row (writeLine area · row)
      else row }

def Toolkit.standard : Toolkit where
  columns c := if isControl c then 0 else Text.charWidth c
  splitFirst area :=
    ({ area with height := min 1 area.height },
      { area with y := area.y + min 1 area.height, height := area.height - 1 })
  paragraph := writeLines

end VideoTerminal.Screen

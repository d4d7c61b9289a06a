import VideoTerminal.Screen.Canvas
import VideoTerminal.Terminal

namespace VideoTerminal.Screen

-- Reversing the screen flips every cell, so a cell reversed on a reversed
-- screen is drawn straight. A hidden cell takes its background for both.
def cellStyle (r : Rendition) (screenReverse : Bool) : Style :=
  let swap := r.reverse != screenReverse
  let foreground := Paint.palette (if swap then r.background else r.foreground)
  let background := Paint.palette (if swap then r.foreground else r.background)
  { foreground := if r.hidden then background else foreground
    background
    bold := r.bright || r.standout
    dim := r.dim
    underlined := r.underscore
    slowBlink := r.blink }

def cellSpan (cell : Cell) (screenReverse : Bool) : Span :=
  ⟨[cell.glyph], cellStyle cell.rendition screenReverse⟩

def titleStyle : Style := { foreground := .brightWhite, background := .darkGray }

def titleSpan (title : String) : Span := ⟨' ' :: title.toList ++ [' '], titleStyle⟩

def rowSpans (t : Terminal) (columns row : Nat) : List Span :=
  (List.range (min columns t.window.columns)).map fun column =>
    cellSpan (t.visibleCell column row) t.cursor.reverseVideo

def windowLines (t : Terminal) (columns rows : Nat) : List (List Span) :=
  (List.range (min rows t.window.rows)).map (rowSpans t columns)

def placeCursor (c : Canvas) (area : Area) (t : Terminal) : Canvas :=
  let (row, column) := t.cursorPosition
  if t.cursorVisible ∧ column < area.width ∧ row < area.height then
    { c with cursor := some (area.x + column, area.y + row) }
  else c

section Toolkit

variable (kit : Toolkit)

-- The first row of the area goes to the title where it is shown.
def contentArea (area : Area) (showTitle : Bool) : Area :=
  if showTitle then (kit.splitFirst area).2 else area

def drawTitle (c : Canvas) (area : Area) (title : String) : Canvas :=
  kit.paragraph c (kit.splitFirst area).1 [[titleSpan title]]

def draw (c : Canvas) (area : Area) (t : Terminal) (showTitle : Bool) : Canvas :=
  let titled := if showTitle then drawTitle kit c area t.title else c
  let content := contentArea kit area showTitle
  placeCursor (kit.paragraph titled content (windowLines t content.width content.height))
    content t

end Toolkit

end VideoTerminal.Screen

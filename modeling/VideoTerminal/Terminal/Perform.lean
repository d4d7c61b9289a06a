import VideoTerminal.Terminal.Edit

namespace VideoTerminal.Terminal

def moved (base : Nat) (distance : Int) (least most : Nat) : Nat :=
  clamp ((base : Int) + distance).toNat least most

def moveCursor (t : Terminal) (right down : Int) : Terminal :=
  let row := moved t.cursor.row down t.topMargin t.bottomMargin
  let column := moved (min t.cursor.column t.lastColumn) right 0 t.lastColumn
  { t with cursor := { t.cursor with row, column } }.marked

def addressedRow (t : Terminal) (row : Nat) : Nat :=
  clamp (t.originRow + (row - 1)) t.topMargin t.bottomMargin

def addressedColumn (t : Terminal) (column : Nat) : Nat := min (column - 1) t.lastColumn

def setCursorPosition (t : Terminal) (column row : Nat) : Terminal :=
  { t with cursor :=
      { t.cursor with row := t.addressedRow row, column := t.addressedColumn column } }.marked

def setCursorColumn (t : Terminal) (column : Nat) : Terminal :=
  { t with cursor := { t.cursor with column := t.addressedColumn column } }.marked

def setCursorRow (t : Terminal) (row : Nat) : Terminal :=
  { t with cursor := { t.cursor with row := t.addressedRow row } }.marked

def withColumn (t : Terminal) (column : Nat) : Terminal :=
  { t with cursor := { t.cursor with column } }

def carriageReturn (t : Terminal) : Terminal := (t.withColumn 0).marked

def newLine (t : Terminal) : Terminal :=
  (if t.automaticNewLine then t.withColumn 0 else t).advanceRow

def nextLine (t : Terminal) : Terminal := (t.withColumn 0).advanceRow

def reverseIndex (t : Terminal) : Terminal :=
  if t.cursor.row ≤ t.topMargin then
    { t.scrollRegionDown t.topMargin t.bottomMargin with
      cursor := { t.cursor with row := t.topMargin } }.marked
  else { t with cursor := { t.cursor with row := t.cursor.row - 1 } }.marked

def backspace (t : Terminal) : Terminal :=
  (t.withColumn (min t.cursor.column t.lastColumn - 1)).marked

def saveCursor (t : Terminal) : Terminal := { t with savedCursor := some t.cursor }

def restoreCursor (t : Terminal) : Terminal :=
  match t.savedCursor with
  | none => t
  | some saved =>
    { t with cursor :=
        { saved with
          row := min saved.row (t.window.rows - 1)
          column := min saved.column t.page.columns } }.marked

-- A character that arrives behind the last column first goes to the start of
-- the next line, or back onto the last column where lines do not wrap.
def wrapped (t : Terminal) : Terminal :=
  if t.cursor.column < t.page.columns then t
  else if t.cursor.wordWrap then (t.withColumn 0).newLine
  else t.withColumn t.lastColumn

def putCell (t : Terminal) (cell : Cell) : Terminal :=
  let row := t.cursor.row
  let column := t.cursor.column
  if t.cursor.insertMode then
    let t := t.editLine row fun l => (l.insert column cell).trim t.page.columns
    ((t.withColumn (column + 1)).reportCells row column t.page.columns).marked
  else
    let t := t.editLine row fun l => (l.set column cell).trim t.page.columns
    ((t.withColumn (column + 1)).raise (.cellChanged row column cell)).marked

def putChar (t : Terminal) (c : Char) : Terminal :=
  t.wrapped.putCell ⟨t.charsets.glyph c, t.cursor.rendition⟩

def setTitle (t : Terminal) (title : String) : Terminal :=
  { t with title }.raise (.titleChanged title)

def selectRendition (t : Terminal) (code : Nat) : Terminal :=
  { t with cursor := { t.cursor with rendition := t.cursor.rendition.select code } }

def alignRow (t : Terminal) (row : Nat) : Terminal :=
  (t.editLine row fun _ => Line.filled ⟨'E', {}⟩ t.page.columns).reportCells row 0 t.page.columns

def screenAlignmentTest (t : Terminal) : Terminal :=
  let cleared := { t with cursor := { t.cursor with region := {} } }
  let filled := (List.range t.window.rows).foldl alignRow cleared
  { filled with cursor := { filled.cursor with row := 0, column := 0 } }.marked

def setLineSize (t : Terminal) (size : LineSize) : Terminal :=
  match size with
  | .screenAlignmentTest => t.screenAlignmentTest
  | .singleWidth => (t.editLine t.cursor.row Line.clearSize).marked
  | .doubleWidth =>
    (t.editLine t.cursor.row fun l => { l.clearSize with doubleWidth := true }).marked
  | .doubleHeightTop =>
    (t.editLine t.cursor.row fun l => { l.clearSize with doubleHeightTop := true }).marked
  | .doubleHeightBottom =>
    (t.editLine t.cursor.row fun l => { l.clearSize with doubleHeightBottom := true }).marked

def useBuffer (t : Terminal) (kind : BufferKind) : Terminal :=
  { t with active := kind }.reportWindow.marked

def clearScrollRegion (t : Terminal) : Terminal :=
  { t with cursor := { t.cursor with region := {} } }.home.marked

-- A region needs two rows. One that ends on the last visible row is kept
-- without a bottom.
def setScrollRegion (t : Terminal) (top bottom : Nat) : Terminal :=
  let last := t.window.rows - 1
  let top := top - 1
  let bottom := if bottom = 0 then last else min (bottom - 1) last
  if bottom ≤ top then t
  else
    let region : ScrollRegion := ⟨top, if bottom < last then some bottom else none⟩
    { t with cursor := { t.cursor with region } }.home.marked

def scrollUp (t : Terminal) (count : Nat) : Terminal :=
  Nat.repeat (fun u => u.scrollRegionUp t.topMargin t.bottomMargin)
    (min count (t.bottomMargin - t.topMargin + 1)) t

def scrollDown (t : Terminal) (count : Nat) : Terminal :=
  Nat.repeat (fun u => u.scrollRegionDown t.topMargin t.bottomMargin)
    (min count (t.bottomMargin - t.topMargin + 1)) t

def eraseToEndOfLine (t : Terminal) : Terminal :=
  t.eraseCells t.cursor.row t.cursor.column t.page.columns

def eraseToStartOfLine (t : Terminal) : Terminal :=
  t.eraseCells t.cursor.row 0 (min t.cursor.column t.lastColumn + 1)

def eraseLine (t : Terminal) : Terminal := t.eraseRow t.cursor.row

def eraseBelow (t : Terminal) : Terminal :=
  t.eraseToEndOfLine.eraseRows (t.cursor.row + 1) (t.window.rows - (t.cursor.row + 1))

def eraseAbove (t : Terminal) : Terminal := (t.eraseRows 0 t.cursor.row).eraseToStartOfLine

def eraseAll (t : Terminal) : Terminal := t.eraseRows 0 t.window.rows

def eraseCharacters (t : Terminal) (count : Nat) : Terminal :=
  t.eraseCells t.cursor.row t.cursor.column (t.cursor.column + count)

def deleteCharacters (t : Terminal) (count : Nat) : Terminal :=
  let column := min t.cursor.column t.lastColumn
  let edit (l : Line) :=
    (l.removeMany column (min count (t.page.columns - column))).trim t.page.columns
  ((t.editLine t.cursor.row edit).reportCells t.cursor.row column t.page.columns).marked

def insertBlanks (t : Terminal) (count : Nat) : Terminal :=
  let column := min t.cursor.column t.lastColumn
  let blank := Cell.blank t.cursor.rendition
  let edit (l : Line) :=
    (l.insertMany column (min count (t.page.columns - column)) blank).trim t.page.columns
  ((t.editLine t.cursor.row edit).reportCells t.cursor.row column t.page.columns).marked

def betweenMargins (t : Terminal) (edit : Buffer → Buffer) (count : Nat) : Terminal :=
  let row := t.cursor.row
  if row < t.topMargin ∨ t.bottomMargin < row then t
  else
    let edited := t.mapBuffer (Nat.repeat edit (min count (t.bottomMargin - row + 1)))
    ((edited.withColumn 0).reportRows row t.bottomMargin).marked

def deleteLines (t : Terminal) (count : Nat) : Terminal :=
  t.betweenMargins
    (fun b => (b.remove (b.topRow + t.cursor.row)).insert (b.topRow + t.bottomMargin) {}) count

def insertLines (t : Terminal) (count : Nat) : Terminal :=
  t.betweenMargins
    (fun b => (b.remove (b.topRow + t.bottomMargin)).insert (b.topRow + t.cursor.row) {}) count

def withTabStops (t : Terminal) (tabStops : TabStops) : Terminal :=
  { t with cursor := { t.cursor with tabStops } }

def setTab (t : Terminal) : Terminal :=
  t.withTabStops (TabStops.insert t.cursor.column t.cursor.tabStops)

def clearTab (t : Terminal) : Terminal :=
  t.withTabStops (TabStops.erase t.cursor.column t.cursor.tabStops)

def tab (t : Terminal) : Terminal :=
  match TabStops.next? t.cursor.column t.cursor.tabStops with
  | none => t
  | some stop => (t.withColumn (min stop t.lastColumn)).marked

def set132Columns (t : Terminal) (on : Bool) : Terminal :=
  { t with page := { t.page with columns := if on then 132 else t.window.columns } }.eraseAll.home

def setReverseVideo (t : Terminal) (on : Bool) : Terminal :=
  { t with cursor := { t.cursor with reverseVideo := on } }.marked

def setOriginMode (t : Terminal) (on : Bool) : Terminal :=
  { t with cursor := { t.cursor with originMode := on } }.home.marked

def modeValue (t : Terminal) : SavableMode → Bool
  | .cursorKeys => t.cursor.applicationKeys
  | .normalBuffer => decide (t.active = .normal)
  | .highlightMouseTracking => t.hostModes.highlightMouseTracking
  | .cellMotionMouseTracking => t.hostModes.cellMotionMouseTracking
  | .sgrMouse => t.hostModes.sgrMouse
  | .bracketedPaste => t.hostModes.bracketedPaste

def setHostMode (t : Terminal) (mode : HostMode) (on : Bool) : Terminal :=
  { t with hostModes := t.hostModes.set mode on }

def setMode (t : Terminal) (mode : SavableMode) (on : Bool) : Terminal :=
  match mode with
  | .cursorKeys => { t with cursor := { t.cursor with applicationKeys := on } }
  | .normalBuffer => t.useBuffer (if on then .normal else .alternate)
  | .highlightMouseTracking => t.setHostMode .highlightMouseTracking on
  | .cellMotionMouseTracking => t.setHostMode .cellMotionMouseTracking on
  | .sgrMouse => t.setHostMode .sgrMouse on
  | .bracketedPaste => t.setHostMode .bracketedPaste on

def saveMode (t : Terminal) (mode : SavableMode) : Terminal :=
  { t with savedModes := t.savedModes.set mode (t.modeValue mode) }

def restoreMode (t : Terminal) (mode : SavableMode) : Terminal :=
  match t.savedModes.get mode with
  | none => t
  | some value => t.setMode mode value

-- Both windows move below everything stored, so what was on screen becomes
-- scrollback. Title, unread input and the changed flag outlive the reset.
def fullReset (t : Terminal) : Terminal :=
  let emptied (b : Buffer) : Buffer := { b with topRow := b.length }
  { normal := emptied t.normal
    alternate := emptied t.alternate
    window := t.window
    page := t.window
    unread := t.unread
    changed := t.changed
    title := t.title
    identity := t.identity
    listening := t.listening
    outbox := t.outbox : Terminal }.reportWindow.marked

def decimal (n : Nat) : List UInt8 := Utf8.encode (Nat.toDigits 10 n)

def cursorReport (t : Terminal) : List UInt8 :=
  let row := t.cursor.row - t.originRow + 1
  let column := min t.cursor.column t.lastColumn + 1
  Utf8.encodeString "\x1b[" ++ decimal row ++ Utf8.encodeString ";" ++ decimal column ++
    Utf8.encodeString "R"

def statusReport : List UInt8 := Utf8.encodeString "\x1b[0n"

def send (t : Terminal) (bytes : List UInt8) : Terminal := t.raise (.sendData bytes)

def perform (t : Terminal) : Operation → Terminal
  | .moveCursor right down => t.moveCursor right down
  | .setCursorPosition column row => t.setCursorPosition column row
  | .setCursorColumn column => t.setCursorColumn column
  | .setCursorRow row => t.setCursorRow row
  | .carriageReturn => t.carriageReturn
  | .newLine | .verticalTab | .formFeed => t.newLine
  | .index => t.advanceRow
  | .nextLine => t.nextLine
  | .reverseIndex => t.reverseIndex
  | .backspace => t.backspace
  | .saveCursor => t.saveCursor
  | .restoreCursor => t.restoreCursor
  | .putChar c => t.putChar c
  | .bell => t.raise .bell
  | .setTitle title => t.setTitle title
  | .selectRendition code => t.selectRendition code
  | .shiftIn => { t with charsets := { t.charsets with shiftedOut := false } }
  | .shiftOut => { t with charsets := { t.charsets with shiftedOut := true } }
  | .designate designator set => { t with charsets := t.charsets.designate designator.slot set }
  | .setLineSize size => t.setLineSize size
  | .screenAlignmentTest => t.screenAlignmentTest
  | .selectEncodingLatin1 => { t with encoding := .latin1 }
  | .selectEncodingUtf8 => { t with encoding := .utf8 }
  | .useAlternateBuffer => t.useBuffer .alternate
  | .useNormalBuffer => t.useBuffer .normal
  | .clearScrollRegion => t.clearScrollRegion
  | .setScrollRegion top bottom => t.setScrollRegion top bottom
  | .scrollUp count => t.scrollUp count
  | .scrollDown count => t.scrollDown count
  | .eraseToEndOfLine => t.eraseToEndOfLine
  | .eraseToStartOfLine => t.eraseToStartOfLine
  | .eraseLine => t.eraseLine
  | .eraseBelow => t.eraseBelow
  | .eraseAbove => t.eraseAbove
  | .eraseAll => t.eraseAll
  | .eraseCharacters count => t.eraseCharacters count
  | .deleteCharacters count => t.deleteCharacters count
  | .insertBlanks count => t.insertBlanks count
  | .deleteLines count => t.deleteLines count
  | .insertLines count => t.insertLines count
  | .setTab => t.setTab
  | .tab => t.tab
  | .clearAllTabs => t.withTabStops []
  | .clearTab => t.clearTab
  | .setInsertMode on => { t with cursor := { t.cursor with insertMode := on } }
  | .setAutomaticNewLine on => { t with automaticNewLine := on }
  | .setApplicationCursorKeys on => t.setMode .cursorKeys on
  | .setKeypad keypad => { t with keypad }
  | .set132Columns on => t.set132Columns on
  | .setReverseVideo on => t.setReverseVideo on
  | .setOriginMode on => t.setOriginMode on
  | .setWrapAround on => { t with cursor := { t.cursor with wordWrap := on } }
  | .setBlinkingCursor on => { t with blinkingCursor := on }.marked
  | .showCursor on => { t with cursorVisible := on }.marked
  | .setHostMode mode on => t.setHostMode mode on
  | .saveMode mode => t.saveMode mode
  | .restoreMode mode => t.restoreMode mode
  | .fullReset => t.fullReset
  | .reportPrimaryAttributes => t.send t.identity.primary
  | .reportSecondaryAttributes => t.send t.identity.secondary
  | .reportStatus => t.send statusReport
  | .reportCursor => t.send t.cursorReport

def performAll (t : Terminal) (operations : List Operation) : Terminal :=
  operations.foldl perform t

end VideoTerminal.Terminal

import VideoTerminal.Rendition
import VideoTerminal.Dispatch.Rule

-- The dispatch table, a group of rules for each part of the terminal. The
-- first rule that accepts a sequence is the one that counts, so the table ends
-- each kind with its most general rule.
namespace VideoTerminal.Dispatch
open Text (isControl)

def param (s : Sequence) (i : Nat) (default : Nat) : Nat :=
  match s.params.getD i 0 with
  | 0 => default
  | value => value

def count (s : Sequence) : Int := min 0x7fffffff (param s 0 1 : Nat)

def character (command description : String) (operations : Sequence → List Operation) : Rule :=
  { description, kind := .character, command, operations }

def csi (command description : String) (operations : Sequence → List Operation) : Rule :=
  { description, kind := .csi, command, operations }

def escape (command description : String) (operations : Sequence → List Operation) : Rule :=
  { description, kind := .escape, command, operations }

section Asks

variable (command description : String) (operations : Sequence → List Operation)

@[simp] theorem operations_character :
    (character command description operations).operations = operations := rfl
@[simp] theorem operations_csi :
    (csi command description operations).operations = operations := rfl
@[simp] theorem operations_escape :
    (escape command description operations).operations = operations := rfl

end Asks

def always (operation : Operation) (_ : Sequence) : List Operation := [operation]

def withParam (operation : Nat → Operation) (s : Sequence) : List Operation :=
  [operation (param s 0 1)]

def switch (modes : List Nat) (on off : String) (operation : Bool → Operation) : List Rule :=
  [((csi "h" on (always (operation true))).exactly 1 |>.onFirst modes).query,
   ((csi "l" off (always (operation false))).exactly 1 |>.onFirst modes).query]

def savable (modes : List Nat) (name : String) (mode : SavableMode) : List Rule :=
  [((csi "s" ("Save " ++ name) (always (.saveMode mode))).exactly 1 |>.onFirst modes).query,
   ((csi "r" ("Restore " ++ name) (always (.restoreMode mode))).exactly 1 |>.onFirst modes).query]

def printable : Sequence → List Operation
  | .character c => if isControl c then [] else [.putChar c]
  | _ => []

def controls : List Rule :=
  [character "\x07" "Bell" (always .bell),
   character "\x08" "Backspace" (always .backspace),
   character "\t" "Horizontal tab" (always .tab),
   character "\n" "Line feed" (always .newLine),
   character "\x0b" "Vertical tab" (always .verticalTab),
   character "\x0c" "Form feed" (always .formFeed),
   character "\r" "Carriage return" (always .carriageReturn),
   character "\x0e" "Shift out" (always .shiftOut),
   character "\x0f" "Shift in" (always .shiftIn),
   character "" "Printable character" printable]

def setPosition (s : Sequence) : List Operation := [.setCursorPosition (param s 1 1) (param s 0 1)]

def cursorMovement : List Rule :=
  [(csi "A" "Cursor up" fun s => [.moveCursor 0 (-count s)]).exactlyOrNone 1,
   (csi "B" "Cursor down" fun s => [.moveCursor 0 (count s)]).exactlyOrNone 1,
   (csi "C" "Cursor forward" fun s => [.moveCursor (count s) 0]).exactlyOrNone 1,
   (csi "D" "Cursor backward" fun s => [.moveCursor (-count s) 0]).exactlyOrNone 1,
   (csi "E" "Cursor next line" fun s =>
     [.moveCursor 0 (count s), .carriageReturn]).exactlyOrNone 1,
   (csi "F" "Cursor previous line" fun s =>
     [.moveCursor 0 (-count s), .carriageReturn]).exactlyOrNone 1,
   (csi "G" "Cursor horizontal absolute" (withParam .setCursorColumn)).exactlyOrNone 1,
   (csi "\x60" "Character position absolute" (withParam .setCursorColumn)).exactlyOrNone 1,
   (csi "d" "Line position absolute" (withParam .setCursorRow)).exactlyOrNone 1,
   csi "H" "Cursor position" setPosition,
   csi "f" "Horizontal and vertical position" setPosition,
   (csi "s" "Save cursor (SCO)" (always .saveCursor)).exactly 0,
   (csi "u" "Restore cursor (SCO)" (always .restoreCursor)).exactly 0]

def editing : List Rule :=
  [(csi "J" "Erase below" (always .eraseBelow)).exactlyOrNone 1 |>.onFirst [0],
   (csi "J" "Erase above" (always .eraseAbove)).exactly 1 |>.onFirst [1],
   (csi "J" "Erase all" (always .eraseAll)).exactly 1 |>.onFirst [2],
   (csi "K" "Erase to end of line" (always .eraseToEndOfLine)).exactlyOrNone 1 |>.onFirst [0],
   (csi "K" "Erase to start of line" (always .eraseToStartOfLine)).exactly 1 |>.onFirst [1],
   (csi "K" "Erase line" (always .eraseLine)).exactly 1 |>.onFirst [2],
   (csi "L" "Insert lines" (withParam .insertLines)).exactlyOrNone 1,
   (csi "M" "Delete lines" (withParam .deleteLines)).exactlyOrNone 1,
   (csi "P" "Delete characters" (withParam .deleteCharacters)).exactlyOrNone 1,
   (csi "@" "Insert blanks" (withParam .insertBlanks)).exactlyOrNone 1,
   (csi "X" "Erase characters" (withParam .eraseCharacters)).exactlyOrNone 1,
   (csi "S" "Scroll up" (withParam .scrollUp)).exactlyOrNone 1,
   (csi "T" "Scroll down" (withParam .scrollDown)).exactlyOrNone 1]

def scrollRegion : List Rule :=
  [(csi "r" "Clear scrolling region" (always .clearScrollRegion)).exactly 0,
   (csi "r" "Set scrolling region" fun s =>
     [.setScrollRegion (param s 0 1) (param s 1 0)]).atLeast 1]

def tabulation : List Rule :=
  [(csi "g" "Clear tab" (always .clearTab)).exactlyOrNone 1 |>.onFirst [0],
   (csi "g" "Clear all tabs" (always .clearAllTabs)).exactly 1 |>.onFirst [3]]

def selectRendition (s : Sequence) : List Operation :=
  match s.params with
  | [] => [.selectRendition 0]
  | params => (Rendition.codes params).map .selectRendition

def reports : List Rule :=
  [(csi "c" "Primary device attributes" (always .reportPrimaryAttributes)).exactlyOrNone 1
     |>.onFirst [0],
   ((csi "c" "Secondary device attributes" (always .reportSecondaryAttributes)).exactlyOrNone 1
     |>.onFirst [0]).send,
   (csi "n" "Device status report" (always .reportStatus)).exactly 1 |>.onFirst [5],
   (csi "n" "Report cursor position" (always .reportCursor)).exactly 1 |>.onFirst [6],
   ((csi "p" "Soft terminal reset" (always .fullReset)).exactly 0).bang]

def publicModes : List Rule :=
  [(csi "h" "Insert mode" (always (.setInsertMode true))).exactly 1 |>.onFirst [4],
   (csi "l" "Replace mode" (always (.setInsertMode false))).exactly 1 |>.onFirst [4],
   (csi "h" "Automatic new line" (always (.setAutomaticNewLine true))).exactly 1 |>.onFirst [20],
   (csi "l" "Normal line feed" (always (.setAutomaticNewLine false))).exactly 1 |>.onFirst [20]]

def bufferModes : List Rule :=
  switch [47, 1047] "Alternate buffer" "Normal buffer"
    (fun on => if on then .useAlternateBuffer else .useNormalBuffer) ++
  [((csi "h" "Save cursor and use alternate buffer" fun _ =>
      [.saveCursor, .useAlternateBuffer, .eraseAll]).exactly 1 |>.onFirst [1049]).query,
   ((csi "l" "Normal buffer and restore cursor" fun _ =>
      [.useNormalBuffer, .restoreCursor]).exactly 1 |>.onFirst [1049]).query]

def privateModes : List Rule :=
  switch [1] "Application cursor keys" "Normal cursor keys" .setApplicationCursorKeys ++
  switch [3] "132 column mode" "80 column mode" .set132Columns ++
  switch [4] "Smooth scroll" "Jump scroll" (.setHostMode .smoothScroll) ++
  switch [5] "Reverse video" "Normal video" .setReverseVideo ++
  switch [6] "Origin mode" "Absolute origin" .setOriginMode ++
  switch [7] "Wrap-around mode" "No wrap-around" .setWrapAround ++
  switch [8] "Auto-repeat keys" "No auto-repeat" (.setHostMode .autoRepeatKeys) ++
  switch [12] "Blinking cursor" "Steady cursor" .setBlinkingCursor ++
  switch [25] "Show cursor" "Hide cursor" .showCursor ++
  switch [40] "Allow 80/132 mode" "Disallow 80/132 mode" (.setHostMode .allow80Or132) ++
  switch [45] "Reverse wrap-around" "No reverse wrap-around" (.setHostMode .reverseWrapAround) ++
  bufferModes ++
  switch [1000] "Highlight mouse tracking" "No highlight mouse tracking"
    (.setHostMode .highlightMouseTracking) ++
  switch [1002] "Cell motion mouse tracking" "No cell motion mouse tracking"
    (.setHostMode .cellMotionMouseTracking) ++
  switch [1006] "SGR mouse mode" "No SGR mouse mode" (.setHostMode .sgrMouse) ++
  switch [2004] "Bracketed paste" "No bracketed paste" (.setHostMode .bracketedPaste)

def savedModes : List Rule :=
  savable [1] "cursor keys" .cursorKeys ++
  savable [47, 1047, 1049] "buffer selection" .normalBuffer ++
  savable [1000] "highlight mouse tracking" .highlightMouseTracking ++
  savable [1002] "cell motion mouse tracking" .cellMotionMouseTracking ++
  savable [1006] "SGR mouse mode" .sgrMouse ++
  savable [2004] "bracketed paste" .bracketedPaste

def escapes : List Rule :=
  [escape "7" "Save cursor" (always .saveCursor),
   escape "8" "Restore cursor" (always .restoreCursor),
   escape "D" "Index" (always .index),
   escape "E" "Next line" (always .nextLine),
   escape "M" "Reverse index" (always .reverseIndex),
   escape "H" "Tab set" (always .setTab),
   escape "c" "Full reset" (always .fullReset),
   escape "=" "Application keypad" (always (.setKeypad .application)),
   escape ">" "Numeric keypad" (always (.setKeypad .numeric))]

def vt52Address : Sequence → List Operation
  | .vt52Move row column => [.setCursorPosition (max 1 column.toNat) (max 1 row.toNat)]
  | _ => []

def vt52 : List Rule :=
  [escape "A" "VT52 cursor up" (always (.moveCursor 0 (-1))),
   escape "B" "VT52 cursor down" (always (.moveCursor 0 1)),
   escape "C" "VT52 cursor right" (always (.moveCursor 1 0)),
   escape "I" "VT52 reverse line feed" (always .reverseIndex),
   escape "J" "VT52 erase to end of screen" (always .eraseBelow),
   escape "K" "VT52 erase to end of line" (always .eraseToEndOfLine),
   { description := "VT52 direct cursor address", kind := .vt52Move, command := ""
     operations := vt52Address }]

def designation : Sequence → List Operation
  | .characterSet designator set => [.designate designator set]
  | _ => []

def lineSize : Sequence → List Operation
  | .lineSize .screenAlignmentTest => [.screenAlignmentTest]
  | .lineSize size => [.setLineSize size]
  | _ => []

def title : Sequence → List Operation
  | .osc body => [.setTitle body.text]
  | _ => []

def texts : List Rule :=
  [{ description := "Designate character set", kind := .characterSet, command := ""
     operations := designation },
   { description := "Character size", kind := .lineSize, command := ""
     operations := lineSize },
   { description := "Select UTF-8", kind := .unicode, command := "G"
     operations := always .selectEncodingUtf8 },
   { description := "Select Latin-1", kind := .unicode, command := "@"
     operations := always .selectEncodingLatin1 },
   { description := "Set window title", kind := .osc, command := "", params := .exactly 1
     firstParam := [0, 2], operations := title }]

def table : List Rule :=
  controls ++ cursorMovement ++ editing ++ scrollRegion ++ tabulation ++
  [csi "m" "Select graphic rendition" selectRendition] ++
  reports ++ publicModes ++ privateModes ++ savedModes ++ escapes ++ vt52 ++ texts

end VideoTerminal.Dispatch

import VideoTerminal.Sequence

namespace VideoTerminal

inductive HostMode where
  | highlightMouseTracking
  | cellMotionMouseTracking
  | sgrMouse
  | bracketedPaste
  | autoRepeatKeys
  | smoothScroll
  | allow80Or132
  | reverseWrapAround
  deriving DecidableEq, Repr, Inhabited

namespace HostMode

def all : List HostMode :=
  [highlightMouseTracking, cellMotionMouseTracking, sgrMouse, bracketedPaste, autoRepeatKeys,
   smoothScroll, allow80Or132, reverseWrapAround]

theorem mem_all (mode : HostMode) : mode ∈ all := by
  cases mode <;> decide

end HostMode

inductive SavableMode where
  | cursorKeys
  | normalBuffer
  | highlightMouseTracking
  | cellMotionMouseTracking
  | sgrMouse
  | bracketedPaste
  deriving DecidableEq, Repr, Inhabited

namespace SavableMode

def all : List SavableMode :=
  [cursorKeys, normalBuffer, highlightMouseTracking, cellMotionMouseTracking, sgrMouse,
   bracketedPaste]

theorem mem_all (mode : SavableMode) : mode ∈ all := by
  cases mode <;> decide

end SavableMode

inductive Keypad where
  | application
  | numeric
  deriving DecidableEq, Repr, Inhabited

-- Everything a sequence can ask of the terminal. Coordinates count from one
-- and counts are at least one; a bottom of zero is the last visible row.
inductive Operation where
  | moveCursor (right down : Int)
  | setCursorPosition (column row : Nat)
  | setCursorColumn (column : Nat)
  | setCursorRow (row : Nat)
  | carriageReturn
  | newLine
  | index
  | nextLine
  | reverseIndex
  | backspace
  | verticalTab
  | formFeed
  | saveCursor
  | restoreCursor
  | putChar (c : Char)
  | bell
  | setTitle (title : String)
  | selectRendition (code : Nat)
  | shiftIn
  | shiftOut
  | designate (designator : Designator) (set : CharacterSet)
  | setLineSize (size : LineSize)
  | screenAlignmentTest
  | selectEncodingLatin1
  | selectEncodingUtf8
  | useAlternateBuffer
  | useNormalBuffer
  | clearScrollRegion
  | setScrollRegion (top bottom : Nat)
  | scrollUp (count : Nat)
  | scrollDown (count : Nat)
  | eraseToEndOfLine
  | eraseToStartOfLine
  | eraseLine
  | eraseBelow
  | eraseAbove
  | eraseAll
  | eraseCharacters (count : Nat)
  | deleteCharacters (count : Nat)
  | insertBlanks (count : Nat)
  | deleteLines (count : Nat)
  | insertLines (count : Nat)
  | setTab
  | tab
  | clearAllTabs
  | clearTab
  | setInsertMode (on : Bool)
  | setAutomaticNewLine (on : Bool)
  | setApplicationCursorKeys (on : Bool)
  | setKeypad (keypad : Keypad)
  | set132Columns (on : Bool)
  | setReverseVideo (on : Bool)
  | setOriginMode (on : Bool)
  | setWrapAround (on : Bool)
  | setBlinkingCursor (on : Bool)
  | showCursor (on : Bool)
  | setHostMode (mode : HostMode) (on : Bool)
  | saveMode (mode : SavableMode)
  | restoreMode (mode : SavableMode)
  | fullReset
  | reportPrimaryAttributes
  | reportSecondaryAttributes
  | reportStatus
  | reportCursor
  deriving DecidableEq, Repr, Inhabited

end VideoTerminal

import VideoTerminal.Terminal

namespace VideoTerminal

structure KeyBinding where
  name : String
  plain : List UInt8
  application : List UInt8
  deriving DecidableEq, Repr

namespace Keyboard

def fixed (name bytes : String) : KeyBinding :=
  ⟨name, Utf8.encodeString bytes, Utf8.encodeString bytes⟩

def cursorKey (name final : String) : KeyBinding :=
  ⟨name, Utf8.encodeString ("\x1b[" ++ final), Utf8.encodeString ("\x1bO" ++ final)⟩

def keyTable : List KeyBinding :=
  [fixed "F1" "\x1bOP",
   fixed "F2" "\x1bOQ",
   fixed "F3" "\x1bOR",
   fixed "F4" "\x1bOS",
   fixed "F5" "\x1b[15~",
   fixed "F6" "\x1b[17~",
   fixed "F7" "\x1b[18~",
   fixed "F8" "\x1b[19~",
   fixed "F9" "\x1b[20~",
   fixed "F10" "\x1b[21~",
   fixed "F11" "\x1b[23~",
   fixed "F12" "\x1b[24~",
   cursorKey "Up" "A",
   cursorKey "Down" "B",
   cursorKey "Right" "C",
   cursorKey "Left" "D",
   cursorKey "Home" "H",
   cursorKey "End" "F",
   fixed "PageUp" "\x1b[5~",
   fixed "PageDown" "\x1b[6~",
   fixed "Insert" "\x1b[2~",
   fixed "Delete" "\x1b[3~",
   fixed "Escape" "\x1b",
   fixed "Tab" "\t",
   fixed "Ctrl+Tab" "\x1b[27;5;9~",
   fixed "Enter" "\r",
   fixed "Backspace" "\x7f"]

def bytesOf? (name : String) (applicationKeys : Bool) : Option (List UInt8) :=
  (keyTable.find? fun binding => binding.name == name).map fun binding =>
    if applicationKeys then binding.application else binding.plain

end Keyboard

def Terminal.keyBytes? (t : Terminal) (name : String) : Option (List UInt8) :=
  Keyboard.bytesOf? name t.cursor.applicationKeys

end VideoTerminal

import VideoTerminal.Terminal

namespace VideoTerminal

inductive Action where
  | sendKey (name : String)
  | writeRaw (bytes : List UInt8)
  | resize (size : Extent)
  | quit
  deriving DecidableEq, Repr, Inhabited

namespace Keyboard

-- What is held with a key. Only control is looked at by itself, so that `super` stands
-- for every further modifier as well.
structure Modifiers where
  control : Bool := false
  shift : Bool := false
  alt : Bool := false
  super : Bool := false
  deriving DecidableEq, Repr, Inhabited

inductive Key where
  | char (c : Char)
  | function (n : Nat)
  | up
  | down
  | right
  | left
  | home
  | ending
  | pageUp
  | pageDown
  | insert
  | delete
  | escape
  | tab
  | enter
  | backspace
  | other
  deriving DecidableEq, Repr, Inhabited

structure Press where
  key : Key
  modifiers : Modifiers := {}
  deriving DecidableEq, Repr, Inhabited

inductive Mode where
  | normal
  | command
  deriving DecidableEq, Repr, Inhabited

def Press.isLeader (p : Press) : Bool := decide (p.key = .char 'b') && p.modifiers.control

def leaderBytes : List UInt8 := [0x02]

def functionNames : List String :=
  ["F1", "F2", "F3", "F4", "F5", "F6", "F7", "F8", "F9", "F10", "F11", "F12"]

def Press.name? (p : Press) : Option String :=
  match p.key with
  | .char _ | .other => none
  | .function 0 => none
  | .function (n + 1) => functionNames[n]?
  | .up => some "Up"
  | .down => some "Down"
  | .right => some "Right"
  | .left => some "Left"
  | .home => some "Home"
  | .ending => some "End"
  | .pageUp => some "PageUp"
  | .pageDown => some "PageDown"
  | .insert => some "Insert"
  | .delete => some "Delete"
  | .escape => some "Escape"
  | .tab => some (if p.modifiers.control then "Ctrl+Tab" else "Tab")
  | .enter => some "Enter"
  | .backspace => some "Backspace"

def Press.bytes? (p : Press) : Option (List UInt8) :=
  match p.key with
  | .char c =>
    if p.modifiers.control && c.isAlpha then some [c.toLower.toUInt8 - 0x60]
    else some (Utf8.encode [c])
  | _ => none

def normalAction (p : Press) : Option Action × Mode :=
  if p.isLeader then (none, .command)
  else
    match p.name? with
    | some name => (some (.sendKey name), .normal)
    | none => (p.bytes?.map .writeRaw, .normal)

def commandAction (p : Press) : Option Action :=
  if p = ⟨.char 'q', {}⟩ then some .quit
  else if p = ⟨.char 'b', {}⟩ ∨ p.isLeader then some (.writeRaw leaderBytes)
  else none

def press (mode : Mode) (p : Press) : Option Action × Mode :=
  match mode with
  | .normal => normalAction p
  | .command => (commandAction p, .normal)

def tick (mode : Mode) (overdue : Bool) : Option Action × Mode :=
  match mode, overdue with
  | .command, true => (some (.writeRaw leaderBytes), .normal)
  | mode, _ => (none, mode)

end Keyboard

end VideoTerminal

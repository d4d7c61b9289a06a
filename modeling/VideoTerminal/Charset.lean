namespace VideoTerminal

inductive Slot where
  | g0
  | g1
  | g2
  | g3
  deriving DecidableEq, Repr, Inhabited

def Slot.index : Slot → Nat
  | .g0 => 0
  | .g1 => 1
  | .g2 => 2
  | .g3 => 3

inductive Designator where
  | isoG0
  | isoG1
  | isoG2
  | isoG3
  | vt300G1
  | vt300G2
  | vt300G3
  deriving DecidableEq, Repr, Inhabited

namespace Designator

def all : List Designator := [isoG0, isoG1, isoG2, isoG3, vt300G1, vt300G2, vt300G3]

theorem mem_all (d : Designator) : d ∈ all := by
  cases d <;> decide

def ofByte? (byte : UInt8) : Option Designator :=
  match byte with
  | 0x28 => some .isoG0
  | 0x29 => some .isoG1
  | 0x2a => some .isoG2
  | 0x2b => some .isoG3
  | 0x2d => some .vt300G1
  | 0x2e => some .vt300G2
  | 0x2f => some .vt300G3
  | _ => none

def slot : Designator → Slot
  | isoG0 => .g0
  | isoG1 | vt300G1 => .g1
  | isoG2 | vt300G2 => .g2
  | isoG3 | vt300G3 => .g3

end Designator

inductive CharacterSet where
  | usAscii
  | decSpecialGraphics
  | uk
  | dutch
  | finnish
  | french
  | frenchCanadian
  | german
  | italian
  | norwegianDanish
  | spanish
  | swedish
  | swiss
  deriving DecidableEq, Repr, Inhabited

namespace CharacterSet

def all : List CharacterSet :=
  [usAscii, decSpecialGraphics, uk, dutch, finnish, french, frenchCanadian, german, italian,
   norwegianDanish, spanish, swedish, swiss]

theorem mem_all (set : CharacterSet) : set ∈ all := by
  cases set <;> decide

def ofCode (byte : UInt8) : CharacterSet :=
  match byte with
  | 0x30 => .decSpecialGraphics
  | 0x41 => .uk
  | 0x34 => .dutch
  | 0x43 | 0x35 => .finnish
  | 0x52 => .french
  | 0x51 => .frenchCanadian
  | 0x4b => .german
  | 0x59 => .italian
  | 0x45 | 0x36 => .norwegianDanish
  | 0x5a => .spanish
  | 0x48 | 0x37 => .swedish
  | 0x3d => .swiss
  | _ => .usAscii

def specialGraphics : List Char :=
  [' ', '◆', '▒', '␉', '␌', '␍', '␊', '°', '±', '␤', '␋', '┘', '┐', '┌', '└', '┼',
   '⎺', '⎻', '─', '⎼', '⎽', '├', '┤', '┴', '┬', '│', '≤', '≥', 'π', '≠', '£', '·']

def glyph (set : CharacterSet) (c : Char) : Char :=
  match set with
  | .decSpecialGraphics =>
    if 0x5f ≤ c.toNat then specialGraphics[c.toNat - 0x5f]?.getD c else c
  | .uk => if c.toNat = 0x23 then '£' else c
  | _ => c

end CharacterSet

-- The designated sets and the shift. Shifted out, G1 is in use, otherwise G0;
-- nothing invokes the other two.
structure Charsets where
  g0 : CharacterSet := .usAscii
  g1 : CharacterSet := .usAscii
  g2 : CharacterSet := .usAscii
  g3 : CharacterSet := .usAscii
  shiftedOut : Bool := false
  deriving DecidableEq, Repr, Inhabited

namespace Charsets

def designate (c : Charsets) (slot : Slot) (set : CharacterSet) : Charsets :=
  match slot with
  | .g0 => { c with g0 := set }
  | .g1 => { c with g1 := set }
  | .g2 => { c with g2 := set }
  | .g3 => { c with g3 := set }

def glyph (c : Charsets) (character : Char) : Char :=
  (if c.shiftedOut then c.g1 else c.g0).glyph character

end Charsets

end VideoTerminal

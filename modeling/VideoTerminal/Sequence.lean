import VideoTerminal.Charset
import VideoTerminal.Text.Quoted

namespace VideoTerminal

inductive LineSize where
  | doubleHeightTop
  | doubleHeightBottom
  | singleWidth
  | doubleWidth
  | screenAlignmentTest
  deriving DecidableEq, Repr, Inhabited

namespace LineSize

def all : List LineSize :=
  [doubleHeightTop, doubleHeightBottom, singleWidth, doubleWidth, screenAlignmentTest]

theorem mem_all (size : LineSize) : size ∈ all := by
  cases size <;> decide

def ofCode (byte : UInt8) : LineSize :=
  match byte with
  | 0x33 => .doubleHeightTop
  | 0x34 => .doubleHeightBottom
  | 0x36 => .doubleWidth
  | 0x38 => .screenAlignmentTest
  | _ => .singleWidth

end LineSize

-- The body of a control sequence. Private parameter bytes that the grammar
-- gives no meaning leave a mark: such a sequence is read whole and matches no
-- rule. The command is an optional intermediate byte and the final byte.
structure Csi where
  params : List Nat := []
  query : Bool := false
  send : Bool := false
  bang : Bool := false
  privateParams : Bool := false
  command : String := ""
  deriving DecidableEq, Repr, Inhabited

structure Osc where
  params : List Nat := []
  query : Bool := false
  send : Bool := false
  bang : Bool := false
  text : String := ""
  deriving DecidableEq, Repr, Inhabited

-- One unit of terminal input. A control sequence carries the control bytes
-- that arrived inside it; they take effect before it does.
inductive Sequence where
  | character (c : Char)
  | csi (body : Csi) (first : List Sequence)
  | osc (body : Osc)
  | ss3 (c : Char)
  | escape (c : Char)
  | compliance (c : Char)
  | unicode (c : Char)
  | characterSet (designator : Designator) (set : CharacterSet)
  | lineSize (size : LineSize)
  | vt52Move (row column : Int)
  deriving Repr, Inhabited

namespace Sequence

inductive Kind where
  | character
  | csi
  | osc
  | ss3
  | escape
  | compliance
  | unicode
  | characterSet
  | lineSize
  | vt52Move
  deriving DecidableEq, Repr, Inhabited

def kind : Sequence → Kind
  | character _ => .character
  | csi .. => .csi
  | osc _ => .osc
  | ss3 _ => .ss3
  | escape _ => .escape
  | compliance _ => .compliance
  | unicode _ => .unicode
  | characterSet .. => .characterSet
  | lineSize _ => .lineSize
  | vt52Move .. => .vt52Move

def params : Sequence → List Nat
  | csi body _ => body.params
  | osc body => body.params
  | _ => []

structure Markers where
  query : Bool := false
  send : Bool := false
  bang : Bool := false
  deriving DecidableEq, Repr, Inhabited

def markers : Sequence → Markers
  | csi body _ => ⟨body.query, body.send, body.bang⟩
  | osc body => ⟨body.query, body.send, body.bang⟩
  | _ => {}

def hasPrivateParams : Sequence → Bool
  | csi body _ => body.privateParams
  | _ => false

def first : Sequence → List Sequence
  | csi _ first => first
  | _ => []

inductive Command where
  | text (text : String)
  | character (c : Char)
  deriving DecidableEq, Repr, Inhabited

def Command.matches (command : Command) (expected : String) : Bool :=
  match command with
  | .text own => own == expected
  | .character own => [own] == expected.toList

def command : Sequence → Option Command
  | csi body _ => some (.text body.command)
  | character c | ss3 c | escape c | compliance c | unicode c => some (.character c)
  | _ => none

def designatorName : Designator → String
  | .isoG0 => "IsoG0"
  | .isoG1 => "IsoG1"
  | .isoG2 => "IsoG2"
  | .isoG3 => "IsoG3"
  | .vt300G1 => "Vt300G1"
  | .vt300G2 => "Vt300G2"
  | .vt300G3 => "Vt300G3"

def characterSetName : CharacterSet → String
  | .usAscii => "UsAscii"
  | .decSpecialGraphics => "DecSpecialGraphics"
  | .uk => "Uk"
  | .dutch => "Dutch"
  | .finnish => "Finnish"
  | .french => "French"
  | .frenchCanadian => "FrenchCanadian"
  | .german => "German"
  | .italian => "Italian"
  | .norwegianDanish => "NorwegianDanish"
  | .spanish => "Spanish"
  | .swedish => "Swedish"
  | .swiss => "Swiss"

def lineSizeName : LineSize → String
  | .doubleHeightTop => "DoubleHeightLineTop"
  | .doubleHeightBottom => "DoubleHeightLineBottom"
  | .singleWidth => "SingleWidthLine"
  | .doubleWidth => "DoubleWidthLine"
  | .screenAlignmentTest => "ScreenAlignmentTest"

def paramsText (params : List Nat) : String := ";".intercalate (params.map Nat.repr)

def describe : Sequence → String
  | character c => "CHAR " ++ Text.quotedChar c
  | csi body _ =>
    let marker :=
      if body.query then "?" else if body.send then ">" else if body.bang then "!" else ""
    "CSI " ++ marker ++ paramsText body.params ++ " " ++ body.command
  | osc body => "OSC " ++ paramsText body.params ++ " " ++ Text.quotedString body.text
  | ss3 c => "SS3 " ++ c.toString
  | escape c => "ESC " ++ c.toString
  | compliance c => "ESC SP " ++ c.toString
  | unicode c => "ESC % " ++ c.toString
  | characterSet designator set =>
    "CHARSET " ++ designatorName designator ++ " " ++ characterSetName set
  | lineSize size => "CHARSIZE " ++ lineSizeName size
  | vt52Move row column => "VT52 MOVE " ++ row.repr ++ ";" ++ column.repr

end Sequence

end VideoTerminal

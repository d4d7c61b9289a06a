import VideoTerminal.Text.Quoted

namespace VideoTerminal.Sequence

inductive Context where
  | csi
  | osc
  deriving DecidableEq, Repr, Inhabited

def Context.name : Context → String
  | .csi => "CSI"
  | .osc => "OSC"

-- Why bytes are no sequence. They have been taken from the input by then, so
-- reading goes on behind them.
inductive Fault where
  | unexpectedSeparator (context : Context)
  | duplicateModifier (first second : Char)
  | interrupted (context : Context) (byte : UInt8)
  deriving DecidableEq, Repr, Inhabited

def Fault.message : Fault → String
  | .unexpectedSeparator context => "Invalid position for ';' in " ++ context.name
  | .duplicateModifier first second =>
    "Two modifiers in a row (" ++ Text.quotedChar first ++ " then " ++ Text.quotedChar second ++ ")"
  | .interrupted context byte => context.name ++ " interrupted by byte 0x" ++ Text.hexByte byte

end VideoTerminal.Sequence

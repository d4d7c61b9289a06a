import VideoTerminal.Terminal

namespace VideoTerminal

inductive Call where
  | spawn (program term : String) (size : Extent)
  | takeReader
  | write (bytes : List UInt8)
  | resize (size : Extent)
  | tryWait
  | kill
  deriving DecidableEq, Repr, Inhabited

inductive TransportError where
  | spawn (reason : String)
  | io (reason : String)
  | closed
  deriving DecidableEq, Repr, Inhabited

def TransportError.message : TransportError → String
  | .spawn reason => "Failed to spawn transport: " ++ reason
  | .io reason => "Transport I/O error: " ++ reason
  | .closed => "Transport is not open"

-- How the far side answers. It may look at every call made before, so it can
-- fail any of them, at any time. Only waiting has an answer besides success:
-- the code the remote process ended with, once it has.
structure Responder where
  failure : List Call → Call → Option TransportError
  exitCode : List Call → Option Int

structure Transport where
  responder : Responder
  calls : List Call := []

namespace Transport

def request (t : Transport) (call : Call) : Except TransportError Unit × Transport :=
  let answered := { t with calls := t.calls ++ [call] }
  match t.responder.failure t.calls call with
  | some error => (.error error, answered)
  | none => (.ok (), answered)

def tryWait (t : Transport) : Except TransportError (Option Int) × Transport :=
  match t.request .tryWait with
  | (.error error, answered) => (.error error, answered)
  | (.ok (), answered) => (.ok (t.responder.exitCode t.calls), answered)

end Transport

namespace Responder

def unopened : Responder where
  failure _ _ := some .closed
  exitCode _ := none

end Responder

end VideoTerminal

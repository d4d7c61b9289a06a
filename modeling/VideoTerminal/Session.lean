import VideoTerminal.Keyboard.Input
import VideoTerminal.Keyboard.KeyTable
import VideoTerminal.Session.Transport
import VideoTerminal.Terminal.Feed

namespace VideoTerminal

inductive Signal where
  | redraw
  | ended
  deriving DecidableEq, Repr, Inhabited

-- One remote session. Its reading side feeds the terminal and queues signals
-- and the replies the terminal raised; its owner writes those replies and
-- everything else to the transport. Both queues keep the oldest first.
structure Session where
  terminal : Terminal
  transport : Transport
  replies : List (List UInt8) := []
  signals : List Signal := []
  reading : Bool := true
  closed : Bool := false

structure PumpOutcome where
  redraw : Bool
  closed : Bool
  deriving DecidableEq, Repr, Inhabited

namespace Session

def start (responder : Responder) (size : Extent) (identity : Identity) (program term : String) :
    Except TransportError Session × Transport :=
  match Transport.request { responder } (.spawn program term size) with
  | (.error error, spawned) => (.error error, spawned)
  | (.ok (), spawned) =>
    match spawned.request .takeReader with
    | (.error error, taken) => (.error error, taken)
    | (.ok (), taken) =>
      (.ok { terminal := Terminal.new size identity true, transport := taken }, taken)

def reply? : Event → Option (List UInt8)
  | .sendData bytes => some bytes
  | _ => none

def absorb (s : Session) (terminal : Terminal) : Session :=
  let (events, terminal) := terminal.takeEvents
  { s with terminal, replies := s.replies ++ events.toList.filterMap reply? }

def endReading (s : Session) : Session :=
  if s.reading then { s with reading := false, signals := s.signals ++ [.ended] } else s

def readChunk (s : Session) (bytes : List UInt8) : Session :=
  if !s.reading then s
  else if bytes.isEmpty then s.endReading
  else
    let (changed, fed) := s.terminal.feed bytes
    let absorbed := s.absorb fed
    { absorbed with signals := if changed then s.signals ++ [.redraw] else s.signals }

def chunkSize : Nat := 4096

def deliver (s : Session) (bytes : List UInt8) : Session :=
  if chunkSize < bytes.length then
    (s.readChunk (bytes.take chunkSize)).deliver (bytes.drop chunkSize)
  else s.readChunk bytes
termination_by bytes.length
decreasing_by simp only [chunkSize, List.length_drop] at *; omega

def failRead (s : Session) (interrupted : Bool) : Session :=
  if interrupted then s else s.endReading

def request (s : Session) (call : Call) : Except TransportError Unit × Session :=
  let (answer, transport) := s.transport.request call
  (answer, { s with transport })

def write (s : Session) (bytes : List UInt8) : Except TransportError Unit × Session :=
  s.request (.write bytes)

def sendKey (s : Session) (name : String) : Except TransportError Bool × Session :=
  match s.terminal.keyBytes? name with
  | none => (.ok false, s)
  | some bytes =>
    match s.write bytes with
    | (.error error, written) => (.error error, written)
    | (.ok (), written) => (.ok true, written)

def resize (s : Session) (size : Extent) : Except TransportError Unit × Session :=
  let size := size.atLeastOne
  (s.absorb (s.terminal.resize size)).request (.resize size)

def collectSignals (s : Session) : Bool × Session :=
  (s.signals.contains .redraw,
    { s with signals := [], closed := s.closed || s.signals.contains .ended })

-- Writes the replies in order. The one that fails has been attempted and is
-- gone; those behind it wait for the next time.
def writeReplies (s : Session) : List (List UInt8) → Except TransportError Unit × Session
  | [] => (.ok (), { s with replies := [] })
  | reply :: rest =>
    match s.write reply with
    | (.error error, written) => (.error error, { written with replies := rest })
    | (.ok (), written) => written.writeReplies rest

def checkExit (s : Session) : Except TransportError Unit × Session :=
  if s.closed then (.ok (), s)
  else
    match s.transport.tryWait with
    | (.error error, transport) => (.error error, { s with transport })
    | (.ok code, transport) => (.ok (), { s with transport, closed := code.isSome })

-- Signals are collected before replies are written, so a reply that was queued
-- before the end is still written by the pump that reports the end.
def pump (s : Session) : Except TransportError PumpOutcome × Session :=
  let (redraw, collected) := s.collectSignals
  match collected.writeReplies collected.replies with
  | (.error error, written) => (.error error, written)
  | (.ok (), written) =>
    match written.checkExit with
    | (.error error, checked) => (.error error, checked)
    | (.ok (), checked) => (.ok ⟨redraw, checked.closed⟩, checked)

def close (s : Session) : Except TransportError Unit × Session :=
  if s.closed then (.ok (), s)
  else
    match s.request .kill with
    | (.error error, killed) => (.error error, killed)
    | (.ok (), killed) => (.ok (), { killed with closed := true })

def act (s : Session) : Action → Except TransportError Unit × Session
  | .sendKey name =>
    let (sent, after) := s.sendKey name
    (sent.map fun _ => (), after)
  | .writeRaw bytes => if bytes.isEmpty then (.ok (), s) else s.write bytes
  | .resize size => s.resize size
  | .quit => (.ok (), s)

end Session

end VideoTerminal

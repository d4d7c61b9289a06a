import VideoTerminal.Proofs.Run
import VideoTerminal.Session

-- A session whose reading side runs beside its owner. The reading side puts one
-- message at a time into a queue, and the owner takes one at a time out, so that
-- either may go on in the middle of what the other does.
namespace VideoTerminal

inductive Message where
  | reply (bytes : List UInt8)
  | signal (signal : Signal)
  deriving DecidableEq, Repr

namespace Message

def reply? : Message → Option (List UInt8)
  | .reply bytes => some bytes
  | .signal _ => none

def signal? : Message → Option Signal
  | .reply _ => none
  | .signal sent => some sent

end Message

inductive Turn where
  | read (bytes : List UInt8)
  | fail (interrupted : Bool)
  | post
  deriving DecidableEq, Repr

structure Live where
  session : Session
  outgoing : List Message := []
  heard : List Terminal.Action := []

namespace Live
open Session (reply?)

def ready (l : Live) : Bool := l.session.reading && l.outgoing.isEmpty

def messages (events : Array Event) (changed : Bool) : List Message :=
  (events.toList.filterMap reply?).map .reply ++ if changed then [.signal .redraw] else []

def stop (l : Live) : Live :=
  { l with session := { l.session with reading := false }, outgoing := [.signal .ended] }

def read (l : Live) (bytes : List UInt8) : Live :=
  if !l.ready then l
  else if bytes.isEmpty then l.stop
  else
    let (changed, fed) := l.session.terminal.feed bytes
    let (events, terminal) := fed.takeEvents
    { session := { l.session with terminal }
      outgoing := messages events changed
      heard := l.heard ++ [.feed bytes] }

def fail (l : Live) (interrupted : Bool) : Live := if interrupted || !l.ready then l else l.stop

def post (l : Live) : Live :=
  match l.outgoing with
  | [] => l
  | .reply bytes :: rest =>
    { l with
      session := { l.session with replies := l.session.replies ++ [bytes] }
      outgoing := rest }
  | .signal signal :: rest =>
    { l with
      session := { l.session with signals := l.session.signals ++ [signal] }
      outgoing := rest }

def take (l : Live) : Turn → Live
  | .read bytes => l.read bytes
  | .fail interrupted => l.fail interrupted
  | .post => l.post

def takeAll (l : Live) (turns : List Turn) : Live := turns.foldl take l

-- A pump takes from its queues until it finds them empty. Before each look the
-- reading side has the turns of the next gap; when no gap is left, the rest of
-- the pump goes on undisturbed.
def collect (l : Live) : List (List Turn) → Bool × List (List Turn) × Live
  | [] =>
    let (redraw, collected) := l.session.collectSignals
    (redraw, [], { l with session := collected })
  | gap :: gaps =>
    let l := l.takeAll gap
    match l.session.signals with
    | [] => (false, gaps, l)
    | signal :: signals =>
      let closed := l.session.closed || decide (signal = .ended)
      let (redraw, rest) := collect { l with session := { l.session with signals, closed } } gaps
      (decide (signal = .redraw) || redraw, rest)

def deliver (l : Live) : List (List Turn) → Except TransportError Unit × List (List Turn) × Live
  | [] =>
    let (answer, written) := l.session.writeReplies l.session.replies
    (answer, [], { l with session := written })
  | gap :: gaps =>
    let l := l.takeAll gap
    match l.session.replies with
    | [] => (.ok (), gaps, l)
    | reply :: replies =>
      match { l.session with replies }.write reply with
      | (.error error, written) => (.error error, gaps, { l with session := written })
      | (.ok (), written) => deliver { l with session := written } gaps

-- The turns of the gaps that the pump does not get to come after it.
def pump (l : Live) (gaps : List (List Turn)) : Except TransportError PumpOutcome × Live :=
  let (redraw, gaps, collected) := l.collect gaps
  match collected.deliver gaps with
  | (.error error, gaps, written) => (.error error, written.takeAll gaps.flatten)
  | (.ok (), gaps, written) =>
    let (answer, checked) := written.session.checkExit
    let after := { written with session := checked }.takeAll gaps.flatten
    match answer with
    | .error error => (.error error, after)
    | .ok () => (.ok ⟨redraw, checked.closed⟩, after)

inductive Step where
  | turn (turn : Turn)
  | pump (gaps : List (List Turn))
  | write (bytes : List UInt8)
  | sendKey (name : String)
  | resize (size : Extent)
  | close
  deriving DecidableEq, Repr

def step (l : Live) : Step → Live
  | .turn turn => l.take turn
  | .pump gaps => (l.pump gaps).2
  | .write bytes => { l with session := (l.session.write bytes).2 }
  | .sendKey name => { l with session := (l.session.sendKey name).2 }
  | .resize size =>
    { l with session := (l.session.resize size).2, heard := l.heard ++ [.resize size.atLeastOne] }
  | .close => { l with session := l.session.close.2 }

def run (l : Live) (steps : List Step) : Live := steps.foldl step l

def opened (size : Extent) (identity : Identity) (transport : Transport) : Live :=
  { session := { terminal := Terminal.new size identity true, transport } }

theorem start_opened {responder : Responder} {size : Extent} {identity : Identity}
    {program term : String} {session : Session}
    (started : (Session.start responder size identity program term).1 = .ok session) :
    (⟨session, [], []⟩ : Live) = opened size identity session.transport := by
  unfold Session.start at started
  split at started
  · cases started
  · split at started
    · cases started
    · cases started
      rfl

def settled (l : Live) : Session :=
  { l.session with
    replies := l.session.replies ++ l.outgoing.filterMap Message.reply?
    signals := l.session.signals ++ l.outgoing.filterMap Message.signal? }

variable {l : Live}

theorem post_settled (l : Live) : l.post.settled = l.settled := by
  unfold post
  split
  · rfl
  · rename_i outgoing
    simp [settled, outgoing, List.filterMap_cons, Message.reply?, Message.signal?]
  · rename_i outgoing
    simp [settled, outgoing, List.filterMap_cons, Message.reply?, Message.signal?]

theorem post_outgoing (l : Live) : l.post.outgoing = l.outgoing.tail := by
  unfold post
  split <;> rename_i outgoing <;> rw [outgoing] <;> rfl

theorem settled_of_quiet (quiet : l.outgoing = []) : l.settled = l.session := by
  simp [settled, quiet]

-- As many turns as there are messages bring the reading side to its next read.
theorem posts_settle (l : Live) :
    (l.takeAll (List.replicate l.outgoing.length .post)).session = l.settled ∧
      (l.takeAll (List.replicate l.outgoing.length .post)).outgoing = [] := by
  generalize count : l.outgoing.length = n
  induction n generalizing l with
  | zero =>
    have quiet : l.outgoing = [] := List.length_eq_zero_iff.mp count
    exact ⟨(settled_of_quiet quiet).symm, quiet⟩
  | succ n ih =>
    have fewer : l.post.outgoing.length = n := by
      rw [post_outgoing, List.length_tail, count, Nat.add_sub_cancel]
    have later := ih l.post fewer
    rw [post_settled] at later
    exact later

theorem messages_replies (events : Array Event) (changed : Bool) :
    (messages events changed).filterMap Message.reply? = events.toList.filterMap reply? := by
  cases changed <;> simp [messages, Message.reply?, List.filterMap_map, Function.comp_def]

theorem messages_signals (events : Array Event) (changed : Bool) :
    (messages events changed).filterMap Message.signal? = if changed then [.redraw] else [] := by
  cases changed <;> simp [messages, Message.signal?, List.filterMap_map, Function.comp_def]

theorem read_settled (quiet : l.outgoing = []) (bytes : List UInt8) :
    (l.read bytes).settled = l.session.readChunk bytes := by
  unfold read Session.readChunk ready
  rw [quiet]
  cases reading : l.session.reading with
  | false => simpa using settled_of_quiet quiet
  | true =>
    by_cases empty : bytes.isEmpty
    · simp [empty, stop, settled, Session.endReading, reading, Message.reply?, Message.signal?]
    · simp only [empty, settled, messages_replies, messages_signals, Session.absorb,
        Terminal.takeEvents, List.isEmpty_nil, Bool.and_self, Bool.not_true, Bool.false_eq_true,
        if_false]
      cases (l.session.terminal.feed bytes).1 <;> simp

theorem fail_settled (quiet : l.outgoing = []) (interrupted : Bool) :
    (l.fail interrupted).settled = l.session.failRead interrupted := by
  unfold fail Session.failRead Session.endReading ready
  rw [quiet]
  cases interrupted with
  | true => exact settled_of_quiet quiet
  | false =>
    cases reading : l.session.reading with
    | false => exact settled_of_quiet quiet
    | true => simp [settled, stop, Message.reply?, Message.signal?]

theorem collect_quiet {gaps : List (List Turn)} (quiet : ∀ gap ∈ gaps, gap = []) :
    ∃ rest, l.collect gaps = (l.session.collectSignals.1, rest,
      { l with session := l.session.collectSignals.2 }) ∧ ∀ gap ∈ rest, gap = [] := by
  induction gaps generalizing l with
  | nil => exact ⟨[], rfl, quiet⟩
  | cons gap gaps ih =>
    obtain rfl : gap = [] := quiet gap List.mem_cons_self
    have later : ∀ gap ∈ gaps, gap = [] := fun gap found => quiet gap (List.mem_cons_of_mem _ found)
    obtain ⟨⟨terminal, transport, replies, signals, reading, closed⟩, outgoing, heard⟩ := l
    cases signals with
    | nil => exact ⟨gaps, by simp [collect, takeAll, Session.collectSignals], later⟩
    | cons signal signals =>
      obtain ⟨rest, collected, still⟩ := ih (l := ⟨⟨terminal, transport, replies, signals, reading,
        closed || decide (signal = .ended)⟩, outgoing, heard⟩) later
      refine ⟨rest, ?_, still⟩
      unfold collect
      simp only [takeAll, List.foldl_nil, collected]
      cases signal <;> simp [Session.collectSignals]

theorem writeReplies_queue (s : Session) (queue replies : List (List UInt8)) :
    { s with replies := queue }.writeReplies replies = s.writeReplies replies := by
  induction replies generalizing s with
  | nil => rfl
  | cons reply rest ih =>
    unfold Session.writeReplies Session.write Session.request
    dsimp only
    cases s.transport.request (.write reply) with
    | mk answer transport =>
      cases answer with
      | error error => rfl
      | ok sent => exact ih { s with transport }

theorem deliver_quiet {gaps : List (List Turn)} (quiet : ∀ gap ∈ gaps, gap = []) :
    ∃ rest, l.deliver gaps = ((l.session.writeReplies l.session.replies).1, rest,
      { l with session := (l.session.writeReplies l.session.replies).2 }) ∧
        ∀ gap ∈ rest, gap = [] := by
  induction gaps generalizing l with
  | nil => exact ⟨[], rfl, quiet⟩
  | cons gap gaps ih =>
    obtain rfl : gap = [] := quiet gap List.mem_cons_self
    have later : ∀ gap ∈ gaps, gap = [] := fun gap found => quiet gap (List.mem_cons_of_mem _ found)
    obtain ⟨⟨terminal, transport, replies, signals, reading, closed⟩, outgoing, heard⟩ := l
    cases replies with
    | nil => exact ⟨gaps, rfl, later⟩
    | cons reply replies =>
      unfold deliver
      simp only [takeAll, List.foldl_nil, Session.writeReplies, Session.write, Session.request]
      cases transport.request (.write reply) with
      | mk answer transport =>
        cases answer with
        | error error => exact ⟨gaps, rfl, later⟩
        | ok sent =>
          have same := writeReplies_queue
            ⟨terminal, transport, replies, signals, reading, closed⟩ (reply :: replies) replies
          obtain ⟨rest, delivered, still⟩ := ih
            (l := ⟨⟨terminal, transport, replies, signals, reading, closed⟩, outgoing, heard⟩) later
          refine ⟨rest, ?_, still⟩
          simp only [delivered]
          rw [same]

theorem pump_quiet {gaps : List (List Turn)} (quiet : ∀ gap ∈ gaps, gap = []) :
    l.pump gaps = (l.session.pump.1, { l with session := l.session.pump.2 }) := by
  have idle : ∀ (l : Live) {rest : List (List Turn)}, (∀ gap ∈ rest, gap = []) →
      l.takeAll rest.flatten = l := by
    intro l rest still
    rw [List.flatten_eq_nil_iff.mpr still]
    rfl
  obtain ⟨rest, collected, still⟩ := collect_quiet (l := l) quiet
  obtain ⟨last, delivered, quietLast⟩ := deliver_quiet
    (l := { l with session := l.session.collectSignals.2 }) still
  unfold pump Session.pump
  simp only [collected, delivered]
  cases l.session.collectSignals.2.writeReplies l.session.collectSignals.2.replies with
  | mk answer written =>
    cases answer with
    | error error => simp only [idle _ quietLast]
    | ok sent =>
      simp only [idle _ quietLast]
      cases written.checkExit with
      | mk answer checked => cases answer <;> rfl

end Live

end VideoTerminal

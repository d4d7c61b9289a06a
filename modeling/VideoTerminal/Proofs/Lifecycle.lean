import VideoTerminal.Proofs.Redraws
import VideoTerminal.Proofs.Sizes

-- The end of a session. It is learned from a signal of the reading side, from an
-- exit code or by killing the remote process, and is never taken back.
namespace VideoTerminal

def Call.ending : Call → Bool
  | .tryWait | .kill => true
  | _ => false

namespace Responder

def tells (responder : Responder) (made : List Call) : Call → Bool
  | .tryWait => decide (responder.failure made .tryWait = none) && (responder.exitCode made).isSome
  | .kill => decide (responder.failure made .kill = none)
  | _ => false

variable {responder : Responder} {made calls : List Call}

theorem granted_sublist (responder : Responder) (made calls : List Call) :
    (responder.granted made calls).Sublist calls := by
  induction calls generalizing made with
  | nil => exact .refl _
  | cons call rest ih =>
    unfold granted
    dsimp only
    split
    · exact (ih _).cons_cons call
    · exact (ih _).cons call

theorem granted_cons {call : Call} {rest : List Call}
    (accepted : responder.failure made call = none)
    (all : responder.granted (made ++ [call]) rest = rest) :
    responder.granted made (call :: rest) = call :: rest := by
  unfold granted
  rw [if_pos accepted, all]

end Responder

namespace Live

-- The calls of a step. Those that have nothing to do with the end of the session
-- come first, then at most one that does, if nothing said before that it is over.
structure Asks (l m : Live) (learned : Bool) (plain asked : List Call) : Prop where
  transport : m.session.transport =
    { l.session.transport with calls := l.calls ++ (plain ++ asked) }
  unending : ∀ call ∈ plain, call.ending = false
  once : asked = [] ∨ (∃ call, asked = [call]) ∧ l.session.closed = false ∧ learned = false
  closed : m.session.closed = (l.session.closed || learned ||
    asked.any (l.session.transport.responder.tells (l.calls ++ plain)))

variable {l m n : Live} {gaps : List (List Turn)} {learned : Bool} {plain asked : List Call}

theorem Asks.of_same (transport : m.session.transport = l.session.transport)
    (closed : m.session.closed = l.session.closed) : Asks l m false [] [] := by
  refine ⟨?_, nofun, .inl rfl, ?_⟩
  · rw [transport, calls, List.append_nil, List.append_nil]
  · rw [closed]
    simp

theorem Asks.waits (asks : Asks l m learned plain asked) (waits : Waits m n) :
    Asks l n learned plain asked :=
  ⟨waits.transport.trans asks.transport, asks.unending, asks.once, waits.closed.trans asks.closed⟩

theorem request_asks (l : Live) (call : Call) (session : Session)
    (unending : call.ending = false)
    (transport : session.transport = (l.session.request call).2.transport)
    (closed : session.closed = l.session.closed) :
    Asks l { l with session } false [call] [] := by
  refine ⟨?_, ?_, .inl rfl, ?_⟩
  · rw [transport, request_eq]
    rfl
  · intro other found
    rw [List.mem_singleton.mp found]
    exact unending
  · simpa using closed

theorem request_ok_iff (s : Session) (call : Call) :
    (s.request call).1 = .ok () ↔ s.transport.responder.failure s.transport.calls call = none := by
  unfold Session.request Transport.request
  dsimp only
  split
  · rename_i refused
    simp [refused]
  · rename_i accepted
    simp [accepted]

theorem collect_closed (l : Live) (gaps : List (List Turn)) :
    (l.collect gaps).2.2.session.transport = l.session.transport ∧
      (l.collect gaps).2.2.session.closed =
        (l.session.closed || (l.taken gaps).contains .ended) ∧
      l.session.replies <+: (l.collect gaps).2.2.session.replies := by
  induction gaps generalizing l with
  | nil => exact ⟨rfl, rfl, List.prefix_rfl⟩
  | cons gap gaps ih =>
    have waits := takeAll_waits l gap
    unfold collect taken
    dsimp only
    cases (l.takeAll gap).session.signals with
    | nil => exact ⟨waits.transport, by simpa using waits.closed, waits.replies⟩
    | cons signal signals =>
      obtain ⟨transport, closed, replies⟩ := ih { l.takeAll gap with session :=
        { (l.takeAll gap).session with
          signals, closed := (l.takeAll gap).session.closed || decide (signal = .ended) } }
      refine ⟨transport.trans waits.transport, closed.trans ?_, waits.replies.trans replies⟩
      rw [waits.closed]
      cases signal <;> simp

theorem writeReplies_granted (s : Session) {queue : List (List UInt8)}
    (ok : (s.writeReplies queue).1 = .ok ()) :
    s.transport.responder.granted s.transport.calls (queue.map .write) = queue.map .write := by
  induction queue generalizing s with
  | nil => rfl
  | cons reply rest ih =>
    have accepted := (request_ok_iff s (.write reply)).mp
    unfold Session.writeReplies Session.write at ok
    rw [request_eq] at ok
    cases answer : (s.request (.write reply)).1 with
    | error error =>
      rw [answer] at ok
      cases ok
    | ok sent =>
      rw [answer] at ok
      exact Responder.granted_cons (accepted answer) (ih _ ok)

structure Writes (l m : Live) (answer : Except TransportError Unit)
    (written : List (List UInt8)) : Prop where
  transport : m.session.transport =
    { l.session.transport with calls := l.calls ++ written.map .write }
  closed : m.session.closed = l.session.closed
  emptied : answer = .ok () → m.session.replies = []
  all : answer = .ok () → l.session.replies <+: written ∧
    l.session.transport.responder.granted l.calls (written.map .write) = written.map .write

theorem Writes.after {answer : Except TransportError Unit} {written : List (List UInt8)}
    (waits : Waits l m) (writes : Writes m n answer written) : Writes l n answer written := by
  have same : m.calls = l.calls := congrArg Transport.calls waits.transport
  refine ⟨?_, writes.closed.trans waits.closed, writes.emptied, fun ok => ?_⟩
  · rw [writes.transport, waits.transport, same]
  · obtain ⟨order, granted⟩ := writes.all ok
    rw [waits.transport, same] at granted
    exact ⟨waits.replies.trans order, granted⟩

theorem deliver_writes (l : Live) (gaps : List (List Turn)) :
    ∃ written, Writes l (l.deliver gaps).2.2 (l.deliver gaps).1 written := by
  induction gaps generalizing l with
  | nil =>
    obtain ⟨tried, written, parts, emptied⟩ := writeReplies_delivers l.session l.session.replies
    unfold deliver
    dsimp only
    rw [written]
    refine ⟨tried, rfl, rfl, emptied, fun ok => ?_⟩
    have whole : tried = l.session.replies := by
      rw [← parts, emptied ok, List.append_nil]
    rw [whole]
    exact ⟨List.prefix_rfl, writeReplies_granted l.session ok⟩
  | cons gap gaps ih =>
    have waits := takeAll_waits l gap
    suffices later : ∃ written, Writes (l.takeAll gap) (l.deliver (gap :: gaps)).2.2
        (l.deliver (gap :: gaps)).1 written by
      obtain ⟨written, writes⟩ := later
      exact ⟨written, writes.after waits⟩
    unfold deliver
    dsimp only
    split
    · rename_i none
      refine ⟨[], ?_, rfl, fun _ => none, fun _ => ⟨?_, rfl⟩⟩
      · rw [List.map_nil, List.append_nil]
        rfl
      · exact List.prefix_nil.mpr none
    · rename_i reply replies queued
      have accepted := (request_ok_iff { (l.takeAll gap).session with replies } (.write reply)).mp
      unfold Session.write
      rw [request_eq]
      cases answer : (Session.request _ (.write reply)).1 with
      | error error => exact ⟨[reply], rfl, rfl, nofun, nofun⟩
      | ok sent =>
        obtain ⟨written, writes⟩ := ih { l.takeAll gap with session :=
          { (l.takeAll gap).session with
            replies, transport := { (l.takeAll gap).session.transport with
              calls := (l.takeAll gap).session.transport.calls ++ [.write reply] } } }
        refine ⟨reply :: written, ?_, writes.closed, writes.emptied, fun ok => ?_⟩
        · refine writes.transport.trans ?_
          simp [calls]
        · obtain ⟨order, granted⟩ := writes.all ok
          rw [queued]
          exact ⟨(List.prefix_cons_inj reply).mpr order,
            Responder.granted_cons (accepted answer) granted⟩

theorem checkExit_asks (l : Live) :
    Asks l { l with session := l.session.checkExit.2 } false []
      (if l.session.closed then [] else [.tryWait]) := by
  cases finished : l.session.closed with
  | true =>
    have same : l.session.checkExit.2 = l.session := by simp [Session.checkExit, finished]
    rw [same]
    exact Asks.of_same rfl rfl
  | false =>
    have calls : l.calls ++ [] = l.session.transport.calls := List.append_nil _
    refine ⟨?_, nofun, .inr ⟨⟨.tryWait, rfl⟩, finished, rfl⟩, ?_⟩
    · unfold Session.checkExit Transport.tryWait Transport.request
      rw [finished]
      cases refused : l.session.transport.responder.failure l.session.transport.calls .tryWait <;>
        simp [Live.calls]
    · rw [calls]
      unfold Session.checkExit Transport.tryWait Transport.request
      cases refused : l.session.transport.responder.failure l.session.transport.calls .tryWait <;>
        simp [finished, refused, Responder.tells]

theorem close_asks (l : Live) :
    Asks l { l with session := l.session.close.2 } false []
      (if l.session.closed then [] else [.kill]) := by
  cases finished : l.session.closed with
  | true =>
    have same : l.session.close.2 = l.session := by simp [Session.close, finished]
    rw [same]
    exact Asks.of_same rfl rfl
  | false =>
    have calls : l.calls ++ [] = l.session.transport.calls := List.append_nil _
    refine ⟨?_, nofun, .inr ⟨⟨.kill, rfl⟩, finished, rfl⟩, ?_⟩
    · unfold Session.close Session.request Transport.request
      rw [finished]
      cases refused : l.session.transport.responder.failure l.session.transport.calls .kill <;>
        simp [Live.calls]
    · rw [calls]
      unfold Session.close Session.request Transport.request
      cases refused : l.session.transport.responder.failure l.session.transport.calls .kill <;>
        simp [finished, refused, Responder.tells]

def learns (l : Live) : Step → Bool
  | .pump gaps => (l.taken gaps).contains .ended
  | _ => false

theorem Asks.andThen (one : Asks l m learned plain []) (two : Asks m n false [] asked) :
    Asks l n learned plain asked := by
  have called : m.calls = l.calls ++ plain := by
    rw [calls, one.transport, List.append_nil]
  have finished : m.session.closed = (l.session.closed || learned) := by
    rw [one.closed, List.any_nil, Bool.or_false]
  refine ⟨?_, one.unending, two.once.imp_right ?_, ?_⟩
  · rw [two.transport, one.transport, called, List.nil_append, List.append_assoc]
  · rintro ⟨single, unended, -⟩
    rw [finished] at unended
    exact ⟨single, Bool.or_eq_false_iff.mp unended⟩
  · rw [two.closed, finished, called, one.transport]
    simp only [List.append_nil, Bool.or_false]

def drained (l : Live) (gaps : List (List Turn)) : Live :=
  let (_, between, collected) := l.collect gaps
  (collected.deliver between).2.2

structure Drains (l : Live) (gaps : List (List Turn)) (written : List (List UInt8)) : Prop where
  calls : (l.drained gaps).calls = l.calls ++ written.map .write
  emptied : (l.drained gaps).session.replies = []
  order : l.session.replies <+: written
  granted : l.session.transport.responder.granted l.calls (written.map .write) =
    written.map .write

theorem pump_asks (l : Live) (gaps : List (List Turn)) :
    ∃ written asked, Asks l (l.pump gaps).2 (l.learns (.pump gaps)) (written.map .write) asked ∧
      (asked = [] ∨ asked = [.tryWait] ∧ Drains l gaps written) := by
  obtain ⟨transport, closed, replies⟩ := collect_closed l gaps
  cases collected : l.collect gaps with
  | mk redraw found =>
    obtain ⟨between, m⟩ := found
    rw [collected] at transport closed replies
    obtain ⟨written, writes⟩ := deliver_writes m between
    have same : m.calls = l.calls := congrArg Transport.calls transport
    have left : l.drained gaps = (m.deliver between).2.2 := by
      unfold drained
      rw [collected]
    have delivers : Asks l (m.deliver between).2.2 (l.learns (.pump gaps))
        (written.map .write) [] := by
      refine ⟨?_, ?_, .inl rfl, ?_⟩
      · rw [writes.transport, transport, same, List.append_nil]
      · simp [Call.ending]
      · rw [writes.closed, closed, List.any_nil, Bool.or_false]
        rfl
    cases delivered : m.deliver between with
    | mk answer others =>
      obtain ⟨rest, n⟩ := others
      rw [delivered] at delivers writes left
      cases answer with
      | error error =>
        rw [pump_failed collected delivered]
        exact ⟨written, [], delivers.waits (takeAll_waits ..), .inl rfl⟩
      | ok sent =>
        rw [pump_delivered collected delivered]
        obtain ⟨order, granted⟩ := writes.all rfl
        rw [transport, same] at granted
        refine ⟨written, _, (delivers.andThen (checkExit_asks n)).waits (takeAll_waits ..), ?_⟩
        split
        · exact .inl rfl
        · refine .inr ⟨rfl, ?_, ?_, replies.trans order, granted⟩
          · rw [left, calls, writes.transport, same]
          · rw [left, writes.emptied rfl]

theorem step_asks (l : Live) (step : Step) :
    ∃ plain asked, Asks l (l.step step) (l.learns step) plain asked := by
  cases step with
  | turn turn => exact ⟨[], [], (Asks.of_same rfl rfl).waits (take_waits l turn)⟩
  | pump gaps =>
    obtain ⟨written, asked, asks, -⟩ := pump_asks l gaps
    exact ⟨written.map .write, asked, asks⟩
  | write bytes =>
    exact ⟨[.write bytes], [], request_asks l (.write bytes) (l.session.write bytes).2 rfl rfl rfl⟩
  | sendKey name =>
    show ∃ plain asked, Asks l { l with session := (l.session.sendKey name).2 } false plain asked
    unfold Session.sendKey
    split
    · exact ⟨[], [], .of_same rfl rfl⟩
    · rename_i bytes _
      have written := request_asks l (.write bytes) (l.session.request (.write bytes)).2 rfl rfl rfl
      unfold Session.write
      split <;> rename_i answered <;> rw [answered] at written <;> exact ⟨_, _, written⟩
  | resize size =>
    have asked := request_asks l (.resize size.atLeastOne) (l.session.resize size).2 rfl rfl rfl
    exact ⟨[.resize size.atLeastOne], [], asked.transport, asked.unending, .inl rfl, asked.closed⟩
  | close => exact ⟨[], _, close_asks l⟩

-- Whether a step finds the session to be over: by a signal, or by the answer to a
-- call, which is the last one it makes.
def ends (l : Live) (step : Step) : Bool :=
  l.learns step || (l.callsOf step).getLast?.any
    (l.session.transport.responder.tells (l.calls ++ (l.callsOf step).dropLast))

theorem Asks.callsOf (step : Step) (asks : Asks l (l.step step) learned plain asked) :
    l.callsOf step = plain ++ asked := by
  have made : (l.step step).calls = l.calls ++ (plain ++ asked) :=
    congrArg Transport.calls asks.transport
  rw [Live.callsOf, made, List.drop_left]

theorem tells_unending {responder : Responder} {made : List Call} {call : Call}
    (unending : call.ending = false) : responder.tells made call = false := by
  cases call with
  | tryWait | kill => cases unending
  | _ => rfl

theorem Asks.told (asks : Asks l m learned plain asked) :
    (plain ++ asked).getLast?.any (l.session.transport.responder.tells
        (l.calls ++ (plain ++ asked).dropLast)) =
      asked.any (l.session.transport.responder.tells (l.calls ++ plain)) := by
  rcases asks.once with rfl | ⟨⟨call, rfl⟩, -⟩
  · rw [List.append_nil, List.any_nil]
    cases last : plain.getLast? with
    | none => rfl
    | some call => exact tells_unending (asks.unending call (List.mem_of_getLast? last))
  · simp

theorem step_closed (l : Live) (step : Step) :
    (l.step step).session.closed = (l.session.closed || l.ends step) := by
  obtain ⟨plain, asked, asks⟩ := step_asks l step
  rw [asks.closed, ends, asks.callsOf step, asks.told, Bool.or_assoc]

theorem run_closed_iff (l : Live) (steps : List Step) :
    (l.run steps).session.closed = true ↔ l.session.closed = true ∨
      ∃ past step, past ++ [step] <+: steps ∧ (l.run past).ends step = true := by
  induction steps generalizing l with
  | nil => simp [run]
  | cons first rest ih =>
    refine (ih (l.step first)).trans ?_
    rw [step_closed, Bool.or_eq_true, or_assoc]
    refine or_congr_right ?_
    constructor
    · rintro (now | ⟨past, step, made, later⟩)
      · exact ⟨[], first, (List.prefix_cons_inj first).mpr List.nil_prefix, now⟩
      · exact ⟨first :: past, step, (List.prefix_cons_inj first).mpr made, later⟩
    · rintro ⟨past, step, made, ended⟩
      cases past with
      | nil =>
        obtain rfl : step = first := by simpa using made
        exact .inl ended
      | cons second past =>
        obtain ⟨rfl, shorter⟩ := List.cons_prefix_cons.mp made
        exact .inr ⟨past, step, shorter, ended⟩

def callsOfAll (l : Live) : List Step → List Call
  | [] => []
  | step :: rest => l.callsOf step ++ (l.step step).callsOfAll rest

theorem step_transport (l : Live) (step : Step) : (l.step step).session.transport =
    { l.session.transport with calls := l.calls ++ l.callsOf step } := by
  obtain ⟨plain, asked, asks⟩ := step_asks l step
  rw [asks.callsOf step]
  exact asks.transport

theorem run_transport (l : Live) (steps : List Step) : (l.run steps).session.transport =
    { l.session.transport with calls := l.calls ++ l.callsOfAll steps } := by
  induction steps generalizing l with
  | nil =>
    rw [callsOfAll, List.append_nil]
    rfl
  | cons step rest ih =>
    refine (ih (l.step step)).trans ?_
    rw [calls, step_transport, callsOfAll, List.append_assoc]

theorem step_finished (finished : l.session.closed = true) (step : Step) :
    (l.step step).session.closed = true ∧ ∀ call ∈ l.callsOf step, call.ending = false := by
  obtain ⟨plain, asked, asks⟩ := step_asks l step
  refine ⟨by rw [step_closed, finished, Bool.true_or], ?_⟩
  rcases asks.once with rfl | ⟨-, unended, -⟩
  · rw [asks.callsOf step, List.append_nil]
    exact asks.unending
  · rw [finished] at unended
    cases unended

theorem run_finished (finished : l.session.closed = true) (steps : List Step) :
    (l.run steps).session.closed = true ∧ ∀ call ∈ l.callsOfAll steps, call.ending = false := by
  induction steps generalizing l with
  | nil => exact ⟨finished, nofun⟩
  | cons step rest ih =>
    obtain ⟨still, unending⟩ := step_finished finished step
    obtain ⟨last, later⟩ := ih still
    refine ⟨last, fun call made => ?_⟩
    rcases List.mem_append.mp made with first | others
    · exact unending call first
    · exact later call others

theorem step_kills (l : Live) (step : Step) :
    l.session.closed.toNat +
        (l.session.transport.responder.granted l.calls (l.callsOf step)).count .kill ≤
      (l.step step).session.closed.toNat := by
  obtain ⟨plain, asked, asks⟩ := step_asks l step
  have unkilled : (l.session.transport.responder.granted l.calls plain).count .kill = 0 := by
    refine List.count_eq_zero_of_not_mem fun killed => ?_
    have made := (Responder.granted_sublist _ _ plain).subset killed
    cases asks.unending .kill made
  rw [asks.callsOf step, asks.closed, Responder.granted_append, List.count_append, unkilled,
    Nat.zero_add]
  rcases asks.once with rfl | ⟨⟨call, rfl⟩, unended, known⟩
  · cases l.session.closed <;> cases l.learns step <;> simp [Responder.granted]
  · rw [unended, known]
    by_cases killed : call = .kill
    · subst killed
      by_cases accepted : l.session.transport.responder.failure (l.calls ++ plain) .kill = none <;>
        simp [Responder.granted, Responder.tells, accepted]
    · have other : ([call] : List Call).count .kill = 0 := by simp [killed]
      have fewer := (Responder.granted_sublist l.session.transport.responder (l.calls ++ plain)
        [call]).count_le .kill
      simp only [Bool.toNat_false, Nat.zero_add]
      omega

theorem run_kills (l : Live) (steps : List Step) :
    l.session.closed.toNat +
        (l.session.transport.responder.granted l.calls (l.callsOfAll steps)).count .kill ≤
      (l.run steps).session.closed.toNat := by
  induction steps generalizing l with
  | nil => exact Nat.le_refl _
  | cons step rest ih =>
    have first := step_kills l step
    have later := ih (l.step step)
    have made : (l.step step).calls = l.calls ++ l.callsOf step :=
      congrArg Transport.calls (step_transport l step)
    have same : (l.step step).session.transport.responder = l.session.transport.responder := by
      rw [step_transport]
    rw [same, made] at later
    rw [callsOfAll, Responder.granted_append, List.count_append, ← Nat.add_assoc]
    exact Nat.le_trans (Nat.add_le_add_right first _) later

theorem callsOf_close (unended : l.session.closed = false) : l.callsOf .close = [.kill] := by
  have asks := close_asks l
  rw [unended] at asks
  exact asks.callsOf .close

theorem close_refused {error : TransportError} (refused : l.session.close.1 = .error error) :
    l.session.closed = false ∧ (l.step .close).session.closed = false := by
  cases finished : l.session.closed with
  | true =>
    simp [Session.close, finished] at refused
  | false =>
    refine ⟨rfl, ?_⟩
    show l.session.close.2.closed = false
    unfold Session.close at refused ⊢
    rw [request_eq] at refused ⊢
    cases answer : (l.session.request .kill).1 with
    | error error => simp [finished]
    | ok done => simp [finished, answer] at refused

-- For any transport, which may refuse any call at any time, and any run. One of
-- three things ends the session, and it ends once.
theorem ends_once (size : Extent) (identity : Identity) (transport : Transport)
    (before after : List Step) :
    let start := opened size identity transport
    let l := start.run before
    (l.session.closed = true ↔
      ∃ past step, past ++ [step] <+: before ∧ (start.run past).ends step = true) ∧
    (l.session.closed = true → (l.run after).session.closed = true ∧
      .tryWait ∉ l.callsOfAll after ∧ .kill ∉ l.callsOfAll after) ∧
    (transport.responder.granted transport.calls (start.callsOfAll before)).count .kill ≤ 1 ∧
    (l.session.closed = false → l.callsOf .close = [.kill]) ∧
    (∀ error, l.session.close.1 = .error error →
      l.session.closed = false ∧ (l.step .close).session.closed = false) ∧
    ∀ gaps, ∃ written asked, l.callsOf (.pump gaps) = written.map .write ++ asked ∧
      (asked = [] ∨ asked = [.tryWait] ∧ l.session.closed = false ∧
        .ended ∉ l.taken gaps ∧ Drains l gaps written) := by
  intro start l
  refine ⟨?_, fun finished => ?_, ?_, callsOf_close, fun error refused => close_refused refused, ?_⟩
  · have opened : start.session.closed = false := rfl
    have known := run_closed_iff start before
    rw [opened] at known
    simpa using known
  · obtain ⟨still, unending⟩ := run_finished finished after
    refine ⟨still, fun asked => ?_, fun killed => ?_⟩
    · cases unending .tryWait asked
    · cases unending .kill killed
  · have killed := run_kills start before
    have most : (start.run before).session.closed.toNat ≤ 1 := Bool.toNat_le _
    have count := Nat.le_trans killed most
    exact Nat.le_trans (Nat.le_add_left ..) count
  · intro gaps
    obtain ⟨written, asked, asks, once⟩ := pump_asks l gaps
    refine ⟨written, asked, asks.callsOf (.pump gaps), ?_⟩
    rcases once with none | ⟨one, drains⟩
    · exact .inl none
    · rcases asks.once with none | ⟨-, unended, unlearned⟩
      · exact .inl none
      · have quiet : .ended ∉ l.taken gaps := by simpa [learns] using unlearned
        exact .inr ⟨one, unended, quiet, drains⟩

theorem ends_once_after_refusal :
    let start := opened ⟨10, 3⟩ {} ⟨refusing, []⟩
    (start.step .close).session.closed = false ∧
      (start.step .close).callsOf .close = [.kill] ∧
      (start.run [.close, .close]).session.closed = true ∧
      .kill ∉ (start.run [.close, .close]).callsOfAll [.close, .pump []] ∧
      (refusing.granted [] (start.callsOfAll [.close, .close])).count .kill = 1 := by
  have refused : ((opened ⟨10, 3⟩ {} ⟨refusing, []⟩).run []).session.close.1 =
      .error (.io "refused") := rfl
  have first := ends_once ⟨10, 3⟩ {} ⟨refusing, []⟩ [] []
  have second := ends_once ⟨10, 3⟩ {} ⟨refusing, []⟩ [.close] []
  have third := ends_once ⟨10, 3⟩ {} ⟨refusing, []⟩ [.close, .close] [.close, .pump []]
  have unended := (first.2.2.2.2.1 _ refused).2
  have ended : ((opened ⟨10, 3⟩ {} ⟨refusing, []⟩).run [.close, .close]).session.closed = true :=
    third.1.mpr ⟨[.close], .close, List.prefix_rfl, by decide +kernel⟩
  exact ⟨unended, second.2.2.2.1 unended, ended, (third.2.1 ended).2.2, by decide +kernel⟩

end Live

end VideoTerminal

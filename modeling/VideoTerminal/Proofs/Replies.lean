import VideoTerminal.Proofs.Heir
import VideoTerminal.Proofs.Interleaving

-- Replies on their way from the terminal to the transport. Each is in one place:
-- outgoing, in the queue, or attempted by a pump.
namespace VideoTerminal

def Call.written? : Call → Option (List UInt8)
  | .write bytes => some bytes
  | _ => none

namespace Terminal

def replies (t : Terminal) : List (List UInt8) := t.outbox.toList.filterMap Session.reply?

theorem heir_of_events (t : Terminal) (earlier : Array Event) :
    t.heir { earlier } = { t with outbox := earlier ++ t.outbox } := by
  simp [heir, Buffer.below]

theorem takeEvents_heir (t : Terminal) : t.takeEvents.2.heir { earlier := t.outbox } = t := by
  rw [heir_of_events]
  simp [takeEvents]

theorem act_taken (t : Terminal) (action : Action) :
    t.act action = { t.takeEvents.2.act action with
      outbox := t.outbox ++ (t.takeEvents.2.act action).outbox } := by
  have kept : ({ earlier := t.outbox } : Past).unread = none := rfl
  have acted := heir_act t.takeEvents.2 kept action
  rwa [takeEvents_heir, Past.afterAll_of_none rfl, heir_of_events] at acted

theorem act_replies (t : Terminal) (action : Action) :
    (t.act action).replies = t.replies ++ (t.takeEvents.2.act action).replies := by
  rw [act_taken]
  simp [replies]

theorem act_takeEvents (t : Terminal) (action : Action) :
    (t.act action).takeEvents.2 = (t.takeEvents.2.act action).takeEvents.2 := by
  rw [act_taken t action]
  rfl

theorem resize_replies (t : Terminal) (size : Extent) : (t.resize size).replies = t.replies := by
  have moved : ∀ edit, (t.mapBuffer edit).outbox = t.outbox := fun edit => by
    unfold mapBuffer
    cases t.active <;> rfl
  unfold resize reportWindow reportRows raise raiseAll replies
  dsimp only
  split
  · simp [marked, moved, Session.reply?]
  · simp [marked, moved]

end Terminal

namespace Live

def pending (l : Live) : List (List UInt8) :=
  l.session.replies ++ l.outgoing.filterMap Message.reply?

def calls (l : Live) : List Call := l.session.transport.calls

-- The reading side stopped and has nothing left to say.
structure Ended (l : Live) : Prop where
  stopped : l.session.reading = false
  silent : l.outgoing = []

-- What was attempted, then what is pending, is what the terminal raised since
-- it was `origin`. The end is announced last.
structure Tallied (origin : Terminal) (tried : List (List UInt8)) (l : Live) : Prop where
  terminal : l.session.terminal = (origin.run l.heard).takeEvents.2
  replies : tried ++ l.pending = (origin.run l.heard).replies
  queued : .ended ∈ l.session.signals → Ended l
  outgoing : .signal .ended ∈ l.outgoing →
    l.session.reading = false ∧ l.outgoing = [.signal .ended]

structure Waits (l m : Live) : Prop where
  transport : m.session.transport = l.session.transport
  closed : m.session.closed = l.session.closed
  replies : l.session.replies <+: m.session.replies
  ended : Ended l → m = l

variable {origin : Terminal} {tried : List (List UInt8)} {l m n : Live}

theorem Waits.refl (l : Live) : Waits l l := ⟨rfl, rfl, List.prefix_rfl, fun _ => rfl⟩

theorem Waits.trans (one : Waits l m) (two : Waits m n) : Waits l n := by
  refine ⟨two.transport.trans one.transport, two.closed.trans one.closed,
    one.replies.trans two.replies, fun ended => ?_⟩
  have same := one.ended ended
  rw [two.ended (same ▸ ended), same]

theorem Ended.not_ready (ended : Ended l) : l.ready = false := by
  simp [ready, ended.stopped]

theorem ready_iff : l.ready = true ↔ l.session.reading = true ∧ l.outgoing = [] := by
  simp [ready]

theorem run_append (t : Terminal) (first : List Terminal.Action) (action : Terminal.Action) :
    t.run (first ++ [action]) = (t.run first).act action := by
  rw [Terminal.run, List.foldl_append]
  rfl

theorem take_waits (l : Live) (turn : Turn) : Waits l (l.take turn) := by
  cases turn with
  | read bytes =>
    show Waits l (l.read bytes)
    unfold read
    split
    · exact .refl l
    · rename_i ready
      have going : ¬Ended l := fun ended => ready (by rw [ended.not_ready]; rfl)
      split
      · exact ⟨rfl, rfl, List.prefix_rfl, fun ended => absurd ended going⟩
      · exact ⟨rfl, rfl, List.prefix_rfl, fun ended => absurd ended going⟩
  | fail interrupted =>
    show Waits l (l.fail interrupted)
    unfold fail
    split
    · exact .refl l
    · rename_i failed
      refine ⟨rfl, rfl, List.prefix_rfl, fun ended => absurd ?_ failed⟩
      simp [ended.not_ready]
  | post =>
    show Waits l l.post
    unfold post
    split
    · exact .refl l
    · rename_i outgoing
      refine ⟨rfl, rfl, List.prefix_append .., fun ended => ?_⟩
      rw [ended.silent] at outgoing
      cases outgoing
    · rename_i outgoing
      refine ⟨rfl, rfl, List.prefix_rfl, fun ended => ?_⟩
      rw [ended.silent] at outgoing
      cases outgoing

theorem Tallied.stop (tallied : Tallied origin tried l) (ready : l.ready = true) :
    Tallied origin tried l.stop := by
  obtain ⟨reading, quiet⟩ := ready_iff.mp ready
  refine ⟨tallied.terminal, ?_, fun queued => ?_, fun _ => ⟨rfl, rfl⟩⟩
  · have replies := tallied.replies
    rw [pending, quiet] at replies
    exact replies
  · have ended := tallied.queued queued
    rw [ended.stopped] at reading
    cases reading

theorem post_pending (l : Live) : l.post.pending = l.pending := by
  unfold post
  split
  · rfl
  · rename_i outgoing
    simp [pending, outgoing, Message.reply?]
  · rename_i outgoing
    simp [pending, outgoing, List.filterMap_cons, Message.reply?]

theorem post_signals {signal : Signal} (queued : signal ∈ l.post.session.signals) :
    signal ∈ l.session.signals ∨ .signal signal ∈ l.outgoing := by
  unfold post at queued
  split at queued
  · exact .inl queued
  · exact .inl queued
  · rename_i outgoing
    rcases List.mem_append.mp queued with before | now
    · exact .inl before
    · rw [List.mem_singleton.mp now, outgoing]
      exact .inr List.mem_cons_self

theorem not_ended_mem_messages (events : Array Event) (changed : Bool) :
    .signal .ended ∉ messages events changed := by
  cases changed <;> simp [messages]

theorem Tallied.take (tallied : Tallied origin tried l) (turn : Turn) :
    Tallied origin tried (l.take turn) := by
  cases turn with
  | read bytes =>
    show Tallied origin tried (l.read bytes)
    unfold read
    split
    · exact tallied
    · rename_i notReady
      have ready : l.ready = true := by simpa using notReady
      split
      · exact tallied.stop ready
      · obtain ⟨reading, quiet⟩ := ready_iff.mp ready
        have replies := tallied.replies
        rw [pending, quiet, List.filterMap_nil, List.append_nil] at replies
        refine ⟨?_, ?_, fun queued => ?_, fun sent => absurd sent (not_ended_mem_messages _ _)⟩
        · rw [run_append, Terminal.act_takeEvents, ← tallied.terminal]
          rfl
        · rw [run_append, Terminal.act_replies, ← tallied.terminal, ← replies, pending,
            messages_replies, List.append_assoc]
          rfl
        · have ended := tallied.queued queued
          rw [ended.stopped] at reading
          cases reading
  | fail interrupted =>
    show Tallied origin tried (l.fail interrupted)
    unfold fail
    split
    · exact tallied
    · rename_i failed
      exact tallied.stop (by simp_all)
  | post =>
    show Tallied origin tried l.post
    have heard : l.post.heard = l.heard := by unfold post; split <;> rfl
    have terminal : l.post.session.terminal = l.session.terminal := by unfold post; split <;> rfl
    have reading : l.post.session.reading = l.session.reading := by unfold post; split <;> rfl
    refine ⟨?_, ?_, fun queued => ?_, fun sent => ?_⟩
    · rw [terminal, heard]
      exact tallied.terminal
    · rw [post_pending, heard]
      exact tallied.replies
    · rcases post_signals queued with before | last
      · have ended := tallied.queued before
        have same : l.post = l := (take_waits l .post).ended ended
        rw [same]
        exact ended
      · obtain ⟨stopped, only⟩ := tallied.outgoing last
        exact ⟨reading.trans stopped, by rw [post_outgoing, only]; rfl⟩
    · rw [post_outgoing] at sent
      obtain ⟨-, only⟩ := tallied.outgoing (List.mem_of_mem_tail sent)
      rw [only] at sent
      cases sent

theorem takeAll_waits (l : Live) (turns : List Turn) : Waits l (l.takeAll turns) := by
  induction turns generalizing l with
  | nil => exact .refl l
  | cons turn rest ih => exact (take_waits l turn).trans (ih _)

theorem Tallied.takeAll (tallied : Tallied origin tried l) (turns : List Turn) :
    Tallied origin tried (l.takeAll turns) := by
  induction turns generalizing l with
  | nil => exact tallied
  | cons turn rest ih => exact ih (tallied.take turn)

theorem Tallied.update (tallied : Tallied origin tried l) {session : Session}
    (terminal : session.terminal = l.session.terminal)
    (replies : session.replies = l.session.replies) (reading : session.reading = l.session.reading)
    (fewer : ∀ signal ∈ session.signals, signal ∈ l.session.signals) :
    Tallied origin tried { l with session } := by
  refine ⟨terminal.trans tallied.terminal, ?_, fun queued => ?_, fun sent => ?_⟩
  · rw [pending, replies]
    exact tallied.replies
  · have ended := tallied.queued (fewer _ queued)
    exact ⟨reading.trans ended.stopped, ended.silent⟩
  · obtain ⟨stopped, only⟩ := tallied.outgoing sent
    exact ⟨reading.trans stopped, only⟩

structure Collects (l m : Live) : Prop where
  transport : m.session.transport = l.session.transport
  replies : l.session.replies <+: m.session.replies
  ended : Ended l → Ended m
  closed : m.session.closed = true → l.session.closed = true ∨ Ended m

theorem collect_collects (tallied : Tallied origin tried l) (gaps : List (List Turn)) :
    Tallied origin tried (l.collect gaps).2.2 ∧ Collects l (l.collect gaps).2.2 := by
  induction gaps generalizing l with
  | nil =>
    refine ⟨tallied.update rfl rfl rfl (fun _ found => nomatch found), rfl, List.prefix_rfl,
      fun ended => ⟨ended.stopped, ended.silent⟩, fun closed => ?_⟩
    rcases Bool.or_eq_true_iff.mp closed with before | found
    · exact .inl before
    · have ended := tallied.queued (List.contains_iff_mem.mp found)
      exact .inr ⟨ended.stopped, ended.silent⟩
  | cons gap gaps ih =>
    have waits := takeAll_waits l gap
    have kept := tallied.takeAll gap
    have still : Ended l → Ended (l.takeAll gap) := fun ended => by
      rw [waits.ended ended]
      exact ended
    unfold collect
    dsimp only
    split
    · refine ⟨kept, waits.transport, waits.replies, still, fun closed => .inl ?_⟩
      rw [← waits.closed]
      exact closed
    · rename_i signal signals queued
      have fewer : ∀ other ∈ signals, other ∈ (l.takeAll gap).session.signals := by
        intro other found
        rw [queued]
        exact List.mem_cons_of_mem _ found
      have taken : Tallied origin tried { l.takeAll gap with session :=
          { (l.takeAll gap).session with
            signals, closed := (l.takeAll gap).session.closed || decide (signal = .ended) } } :=
        kept.update rfl rfl rfl fewer
      obtain ⟨tally, later⟩ := ih taken
      refine ⟨tally, later.transport.trans waits.transport, waits.replies.trans later.replies,
        fun ended => later.ended ⟨(still ended).stopped, (still ended).silent⟩, fun closed => ?_⟩
      rcases later.closed closed with before | ended
      · rcases Bool.or_eq_true_iff.mp before with before | found
        · exact .inl (waits.closed ▸ before)
        · have first : signal = .ended := of_decide_eq_true found
          have ended := kept.queued (by rw [queued, first]; exact List.mem_cons_self)
          exact .inr (later.ended ⟨ended.stopped, ended.silent⟩)
      · exact .inr ended

theorem request_eq (s : Session) (call : Call) :
    s.request call = ((s.request call).1, { s with transport := { s.transport with
      calls := s.transport.calls ++ [call] } }) := by
  unfold Session.request Transport.request
  dsimp only
  split <;> rfl

structure Delivers (l m : Live) (tried : List (List UInt8))
    (answer : Except TransportError Unit) : Prop where
  calls : m.calls = l.calls ++ tried.map .write
  replies : l.session.replies <+: tried ++ m.session.replies
  ended : Ended l → Ended m
  closed : m.session.closed = l.session.closed
  emptied : answer = .ok () → m.session.replies = []

theorem writeReplies_delivers (s : Session) (queue : List (List UInt8)) :
    ∃ tried, (s.writeReplies queue).2 = { s with
        transport := { s.transport with calls := s.transport.calls ++ tried.map .write }
        replies := (s.writeReplies queue).2.replies } ∧
      tried ++ (s.writeReplies queue).2.replies = queue ∧
      ((s.writeReplies queue).1 = .ok () → (s.writeReplies queue).2.replies = []) := by
  induction queue generalizing s with
  | nil => exact ⟨[], by simp [Session.writeReplies], rfl, fun _ => rfl⟩
  | cons reply rest ih =>
    unfold Session.writeReplies Session.write
    rw [request_eq]
    cases (s.request (.write reply)).1 with
    | error error => exact ⟨[reply], rfl, rfl, fun ok => by cases ok⟩
    | ok sent =>
      obtain ⟨tried, written, parts, emptied⟩ := ih { s with transport :=
        { s.transport with calls := s.transport.calls ++ [.write reply] } }
      refine ⟨reply :: tried, written.trans ?_, congrArg (reply :: ·) parts, emptied⟩
      simp

theorem Tallied.delivered (tallied : Tallied origin tried l) (transport : Transport)
    {replies more : List (List UInt8)} (parts : more ++ replies = l.session.replies) :
    Tallied origin (tried ++ more)
      { l with session := { l.session with transport, replies } } := by
  refine ⟨tallied.terminal, ?_, fun queued => ?_, tallied.outgoing⟩
  · have total := tallied.replies
    rw [pending, ← parts] at total
    simpa [pending] using total
  · have ended := tallied.queued queued
    exact ⟨ended.stopped, ended.silent⟩

theorem deliver_delivers (tallied : Tallied origin tried l) (gaps : List (List Turn)) :
    ∃ more, Tallied origin (tried ++ more) (l.deliver gaps).2.2 ∧
      Delivers l (l.deliver gaps).2.2 more (l.deliver gaps).1 := by
  induction gaps generalizing l tried with
  | nil =>
    obtain ⟨more, written, parts, emptied⟩ := writeReplies_delivers l.session l.session.replies
    unfold deliver
    dsimp only
    rw [written]
    refine ⟨more, tallied.delivered _ parts, rfl, ?_, fun ended => ⟨ended.stopped, ended.silent⟩,
      rfl, emptied⟩
    exact ⟨[], by rw [List.append_nil, parts]⟩
  | cons gap gaps ih =>
    have waits := takeAll_waits l gap
    have kept := tallied.takeAll gap
    have still : Ended l → Ended (l.takeAll gap) := fun ended => by
      rw [waits.ended ended]
      exact ended
    unfold deliver
    dsimp only
    split
    · rename_i queued
      refine ⟨[], by rw [List.append_nil]; exact kept, ?_, ?_, still, waits.closed, fun _ => queued⟩
      · rw [calls, calls, waits.transport, List.map_nil, List.append_nil]
      · exact waits.replies
    · rename_i reply replies queued
      have one : [reply] ++ replies = (l.takeAll gap).session.replies := queued.symm
      have called : ∀ tail, (l.takeAll gap).session.transport.calls ++ [.write reply] ++ tail =
          l.calls ++ .write reply :: tail := fun tail => by
        rw [calls, waits.transport, List.append_assoc, List.singleton_append]
      have first := kept.delivered { (l.takeAll gap).session.transport with
        calls := (l.takeAll gap).session.transport.calls ++ [.write reply] } one
      unfold Session.write
      rw [request_eq]
      cases (Session.request _ (.write reply)).1 with
      | error error =>
        refine ⟨[reply], first, ?_, ?_, ?_, waits.closed, nofun⟩
        · rw [calls, waits.transport]
          rfl
        · exact waits.replies.trans (by rw [queued]; exact List.prefix_rfl)
        · exact fun ended => ⟨(still ended).stopped, (still ended).silent⟩
      | ok sent =>
        obtain ⟨more, tally, rest⟩ := ih first
        refine ⟨reply :: more, by simpa using tally, ?_, ?_, ?_, rest.closed.trans waits.closed,
          rest.emptied⟩
        · exact rest.calls.trans (called _)
        · refine waits.replies.trans ?_
          rw [queued]
          exact (List.prefix_cons_inj reply).mpr rest.replies
        · exact fun ended => rest.ended ⟨(still ended).stopped, (still ended).silent⟩

theorem checkExit_calls (s : Session) :
    ∃ asked, s.checkExit.2 = { s with
        transport := { s.transport with calls := s.transport.calls ++ asked }
        closed := s.checkExit.2.closed } ∧
      (asked = [] ∧ s.closed = true ∨ asked = [.tryWait] ∧ s.closed = false) := by
  unfold Session.checkExit Transport.tryWait Transport.request
  cases closed : s.closed with
  | true => exact ⟨[], by simp only [if_pos, List.append_nil], .inl ⟨rfl, rfl⟩⟩
  | false =>
    refine ⟨[.tryWait], ?_, .inr ⟨rfl, rfl⟩⟩
    dsimp only
    cases s.transport.responder.failure s.transport.calls .tryWait with
    | some error => simp
    | none => rfl

structure Pumps (origin : Terminal) (tried : List (List UInt8)) (l : Live)
    (gaps : List (List Turn)) (more : List (List UInt8)) (asked : List Call) : Prop where
  tally : Tallied origin (tried ++ more) (l.pump gaps).2
  calls : (l.pump gaps).2.calls = l.calls ++ (more.map .write ++ asked)
  unwritten : asked.filterMap Call.written? = []
  before : ∀ outcome, (l.pump gaps).1 = .ok outcome → l.session.replies <+: more
  after : ∀ outcome, (l.pump gaps).1 = .ok outcome →
    Ended l ∨ l.session.closed = false ∧ Call.tryWait ∉ asked →
      Ended (l.pump gaps).2 ∧ (l.pump gaps).2.session.replies = []

theorem pump_failed {gaps between rest : List (List Turn)} {redraw : Bool}
    {error : TransportError} (collected : l.collect gaps = (redraw, between, m))
    (delivered : m.deliver between = (.error error, rest, n)) :
    l.pump gaps = (.error error, n.takeAll rest.flatten) := by
  unfold pump
  simp only [collected, delivered]

theorem pump_delivered {gaps between rest : List (List Turn)} {redraw : Bool}
    (collected : l.collect gaps = (redraw, between, m))
    (delivered : m.deliver between = (.ok (), rest, n)) :
    l.pump gaps = (n.session.checkExit.1.map fun _ => ⟨redraw, n.session.checkExit.2.closed⟩,
      { n with session := n.session.checkExit.2 }.takeAll rest.flatten) := by
  unfold pump
  simp only [collected, delivered]
  cases n.session.checkExit with
  | mk answer checked => cases answer <;> rfl

theorem pump_pumps (tallied : Tallied origin tried l) (gaps : List (List Turn)) :
    ∃ more asked, Pumps origin tried l gaps more asked := by
  obtain ⟨tally, collects⟩ := collect_collects tallied gaps
  cases collected : l.collect gaps with
  | mk redraw found =>
    obtain ⟨between, m⟩ := found
    rw [collected] at tally collects
    obtain ⟨more, tallyAgain, delivers⟩ := deliver_delivers tally between
    have calls : m.calls = l.calls := by rw [Live.calls, Live.calls, collects.transport]
    cases delivered : m.deliver between with
    | mk answer left =>
      obtain ⟨rest, n⟩ := left
      rw [delivered] at tallyAgain delivers
      cases answer with
      | error error =>
        have waits := takeAll_waits n rest.flatten
        have failed := pump_failed collected delivered
        refine ⟨more, [], ?_, ?_, rfl, fun outcome ok => ?_, fun outcome ok => ?_⟩
        · rw [failed]
          exact tallyAgain.takeAll _
        · rw [failed, List.append_nil]
          exact (congrArg Transport.calls waits.transport).trans (calls ▸ delivers.calls)
        · rw [failed] at ok
          cases ok
        · rw [failed] at ok
          cases ok
      | ok sent =>
        have ran := pump_delivered collected delivered
        have emptied := delivers.emptied rfl
        obtain ⟨asked, checked, question⟩ := checkExit_calls n.session
        have kept : Tallied origin (tried ++ more) { n with session := n.session.checkExit.2 } := by
          rw [checked]
          exact tallyAgain.update rfl rfl rfl fun _ found => found
        have waits := takeAll_waits { n with session := n.session.checkExit.2 } rest.flatten
        have finished : Ended m → Ended (l.pump gaps).2 ∧ (l.pump gaps).2.session.replies = [] := by
          intro ended
          have known := delivers.ended ended
          have still : Ended { n with session := n.session.checkExit.2 } := by
            rw [checked]
            exact ⟨known.stopped, known.silent⟩
          have same := waits.ended still
          rw [ran]
          dsimp only
          rw [same]
          refine ⟨still, ?_⟩
          rw [checked]
          exact emptied
        refine ⟨more, asked, ?_, ?_, ?_, fun outcome ok => ?_, fun outcome ok known => ?_⟩
        · rw [ran]
          exact kept.takeAll _
        · rw [ran]
          refine (congrArg Transport.calls waits.transport).trans ?_
          rw [checked]
          show n.calls ++ asked = _
          rw [delivers.calls, calls, List.append_assoc]
        · rcases question with ⟨rfl, -⟩ | ⟨rfl, -⟩ <;> rfl
        · have reached := collects.replies.trans delivers.replies
          rwa [emptied, List.append_nil] at reached
        · rcases known with ended | ⟨opened, unasked⟩
          · exact finished (collects.ended ended)
          · rcases question with ⟨-, known⟩ | ⟨rfl, -⟩
            · rw [delivers.closed] at known
              rcases collects.closed known with before | ended
              · rw [opened] at before
                cases before
              · exact finished ended
            · exact absurd List.mem_cons_self unasked

def callsOf (l : Live) (step : Step) : List Call := (l.step step).calls.drop l.calls.length

def attemptedBy (l : Live) : Step → List (List UInt8)
  | .pump gaps => (l.callsOf (.pump gaps)).filterMap Call.written?
  | _ => []

def attempted (l : Live) : List Step → List (List UInt8)
  | [] => []
  | step :: rest => l.attemptedBy step ++ (l.step step).attempted rest

theorem Pumps.callsOf {gaps : List (List Turn)} {more : List (List UInt8)} {asked : List Call}
    (pumps : Pumps origin tried l gaps more asked) :
    l.callsOf (.pump gaps) = more.map .write ++ asked := by
  refine (congrArg (List.drop l.calls.length) pumps.calls).trans ?_
  rw [List.drop_left]

theorem Pumps.attempted {gaps : List (List Turn)} {more : List (List UInt8)} {asked : List Call}
    (pumps : Pumps origin tried l gaps more asked) : l.attemptedBy (.pump gaps) = more := by
  rw [attemptedBy, pumps.callsOf, List.filterMap_append, pumps.unwritten, List.append_nil,
    List.filterMap_map]
  exact List.filterMap_some

theorem attempted_append (l : Live) (first second : List Step) :
    l.attempted (first ++ second) = l.attempted first ++ (l.run first).attempted second := by
  induction first generalizing l with
  | nil => rfl
  | cons step rest ih =>
    rw [List.cons_append, Live.attempted, ih, Live.attempted, List.append_assoc]
    rfl

theorem resize_session (s : Session) (size : Extent) :
    (s.resize size).2 = { s.absorb (s.terminal.resize size.atLeastOne) with
      transport := (s.resize size).2.transport } := by
  unfold Session.resize
  dsimp only
  rw [request_eq]

theorem Tallied.resize (tallied : Tallied origin tried l) (size : Extent) :
    Tallied origin tried (l.step (.resize size)) := by
  have silent : (l.session.terminal.resize size.atLeastOne).replies = [] := by
    rw [Terminal.resize_replies, tallied.terminal]
    rfl
  have acted : origin.run (l.heard ++ [.resize size.atLeastOne]) =
      (origin.run l.heard).act (.resize size.atLeastOne) := run_append ..
  have queue : (l.session.absorb (l.session.terminal.resize size.atLeastOne)).replies =
      l.session.replies := by
    show l.session.replies ++ (l.session.terminal.resize size.atLeastOne).replies = _
    rw [silent, List.append_nil]
  show Tallied origin tried { l with
    session := (l.session.resize size).2, heard := l.heard ++ [.resize size.atLeastOne] }
  rw [resize_session]
  refine ⟨?_, ?_, fun queued => ?_, tallied.outgoing⟩
  · rw [acted, Terminal.act_takeEvents, ← tallied.terminal]
    rfl
  · rw [acted, Terminal.act_replies, ← tallied.terminal, ← tallied.replies]
    refine Eq.trans ?_ (congrArg (tried ++ l.pending ++ ·) silent.symm)
    rw [List.append_nil, pending, pending]
    show tried ++ ((l.session.absorb _).replies ++ _) = _
    rw [queue]
  · have ended := tallied.queued queued
    exact ⟨ended.stopped, ended.silent⟩

theorem Tallied.step (tallied : Tallied origin tried l) (step : Step) :
    Tallied origin (tried ++ l.attemptedBy step) (l.step step) := by
  have alone : ∀ {session : Session}, session = { l.session with
      transport := session.transport, closed := session.closed } →
      Tallied origin (tried ++ []) { l with session } := by
    intro session same
    rw [List.append_nil, same]
    exact tallied.update rfl rfl rfl fun _ found => found
  cases step with
  | turn turn =>
    show Tallied origin (tried ++ []) (l.take turn)
    rw [List.append_nil]
    exact tallied.take turn
  | pump gaps =>
    obtain ⟨more, asked, pumps⟩ := pump_pumps tallied gaps
    rw [pumps.attempted]
    exact pumps.tally
  | write bytes =>
    refine alone ?_
    rw [Session.write, request_eq]
  | sendKey name =>
    refine alone ?_
    unfold Session.sendKey Session.write
    split
    · rfl
    · rename_i bytes _
      rw [request_eq]
      cases (l.session.request (.write bytes)).1 <;> rfl
  | resize size =>
    show Tallied origin (tried ++ []) (l.step (.resize size))
    rw [List.append_nil]
    exact tallied.resize size
  | close =>
    refine alone ?_
    unfold Session.close
    rw [request_eq]
    split
    · rfl
    · cases (l.session.request .kill).1 <;> rfl

theorem Tallied.run (tallied : Tallied origin tried l) (steps : List Step) :
    Tallied origin (tried ++ l.attempted steps) (l.run steps) := by
  induction steps generalizing l tried with
  | nil =>
    rw [Live.attempted, List.append_nil]
    exact tallied
  | cons step rest ih =>
    rw [Live.attempted, ← List.append_assoc]
    exact ih (tallied.step step)

theorem opened_tallied (size : Extent) (identity : Identity) (transport : Transport) :
    Tallied (Terminal.new size identity true) [] (opened size identity transport) :=
  ⟨rfl, rfl, nofun, nofun⟩

-- For any transport and any run. A pump that succeeds leaves nothing of what was
-- in the queue when it began. One that began after the reading side had ended, or
-- that learned of the end and had nothing to ask, leaves nothing at all.
theorem replies_attempted_in_order (size : Extent) (identity : Identity) (transport : Transport)
    (steps : List Step) :
    let l := (opened size identity transport).run steps
    let tried := (opened size identity transport).attempted steps
    let raised := fun m : Live => ((Terminal.new size identity true).run m.heard).replies
    tried ++ l.pending = raised l ∧
      ∀ gaps outcome, (l.pump gaps).1 = .ok outcome →
        let after := l.step (.pump gaps)
        let triedAfter := (opened size identity transport).attempted (steps ++ [.pump gaps])
        tried ++ l.session.replies <+: triedAfter ∧
          (Ended l ∨ l.session.closed = false ∧ Call.tryWait ∉ l.callsOf (.pump gaps) →
            Ended after ∧ triedAfter = raised after) := by
  intro l tried raised
  have tallied : Tallied (Terminal.new size identity true) tried l :=
    (opened_tallied size identity transport).run steps
  refine ⟨tallied.replies, fun gaps outcome ok => ?_⟩
  obtain ⟨more, asked, pumps⟩ := pump_pumps tallied gaps
  have all : (opened size identity transport).attempted (steps ++ [.pump gaps]) =
      tried ++ more := by
    rw [attempted_append, attempted, attempted, List.append_nil]
    exact congrArg (tried ++ ·) pumps.attempted
  have made : l.callsOf (.pump gaps) = more.map .write ++ asked := pumps.callsOf
  dsimp only
  rw [all]
  refine ⟨(List.prefix_append_right_inj tried).mpr (pumps.before outcome ok), fun known => ?_⟩
  have unasked : Ended l ∨ l.session.closed = false ∧ Call.tryWait ∉ asked := by
    refine known.imp_right fun ⟨opened, silent⟩ => ⟨opened, fun found => silent ?_⟩
    rw [made]
    exact List.mem_append_right _ found
  obtain ⟨ended, emptied⟩ := pumps.after outcome ok unasked
  refine ⟨ended, ?_⟩
  have total := pumps.tally.replies
  rw [pending, emptied, ended.silent, List.filterMap_nil, List.append_nil, List.append_nil] at total
  exact total

def refusing : Responder where
  failure calls _ := if calls = [] then some (.io "refused") else none
  exitCode _ := none

def refused : List Step :=
  [.turn (.read (Utf8.encodeString "\x1b[c\x1b[6n")), .turn .post, .turn .post, .pump [],
    .turn (.read []), .turn .post]

theorem replies_attempted_after_refusal :
    let l := (opened ⟨10, 3⟩ {} ⟨refusing, []⟩).run refused
    (l.pump []).1 = .ok ⟨false, true⟩ ∧
      (opened ⟨10, 3⟩ {} ⟨refusing, []⟩).attempted (refused ++ [.pump []]) =
        [Utf8.encodeString "\x1b[?1;2c", Utf8.encodeString "\x1b[1;1R"] := by
  have answered : (((opened ⟨10, 3⟩ {} ⟨refusing, []⟩).run refused).pump []).1.toOption =
      some ⟨false, true⟩ := by decide +kernel
  have ok : (((opened ⟨10, 3⟩ {} ⟨refusing, []⟩).run refused).pump []).1 = .ok ⟨false, true⟩ := by
    cases answer : (((opened ⟨10, 3⟩ {} ⟨refusing, []⟩).run refused).pump []).1 with
    | error error =>
      rw [answer] at answered
      cases answered
    | ok outcome =>
      rw [answer] at answered
      cases answered
      rfl
  have ended : Ended ((opened ⟨10, 3⟩ {} ⟨refusing, []⟩).run refused) :=
    ⟨by decide +kernel, by decide +kernel⟩
  have delivered := replies_attempted_in_order ⟨10, 3⟩ {} ⟨refusing, []⟩ refused
  exact ⟨ok, ((delivered.2 [] _ ok).2 (.inl ended)).2.trans (by decide +kernel)⟩

end Live

end VideoTerminal

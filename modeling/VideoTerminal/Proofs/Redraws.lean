import VideoTerminal.Proofs.Steady

-- Signals that ask for a redraw. Each goes from the terminal that reported a
-- change through the queue to one pump, which tells it if it succeeds.
namespace VideoTerminal

namespace Terminal

theorem answer_takeEvents (t : Terminal) (action : Action) :
    t.takeEvents.2.answer? action = t.answer? action := by
  have kept : ({ earlier := t.outbox } : Past).unread = none := rfl
  have answered := heir_answer? t.takeEvents.2 kept action
  rw [takeEvents_heir] at answered
  exact answered.symm

theorem answers_append (t : Terminal) (first second : List Action) :
    t.answers (first ++ second) = t.answers first ++ (t.run first).answers second := by
  induction first generalizing t with
  | nil => rfl
  | cons action rest ih =>
    rw [List.cons_append, answers, ih, answers, List.cons_append]
    rfl

def changes (t : Terminal) (actions : List Action) : Nat := (t.answers actions).count (some true)

theorem changes_append (t : Terminal) (actions : List Action) (action : Action) :
    t.changes (actions ++ [action]) =
      t.changes actions + if (t.run actions).answer? action = some true then 1 else 0 := by
  simp [changes, answers_append, answers, List.count_cons]

section

variable {origin t : Terminal} {heard : List Action}

theorem changes_feed (same : t = (origin.run heard).takeEvents.2) (bytes : List UInt8) :
    origin.changes (heard ++ [.feed bytes]) =
      origin.changes heard + if (t.feed bytes).1 then 1 else 0 := by
  have answered : (origin.run heard).answer? (.feed bytes) = some (t.feed bytes).1 := by
    rw [← answer_takeEvents, ← same]
    rfl
  rw [changes_append, answered]
  simp only [Option.some.injEq]

theorem feed_heard (same : t = (origin.run heard).takeEvents.2) (bytes : List UInt8) :
    (t.feed bytes).2.takeEvents.2 = (origin.run (heard ++ [.feed bytes])).takeEvents.2 := by
  rw [Live.run_append, act_takeEvents, ← same]
  rfl

end

end Terminal

namespace Live

def onTheWay (l : Live) : Nat := l.outgoing.count (.signal .redraw)

def queued (l : Live) : Nat := l.session.signals.count .redraw

def taken (l : Live) : List (List Turn) → List Signal
  | [] => l.session.signals
  | gap :: gaps =>
    let l := l.takeAll gap
    match l.session.signals with
    | [] => []
    | signal :: signals =>
      let closed := l.session.closed || decide (signal = .ended)
      signal :: taken { l with session := { l.session with signals, closed } } gaps

-- The terminal is what it heard made of it, and every change is taken, queued or
-- on its way.
structure Balanced (origin : Terminal) (taken : Nat) (l : Live) : Prop where
  terminal : l.session.terminal = (origin.run l.heard).takeEvents.2
  signals : taken + l.queued + l.onTheWay = origin.changes l.heard

variable {origin : Terminal} {count : Nat} {l : Live}

theorem count_messages (events : Array Event) (changed : Bool) :
    (messages events changed).count (.signal .redraw) = if changed then 1 else 0 := by
  have replies : ((events.toList.filterMap Session.reply?).map Message.reply).count
      (.signal .redraw) = 0 := by
    apply List.count_eq_zero_of_not_mem
    simp
  cases changed <;> simp [messages, List.count_append, replies]

theorem Balanced.stop (balanced : Balanced origin count l) (ready : l.ready = true) :
    Balanced origin count l.stop := by
  obtain ⟨-, quiet⟩ := ready_iff.mp ready
  have signals := balanced.signals
  simp only [onTheWay, quiet, List.count_nil] at signals
  exact ⟨balanced.terminal, signals⟩

theorem Balanced.read (balanced : Balanced origin count l) (bytes : List UInt8) :
    Balanced origin count (l.read bytes) := by
  unfold Live.read
  split
  · exact balanced
  · rename_i notReady
    have ready : l.ready = true := by simpa using notReady
    split
    · exact balanced.stop ready
    · obtain ⟨-, quiet⟩ := ready_iff.mp ready
      have signals := balanced.signals
      simp only [onTheWay, quiet, List.count_nil] at signals
      refine ⟨Terminal.feed_heard balanced.terminal bytes, ?_⟩
      rw [Terminal.changes_feed balanced.terminal]
      simp only [onTheWay, count_messages]
      exact congrArg (· + _) signals

theorem Balanced.post (balanced : Balanced origin count l) : Balanced origin count l.post := by
  have signals := balanced.signals
  unfold Live.post
  split
  · exact balanced
  · rename_i outgoing
    simp only [queued, onTheWay, outgoing, List.count_cons] at signals
    exact ⟨balanced.terminal, by simpa [queued, onTheWay] using signals⟩
  · rename_i signal rest outgoing
    simp only [queued, onTheWay, outgoing, List.count_cons] at signals
    refine ⟨balanced.terminal, ?_⟩
    rw [← signals]
    cases signal with
    | redraw =>
      simp [queued, onTheWay]
      omega
    | ended => simp [queued, onTheWay]

theorem balanced_steady (origin : Terminal) (count : Nat) : Steady (Balanced origin count) where
  turn := by
    intro l turn balanced
    cases turn with
    | read bytes => exact balanced.read bytes
    | fail interrupted =>
      show Balanced origin count (l.fail interrupted)
      unfold Live.fail
      split
      · exact balanced
      · exact balanced.stop (by simp_all)
    | post => exact balanced.post
  queue := by
    intro l replies closed balanced
    exact ⟨balanced.terminal, balanced.signals⟩
  call := by
    intro l call _ balanced
    rw [request_eq]
    exact ⟨balanced.terminal, balanced.signals⟩

theorem Balanced.collect (balanced : Balanced origin count l) (gaps : List (List Turn)) :
    Balanced origin (count + (l.taken gaps).count .redraw) (l.collect gaps).2.2 := by
  induction gaps generalizing l count with
  | nil => exact ⟨balanced.terminal, balanced.signals⟩
  | cons gap gaps ih =>
    have kept := (balanced_steady origin count).takeAll balanced gap
    unfold Live.collect taken
    dsimp only
    cases queue : (l.takeAll gap).session.signals with
    | nil => exact kept
    | cons signal signals =>
      have total := kept.signals
      simp only [queued, onTheWay, queue, List.count_cons] at total
      have one : Balanced origin (count + if signal == .redraw then 1 else 0)
          { l.takeAll gap with session := { (l.takeAll gap).session with
            signals, closed := (l.takeAll gap).session.closed || decide (signal = .ended) } } := by
        refine ⟨kept.terminal, ?_⟩
        rw [← total]
        simp only [queued, onTheWay]
        omega
      have later := ih one
      rw [List.count_cons, ← Nat.add_assoc, Nat.add_right_comm]
      exact later

theorem collect_redraw (l : Live) (gaps : List (List Turn)) :
    (l.collect gaps).1 = (l.taken gaps).contains .redraw := by
  induction gaps generalizing l with
  | nil => rfl
  | cons gap gaps ih =>
    unfold Live.collect taken
    dsimp only
    cases (l.takeAll gap).session.signals with
    | nil => rfl
    | cons signal signals => cases signal <;> simp [ih]

theorem pump_redraw {gaps : List (List Turn)} {outcome : PumpOutcome}
    (ok : (l.pump gaps).1 = .ok outcome) :
    outcome.redraw = true ↔ 0 < (l.taken gaps).count .redraw := by
  have asked : outcome.redraw = (l.collect gaps).1 := by
    cases collected : l.collect gaps with
    | mk redraw found =>
      obtain ⟨between, m⟩ := found
      cases delivered : m.deliver between with
      | mk answer left =>
        obtain ⟨rest, n⟩ := left
        cases answer with
        | error error =>
          rw [pump_failed collected delivered] at ok
          cases ok
        | ok sent =>
          rw [pump_delivered collected delivered] at ok
          cases answered : n.session.checkExit.1 with
          | error error =>
            rw [answered] at ok
            cases ok
          | ok done =>
            rw [answered] at ok
            cases ok
            rfl
  rw [asked, collect_redraw, List.contains_iff_mem, List.count_pos_iff]

theorem signals_steady (signals : List Signal) :
    Steady fun l => signals <+: l.session.signals where
  turn := by
    intro l turn held
    cases turn with
    | read bytes =>
      show signals <+: (l.read bytes).session.signals
      unfold Live.read
      split
      · exact held
      · split <;> exact held
    | fail interrupted =>
      show signals <+: (l.fail interrupted).session.signals
      unfold Live.fail
      split <;> exact held
    | post =>
      show signals <+: l.post.session.signals
      unfold Live.post
      split
      · exact held
      · exact held
      · exact held.trans (List.prefix_append ..)
  queue := by
    intro l replies closed held
    exact held
  call := by
    intro l call _ held
    rw [request_eq]
    exact held

theorem queued_taken (l : Live) (gaps : List (List Turn)) : l.session.signals <+: l.taken gaps := by
  induction gaps generalizing l with
  | nil => exact List.prefix_rfl
  | cons gap gaps ih =>
    have held := (signals_steady l.session.signals).takeAll List.prefix_rfl gap
    unfold taken
    dsimp only
    cases queue : (l.takeAll gap).session.signals with
    | nil =>
      rw [queue] at held
      exact held
    | cons signal signals =>
      have rest := ih { l.takeAll gap with session := { (l.takeAll gap).session with
        signals, closed := (l.takeAll gap).session.closed || decide (signal = .ended) } }
      rw [queue] at held
      exact held.trans ((List.prefix_cons_inj signal).mpr rest)

theorem taken_quiet {gaps : List (List Turn)} (quiet : ∀ gap ∈ gaps, gap = []) :
    l.taken gaps = l.session.signals := by
  induction gaps generalizing l with
  | nil => rfl
  | cons gap gaps ih =>
    obtain rfl : gap = [] := quiet gap List.mem_cons_self
    have later : ∀ gap ∈ gaps, gap = [] := fun gap found => quiet gap (List.mem_cons_of_mem _ found)
    unfold taken
    simp only [takeAll, List.foldl_nil]
    cases queue : l.session.signals with
    | nil => rfl
    | cons signal signals => exact congrArg (signal :: ·) (ih later)

-- What a step does to redraw signals, if it is a pump: those it takes are told
-- if it succeeds and lost if it fails.
def toldBy (l : Live) : Step → Nat
  | .pump gaps => if (l.pump gaps).1.isOk then (l.taken gaps).count .redraw else 0
  | _ => 0

def lostBy (l : Live) : Step → Nat
  | .pump gaps => if (l.pump gaps).1.isOk then 0 else (l.taken gaps).count .redraw
  | _ => 0

def total (amount : Live → Step → Nat) (l : Live) : List Step → Nat
  | [] => 0
  | step :: rest => amount l step + total amount (l.step step) rest

def told (l : Live) (steps : List Step) : Nat := total toldBy l steps

def lost (l : Live) (steps : List Step) : Nat := total lostBy l steps

def asks (l : Live) : Step → Bool
  | .pump gaps =>
    match (l.pump gaps).1 with
    | .ok outcome => outcome.redraw
    | .error _ => false
  | _ => false

def silent (l : Live) : List Step → Bool
  | [] => true
  | step :: rest => !l.asks step && (l.step step).silent rest

theorem total_append (amount : Live → Step → Nat) (l : Live) (first second : List Step) :
    total amount l (first ++ second) = total amount l first + total amount (l.run first) second := by
  induction first generalizing l with
  | nil => exact (Nat.zero_add _).symm
  | cons step rest ih =>
    rw [List.cons_append, total, ih, total, Nat.add_assoc]
    rfl

theorem toldBy_eq_zero {step : Step} (quiet : l.asks step = false) : l.toldBy step = 0 := by
  cases step with
  | pump gaps =>
    simp only [asks] at quiet
    simp only [toldBy]
    cases answered : (l.pump gaps).1 with
    | error error => rfl
    | ok outcome =>
      rw [answered] at quiet
      have none : ¬0 < (l.taken gaps).count .redraw := by
        intro some
        exact Bool.false_ne_true (quiet.symm.trans ((pump_redraw answered).mpr some))
      exact Nat.eq_zero_of_not_pos none
  | _ => rfl

theorem told_eq_zero {steps : List Step} (quiet : l.silent steps = true) : l.told steps = 0 := by
  induction steps generalizing l with
  | nil => rfl
  | cons step rest ih =>
    obtain ⟨first, later⟩ := Bool.and_eq_true_iff.mp quiet
    show l.toldBy step + (l.step step).told rest = 0
    rw [toldBy_eq_zero (by simpa using first), ih later]

theorem Balanced.resize (balanced : Balanced origin count l) (size : Extent) :
    Balanced origin count (l.step (.resize size)) := by
  have signals := balanced.signals
  show Balanced origin count { l with
    session := (l.session.resize size).2, heard := l.heard ++ [.resize size.atLeastOne] }
  rw [resize_session]
  constructor
  · rw [run_append, Terminal.act_takeEvents, ← balanced.terminal]
    rfl
  · rw [Terminal.changes_append]
    exact signals

theorem Balanced.step (balanced : Balanced origin count l) (step : Step) :
    Balanced origin (count + (l.toldBy step + l.lostBy step)) (l.step step) := by
  have steady := balanced_steady origin (count + (l.toldBy step + l.lostBy step))
  cases step with
  | pump gaps =>
    refine steady.pump ?_
    have collected := balanced.collect gaps
    simp only [toldBy, lostBy]
    cases (l.pump gaps).1.isOk with
    | true => simpa using collected
    | false => simpa using collected
  | resize size => exact balanced.resize size
  | _ => exact steady.step balanced nofun nofun

theorem Balanced.run (balanced : Balanced origin count l) (steps : List Step) :
    Balanced origin (count + (l.told steps + l.lost steps)) (l.run steps) := by
  induction steps generalizing l count with
  | nil => exact balanced
  | cons step rest ih =>
    have later := ih (balanced.step step)
    have sum : count + (l.toldBy step + l.lostBy step) +
        ((l.step step).told rest + (l.step step).lost rest) =
          count + (l.told (step :: rest) + l.lost (step :: rest)) := by
      simp only [told, lost, total]
      omega
    rw [← sum]
    exact later

theorem opened_balanced (size : Extent) (identity : Identity) (transport : Transport) :
    Balanced (Terminal.new size identity true) 0 (opened size identity transport) := ⟨rfl, rfl⟩

-- For any transport and any run, from any moment on. A signal that was delivered
-- and that no pump had taken by then is told by the pump that succeeds next, unless
-- failing pumps took every such signal. One that fails takes what there is.
theorem redraw_told_iff (size : Extent) (identity : Identity) (transport : Transport)
    (before after : List Step) :
    let start := opened size identity transport
    let m := start.run before
    let l := m.run after
    let earlier := start.told before + start.lost before
    let delivered := (Terminal.new size identity true).changes l.heard - l.onTheWay
    earlier < delivered → m.silent after = true →
      (∀ gaps outcome, (l.pump gaps).1 = .ok outcome →
        (m.lost after = 0 → outcome.redraw = true) ∧
          ((∀ gap ∈ gaps, gap = []) →
            (outcome.redraw = true ↔ earlier + m.lost after < delivered))) ∧
        ∀ gaps error, (l.pump gaps).1 = .error error →
          delivered ≤ earlier + m.lost (after ++ [.pump gaps]) := by
  intro start m l earlier delivered owed silent
  have balanced : Balanced (Terminal.new size identity true)
      (earlier + (m.told after + m.lost after)) l := by
    have first := (opened_balanced size identity transport).run before
    rw [Nat.zero_add] at first
    exact first.run after
  have sum : earlier + m.lost after + l.queued = delivered := by
    have signals := balanced.signals
    rw [told_eq_zero silent] at signals
    show _ = (Terminal.new size identity true).changes l.heard - l.onTheWay
    omega
  have more : ∀ gaps, l.queued ≤ (l.taken gaps).count .redraw :=
    fun gaps => (queued_taken l gaps).sublist.count_le _
  constructor
  · intro gaps outcome ok
    have asked := pump_redraw ok
    constructor
    · intro kept
      have waiting : 0 < l.queued := by omega
      exact asked.mpr (Nat.lt_of_lt_of_le waiting (more gaps))
    · intro quiet
      rw [taken_quiet quiet] at asked
      refine asked.trans ?_
      show 0 < l.queued ↔ _
      omega
  · intro gaps error failed
    have last : m.lost (after ++ [.pump gaps]) = m.lost after + (l.taken gaps).count .redraw := by
      refine (total_append ..).trans (congrArg (m.lost after + ·) ?_)
      show l.lostBy (.pump gaps) + 0 = _
      simp only [lostBy, failed]
      rfl
    have all := more gaps
    omega

theorem ok_of_toOption {answer : Except TransportError PumpOutcome} {outcome : PumpOutcome}
    (answered : answer.toOption = some outcome) : answer = .ok outcome := by
  cases answer with
  | error error => cases answered
  | ok found =>
    cases answered
    rfl

def questioned : List Step := [.turn (.read (Utf8.encodeString "x\x1b[c")), .turn .post, .turn .post]

theorem redraw_told_after_refusal :
    let m := (opened ⟨10, 3⟩ {} ⟨refusing, []⟩).run questioned
    let l := m.run [.pump [], .turn (.read [0x79]), .turn .post]
    ∃ outcome, (l.pump []).1 = .ok outcome ∧ outcome.redraw = true := by
  intro m l
  have ok : (l.pump []).1 = .ok ⟨true, false⟩ := ok_of_toOption (by decide +kernel)
  have told := redraw_told_iff ⟨10, 3⟩ {} ⟨refusing, []⟩ questioned
    [.pump [], .turn (.read [0x79]), .turn .post] (by decide +kernel) (by decide +kernel)
  exact ⟨⟨true, false⟩, ok, ((told.1 [] ⟨true, false⟩ ok).2 nofun).mpr (by decide +kernel)⟩

theorem redraw_swallowed :
    let m := (opened ⟨10, 3⟩ {} ⟨refusing, []⟩).run questioned
    .redraw ∈ m.session.signals ∧ (m.pump []).1.toOption = none ∧
      ((m.step (.pump [])).pump []).1.toOption = some ⟨false, false⟩ := by
  decide +kernel

end Live

end VideoTerminal

import VideoTerminal.Proofs.Chunking
import VideoTerminal.Proofs.CommandMode
import VideoTerminal.Proofs.Lifecycle
import Mathlib.Data.List.Forall2
import Mathlib.Data.List.Nodup

-- A person typing at a live session. Keys come between the turns of the reading side and
-- the pumps of the owner in any order. What one of them sends depends on the presses
-- before it, and for a key with a name on the input that was consumed by then.
namespace VideoTerminal

def KeyBinding.bytes (binding : KeyBinding) (applicationKeys : Bool) : List UInt8 :=
  if applicationKeys then binding.application else binding.plain

namespace Keyboard

-- The calls that are due for what a press is answered by: one write that is not empty,
-- or none at all. A name stands for the bytes that the table has for it.
inductive Answered (applicationKeys : Bool) : Option Action → List Call → Prop
  | swallowed : Answered applicationKeys none []
  | quit : Answered applicationKeys (some .quit) []
  | named {binding : KeyBinding} (known : binding ∈ keyTable)
      (proper : binding.bytes applicationKeys ≠ []) :
      Answered applicationKeys (some (.sendKey binding.name))
        [.write (binding.bytes applicationKeys)]
  | raw {bytes : List UInt8} (proper : bytes ≠ []) :
      Answered applicationKeys (some (.writeRaw bytes)) [.write bytes]

def forwarded (past : List Press) : List Press → List Action
  | [] => []
  | p :: rest =>
    ((answerTo past p).filter (· ≠ .quit)).toList ++ forwarded (past ++ [p]) rest

theorem keyTable_names : (keyTable.map KeyBinding.name).Nodup := by decide +kernel

theorem keyTable_bytes : ∀ binding ∈ keyTable, ∀ applicationKeys,
    bytesOf? binding.name applicationKeys = some (binding.bytes applicationKeys) ∧
      binding.bytes applicationKeys ≠ [] := by decide +kernel

theorem functionNames_known :
    ∀ name ∈ functionNames, ∃ binding ∈ keyTable, binding.name = name := by decide +kernel

theorem name?_known {p : Press} {name : String} (named : p.name? = some name) :
    ∃ binding ∈ keyTable, binding.name = name := by
  obtain ⟨key, modifiers⟩ := p
  cases key with
  | char | other => cases named
  | function n =>
    cases n with
    | zero => cases named
    | succ n => exact functionNames_known name (List.mem_of_getElem? named)
  | tab =>
    obtain rfl := Option.some.inj named
    cases modifiers.control <;> decide +kernel
  | _ =>
    obtain rfl := Option.some.inj named
    decide +kernel

theorem bytes?_proper {p : Press} {bytes : List UInt8} (written : p.bytes? = some bytes) :
    bytes ≠ [] := by
  unfold Press.bytes? at written
  split at written
  · split at written
    · obtain rfl := Option.some.inj written
      exact List.cons_ne_nil _ _
    · obtain rfl := Option.some.inj written
      simp [Utf8.encode, ← List.length_eq_zero_iff, String.length_utf8EncodeChar,
        Nat.ne_of_gt (Char.utf8Size_pos _)]
  · cases written

theorem normalAction_answered (p : Press) (applicationKeys : Bool) :
    ∃ calls, Answered applicationKeys (normalAction p).1 calls := by
  unfold normalAction
  split
  · exact ⟨_, .swallowed⟩
  · cases named : p.name? with
    | some name =>
      obtain ⟨binding, known, rfl⟩ := name?_known named
      exact ⟨_, .named known (keyTable_bytes binding known applicationKeys).2⟩
    | none =>
      cases written : p.bytes? with
      | none => exact ⟨_, .swallowed⟩
      | some bytes => exact ⟨_, .raw (bytes?_proper written)⟩

theorem commandAction_answered (p : Press) (applicationKeys : Bool) :
    ∃ calls, Answered applicationKeys (commandAction p) calls := by
  unfold commandAction
  split
  · exact ⟨_, .quit⟩
  · split
    · exact ⟨_, .raw (List.cons_ne_nil _ _)⟩
    · exact ⟨_, .swallowed⟩

theorem press_answered (mode : Mode) (p : Press) (applicationKeys : Bool) :
    ∃ calls, Answered applicationKeys (press mode p).1 calls := by
  cases mode with
  | normal => exact normalAction_answered p applicationKeys
  | command => exact commandAction_answered p applicationKeys

end Keyboard

namespace Live

def consumed (l : Live) : List UInt8 :=
  l.heard.flatMap fun
    | .feed bytes => bytes
    | _ => []

def Fed (origin : Terminal) (l : Live) : Prop :=
  l.session.terminal = (origin.feed l.consumed).2.takeEvents.2

theorem fed_apart (origin : Terminal) : Apart (Fed origin) where
  queues _ _ _ _ _ _ fed := fed
  feed l bytes fed := by
    have longer : consumed { l with heard := l.heard ++ [.feed bytes] } = l.consumed ++ bytes := by
      simp [consumed]
    have once := (origin.feed l.consumed).2.act_takeEvents (.feed bytes)
    show (l.session.terminal.feed bytes).2.takeEvents.2 = _
    refine Eq.trans ?_ (congrArg (fun input => (origin.feed input).2.takeEvents.2) longer.symm)
    rw [Terminal.feed_append, fed]
    exact once.symm
  call _ _ _ fed := fed

theorem opened_fed (size : Extent) (identity : Identity) (transport : Transport) :
    Fed (Terminal.new size identity true) (opened size identity transport) := by
  have idle : ((Terminal.new size identity true).feed []).2 = Terminal.new size identity true := by
    have applied := Terminal.apply_nil (Terminal.new size identity true)
    exact congrArg (fun u : Terminal => { u with changed := false || u.changed }) applied
  exact (congrArg (fun after : Terminal => after.takeEvents.2) idle).symm

end Live

structure Desk where
  mode : Keyboard.Mode := .normal
  live : Live

namespace Desk
open Keyboard (Press Answered)

inductive Move where
  | press (p : Press)
  | turn (turn : Turn)
  | pump (gaps : List (List Turn))

def press (d : Desk) (p : Press) : Desk :=
  let (answer, mode) := Keyboard.press d.mode p
  match answer with
  | none => { d with mode }
  | some action => { mode, live := { d.live with session := (d.live.session.act action).2 } }

def step (d : Desk) : Move → Desk
  | .press p => d.press p
  | .turn turn => { d with live := d.live.step (.turn turn) }
  | .pump gaps => { d with live := d.live.step (.pump gaps) }

def run (d : Desk) (moves : List Move) : Desk := moves.foldl step d

def opened (size : Extent) (identity : Identity) (transport : Transport) : Desk :=
  { live := Live.opened size identity transport }

def applicationKeys (d : Desk) : Bool := d.live.session.terminal.cursor.applicationKeys

def callsOf (d : Desk) (move : Move) : List Call :=
  (d.step move).live.calls.drop d.live.calls.length

def log (d : Desk) : List Move → List (Move × Call)
  | [] => []
  | move :: rest => (d.callsOf move).map (move, ·) ++ (d.step move).log rest

def press? : Move → Option Press
  | .press p => some p
  | _ => none

theorem act_sendKey {s : Session} {name : String} {bytes : List UInt8}
    (known : s.terminal.keyBytes? name = some bytes) : s.act (.sendKey name) = s.write bytes := by
  unfold Session.act Session.sendKey
  simp only [known]
  cases s.write bytes with
  | mk answer written => cases answer <;> rfl

theorem act_writeRaw (s : Session) {bytes : List UInt8} (proper : bytes ≠ []) :
    s.act (.writeRaw bytes) = s.write bytes := by
  simp [Session.act, proper]

variable {d : Desk}

-- A key does to the session what the writes do that are due for it.
theorem press_live (d : Desk) (p : Press) :
    ∃ writes : List (List UInt8),
      Answered d.applicationKeys (Keyboard.press d.mode p).1 (writes.map .write) ∧
        (d.press p).live = d.live.run (writes.map .write) := by
  obtain ⟨calls, answered⟩ := Keyboard.press_answered d.mode p d.applicationKeys
  unfold press
  generalize Keyboard.press d.mode p = outcome at answered
  obtain ⟨answer, mode⟩ := outcome
  cases answered with
  | swallowed => exact ⟨[], .swallowed, rfl⟩
  | quit => exact ⟨[], .quit, rfl⟩
  | @named binding known proper =>
    have sent := act_sendKey (s := d.live.session)
      (Keyboard.keyTable_bytes binding known d.applicationKeys).1
    refine ⟨[_], .named known proper, ?_⟩
    exact congrArg (fun acted => { d.live with session := acted.2 }) sent
  | @raw bytes proper =>
    have sent := act_writeRaw d.live.session proper
    refine ⟨[_], .raw proper, ?_⟩
    exact congrArg (fun acted => { d.live with session := acted.2 }) sent

theorem writes_callsOfAll (l : Live) (writes : List (List UInt8)) :
    l.callsOfAll (writes.map .write) = writes.map .write := by
  induction writes generalizing l with
  | nil => rfl
  | cons bytes rest ih =>
    have made := (Live.request_asks l (.write bytes) (l.session.write bytes).2 rfl rfl rfl).callsOf
      (.write bytes)
    exact congrArg₂ (· ++ ·) made (ih _)

-- Every move comes down to steps of the session, none of which is a new size.
theorem step_live (d : Desk) (move : Move) :
    ∃ steps, (d.step move).live = d.live.run steps ∧ ∀ size, .resize size ∉ steps := by
  cases move with
  | press p =>
    obtain ⟨writes, -, pressed⟩ := press_live d p
    exact ⟨_, pressed, fun size found => by simp at found⟩
  | turn turn => exact ⟨[.turn turn], rfl, fun size found => by simp at found⟩
  | pump gaps => exact ⟨[.pump gaps], rfl, fun size found => by simp at found⟩

theorem callsOf_eq {move : Move} {steps : List Live.Step}
    (same : (d.step move).live = d.live.run steps) : d.callsOf move = d.live.callsOfAll steps := by
  have made : (d.step move).live.calls = d.live.calls ++ d.live.callsOfAll steps := by
    rw [same]
    exact congrArg Transport.calls (d.live.run_transport steps)
  rw [callsOf, made, List.drop_left]

theorem step_transport (d : Desk) (move : Move) : (d.step move).live.session.transport =
    { d.live.session.transport with calls := d.live.calls ++ d.callsOf move } := by
  obtain ⟨steps, same, -⟩ := step_live d move
  rw [callsOf_eq same, same]
  exact d.live.run_transport steps

theorem callsOf_press (d : Desk) (p : Press) :
    Answered d.applicationKeys (Keyboard.press d.mode p).1 (d.callsOf (.press p)) := by
  obtain ⟨writes, answered, pressed⟩ := press_live d p
  have made : d.callsOf (.press p) = d.live.callsOfAll (writes.map .write) := callsOf_eq pressed
  rw [made, writes_callsOfAll]
  exact answered

theorem run_transport (d : Desk) (moves : List Move) : (d.run moves).live.session.transport =
    { d.live.session.transport with calls := d.live.calls ++ (d.log moves).map Prod.snd } := by
  induction moves generalizing d with
  | nil =>
    simp [run, log, Live.calls]
  | cons move rest ih =>
    refine (ih (d.step move)).trans ?_
    rw [Live.calls, step_transport]
    simp [log, Function.comp_def]

theorem run_fed {origin : Terminal} (fed : d.live.Fed origin) (moves : List Move) :
    (d.run moves).live.Fed origin := by
  induction moves generalizing d with
  | nil => exact fed
  | cons move rest ih =>
    obtain ⟨steps, same, unsized⟩ := step_live d move
    have kept := (Live.fed_apart origin).run fed unsized
    exact ih (same ▸ kept)

theorem press_mode (d : Desk) (p : Press) : (d.press p).mode = (Keyboard.press d.mode p).2 := by
  unfold press
  generalize Keyboard.press d.mode p = outcome
  obtain ⟨answer, mode⟩ := outcome
  cases answer <;> rfl

def Carries (action : Action) (call : Call) : Prop :=
  ∃ applicationKeys, Answered applicationKeys (some action) [call]

def typed (moves : List Move) : List Press := moves.filterMap press?

def typedCalls (log : List (Move × Call)) : List Call :=
  log.filterMap fun (move, call) => (press? move).map fun _ => call

theorem typedCalls_of_press (p : Press) (calls : List Call) :
    typedCalls (calls.map (Move.press p, ·)) = calls := by
  simp [typedCalls, List.filterMap_map, press?]

theorem typedCalls_of_other {move : Move} (other : press? move = none) (calls : List Call) :
    typedCalls (calls.map (move, ·)) = [] := by
  simp [typedCalls, List.filterMap_map, other]

theorem typedCalls_append (first second : List (Move × Call)) :
    typedCalls (first ++ second) = typedCalls first ++ typedCalls second :=
  List.filterMap_append ..

theorem answered_carries {applicationKeys : Bool} {answer : Option Action} {calls : List Call}
    (answered : Answered applicationKeys answer calls) :
    List.Forall₂ Carries (answer.filter (· ≠ .quit)).toList calls := by
  cases answered with
  | swallowed | quit => exact .nil
  | named known proper => exact .cons ⟨_, .named known proper⟩ .nil
  | raw proper => exact .cons ⟨applicationKeys, .raw proper⟩ .nil

theorem log_carries {past : List Press} (mode : d.mode = Keyboard.modeAfter past)
    (moves : List Move) :
    List.Forall₂ Carries (Keyboard.forwarded past (typed moves)) (typedCalls (d.log moves)) := by
  induction moves generalizing d past with
  | nil => exact .nil
  | cons move rest ih =>
    rw [log, typedCalls_append]
    cases move with
    | press p =>
      have next : (d.step (.press p)).mode = Keyboard.modeAfter (past ++ [p]) := by
        rw [Keyboard.modeAfter_concat, ← mode]
        exact press_mode d p
      have first := answered_carries (callsOf_press d p)
      rw [mode] at first
      rw [typedCalls_of_press]
      exact List.rel_append first (ih next)
    | turn turn =>
      rw [typedCalls_of_other rfl]
      exact ih mode
    | pump gaps =>
      rw [typedCalls_of_other rfl]
      exact ih mode

theorem act_ok {l : Live} {applicationKeys : Bool} {action : Action} {calls : List Call}
    (reliable : ∀ made call, l.session.transport.responder.failure made call = none)
    (force : applicationKeys = l.session.terminal.cursor.applicationKeys)
    (answered : Answered applicationKeys (some action) calls) :
    (l.session.act action).1 = .ok () := by
  have written (bytes : List UInt8) : (l.session.write bytes).1 = .ok () :=
    (Live.request_ok_iff l.session (.write bytes)).mpr (reliable ..)
  cases answered with
  | quit => rfl
  | @named binding known proper =>
    subst force
    rw [act_sendKey (Keyboard.keyTable_bytes binding known _).1]
    exact written _
  | raw proper =>
    rw [act_writeRaw l.session proper]
    exact written _

-- For any transport and any run. The log tells which move made which call; replies and
-- questions for the exit code come in between. A key that is sent or written fails only
-- where the transport does.
theorem keys_reach_remote (size : Extent) (identity : Identity) (transport : Transport)
    (moves : List Move) :
    let start := opened size identity transport
    let d := start.run moves
    let inForce :=
      ((Terminal.new size identity true).feed d.live.consumed).2.cursor.applicationKeys
    (∀ p, Answered inForce (Keyboard.press d.mode p).1 (d.callsOf (.press p))) ∧
      d.live.calls = transport.calls ++ (start.log moves).map Prod.snd ∧
      List.Forall₂ Carries (Keyboard.forwarded [] (typed moves)) (typedCalls (start.log moves)) ∧
      ((∀ made call, transport.responder.failure made call = none) →
        ∀ p action, (Keyboard.press d.mode p).1 = some action →
          (d.live.session.act action).1 = .ok ()) ∧
      ∀ mode p name, (Keyboard.press mode p).1 = some (.sendKey name) →
        ∃! binding, binding ∈ Keyboard.keyTable ∧ binding.name = name := by
  intro start d inForce
  have fed := run_fed (d := start) (Live.opened_fed size identity transport) moves
  have made := run_transport start moves
  have force : inForce = d.applicationKeys :=
    congrArg (fun terminal => terminal.cursor.applicationKeys) fed.symm
  refine ⟨fun p => force ▸ callsOf_press d p, congrArg Transport.calls made,
    log_carries rfl moves, fun reliable p action answer => ?_, fun mode p name answer => ?_⟩
  · have due := callsOf_press d p
    rw [answer] at due
    refine act_ok (fun past call => ?_) rfl due
    rw [made]
    exact reliable past call
  · obtain ⟨calls, due⟩ := Keyboard.press_answered mode p false
    rw [answer] at due
    cases due with
    | @named binding known proper =>
      refine ⟨binding, ⟨known, rfl⟩, fun other found => ?_⟩
      exact List.inj_on_of_nodup_map Keyboard.keyTable_names found.1 known found.2

example :
    ((opened ⟨10, 3⟩ {} ⟨⟨fun _ _ => none, fun _ => none⟩, []⟩).run
      [.press ⟨.up, {}⟩, .turn (.read (Utf8.encodeString "\x1b[?1h")), .press ⟨.up, {}⟩,
        .press ⟨.char 'b', { control := true }⟩, .press ⟨.up, {}⟩]).live.calls =
      [.write (Utf8.encodeString "\x1b[A"), .write (Utf8.encodeString "\x1bOA")] := by
  decide +kernel

end Desk

end VideoTerminal

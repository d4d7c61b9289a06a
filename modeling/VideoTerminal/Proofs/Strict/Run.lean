import VideoTerminal.Proofs.Chunking
import VideoTerminal.Proofs.Strict.Dispatch
import VideoTerminal.Proofs.Strict.Nesting

-- A terminal in use, made of partial steps and reading its input out of a
-- reader. No run of it ever fails, and it comes to what the terminal that takes
-- every step for granted comes to.
namespace VideoTerminal.Strict
open Terminal Sequence

def pump (t : Terminal) (r : ByteReader) : Option (Terminal × ByteReader) :=
  match _found : next t.encoding r with
  | none => none
  | some (.incomplete, after) => some (t, after)
  | some (.malformed _, after) => pump t after
  | some (.unit s, after) => do
    let dispatched ← dispatch s t
    pump dispatched after
termination_by r.remaining
decreasing_by
  · exact next_shorter _found (by simp)
  · exact next_shorter _found (by simp)

structure Engine where
  terminal : Terminal
  reader : ByteReader := {}

namespace Engine

def feed (e : Engine) (bytes : List UInt8) : Option Engine := do
  let (after, reader) ← pump { e.terminal with changed := false } (e.reader.add bytes)
  let reader ← flush reader
  return { terminal := { after with changed := e.terminal.changed || after.changed }, reader }

def act (e : Engine) : Terminal.Action → Option Engine
  | .feed bytes => e.feed bytes
  | .resize size => do
    let terminal ← Strict.resize e.terminal size
    return { e with terminal }
  | .perform operation => do
    let terminal ← Strict.perform e.terminal operation
    return { e with terminal }
  | .dispatch sequence => do
    let terminal ← Strict.dispatch sequence e.terminal
    return { e with terminal }

def run (e : Engine) (actions : List Terminal.Action) : Option Engine := actions.foldlM act e

def whole (e : Engine) : Terminal := { e.terminal with unread := e.reader.unread }

end Engine

section Unread

variable {t : Terminal}

theorem carried_eq (t : Terminal) (unread : List UInt8) :
    t.heir { unread := some unread } = { t with unread } :=
  t.heir_of_input false (some unread)

theorem performAll_with_unread (t : Terminal) (unread : List UInt8) (operations : List Operation) :
    { t with unread }.performAll operations = { t.performAll operations with unread } := by
  rw [← carried_eq, heir_performAll, Past.afterAll_of_none rfl, carried_eq]

theorem resize_with_unread (t : Terminal) (unread : List UInt8) (size : Extent) :
    { t with unread }.resize size = { t.resize size with unread } := by
  rw [← carried_eq, heir_resize, carried_eq]

theorem resize_sound (sound : Sound t) (size : Extent) : Sound (t.resize size) :=
  ⟨resize_inGrid t size, (resize_sameStops t size).ascending sound.toCursors⟩

theorem new_sound (size : Extent) (identity : Identity) (listening : Bool) :
    Sound (new size identity listening) :=
  ⟨new_inGrid size identity listening, new_ascending size identity listening⟩

end Unread

section Pump

variable {t : Terminal} {r after : ByteReader} {s : Sequence}

theorem pump_eq {outcome : Outcome} (found : next t.encoding r = some (outcome, after)) :
    pump t r =
      match outcome with
      | .incomplete => some (t, after)
      | .malformed _ => pump t after
      | .unit s => (dispatch s t).bind fun dispatched => pump dispatched after := by
  rw [pump]
  split <;> rename_i read
  · cases read.symm.trans found
  all_goals
    cases read.symm.trans found
    rfl

theorem pump_unit (found : next t.encoding r = some (.unit s, after)) (sound : Sound t) :
    pump t r = pump (t.dispatch s) after := by
  rw [pump_eq found]
  dsimp only
  rw [dispatch_eq sound]
  rfl

structure Pumped (t : Terminal) (r : ByteReader) (u : Terminal) (after : ByteReader) : Prop where
  applied : { u with unread := after.unread } = t.apply r.unread
  sound : Sound u
  settled : Settled after

theorem pump_pumped (sound : Sound t) (settled : Settled r) :
    ∃ u after, pump t r = some (u, after) ∧ Pumped t r u after := by
  generalize left : r.unread = bytes
  induction t, bytes using apply.induct generalizing r with
  | case1 t bytes scanned =>
    subst left
    exact ⟨t, r, pump_eq (next_incomplete scanned),
      (apply_incomplete scanned).symm, sound, settled⟩
  | case2 t bytes fault rest scanned ih =>
    subst left
    obtain ⟨middle, found, took⟩ := next_malformed scanned
    obtain ⟨u, after, pumped, result⟩ := ih sound (took.settled settled) took.unread
    refine ⟨u, after, (pump_eq found).trans pumped, ?_, result.sound, result.settled⟩
    rw [apply_malformed scanned, ← took.unread]
    exact result.applied
  | case3 t bytes s rest scanned ih =>
    subst left
    obtain ⟨middle, found, took⟩ := next_unit scanned
    have dispatched : Sound (t.dispatch s) := sound_stable.performAll sound s.operations
    obtain ⟨u, after, pumped, result⟩ := ih dispatched (took.settled settled) took.unread
    refine ⟨u, after, (pump_unit found sound).trans pumped, ?_, result.sound, result.settled⟩
    rw [apply_unit scanned, ← took.unread]
    exact result.applied

end Pump

namespace Engine

structure Fit (e : Engine) : Prop where
  sound : Sound e.terminal
  settled : Settled e.reader

variable {e : Engine}

theorem feed_fit (fit : Fit e) (bytes : List UInt8) :
    ∃ after, e.feed bytes = some after ∧ Fit after ∧
      after.whole = (e.whole.feed bytes).2 := by
  have lowered : Sound { e.terminal with changed := false } :=
    sound_stable.input e.terminal e.terminal.unread false fit.sound
  obtain ⟨u, reader, pumped, result⟩ := pump_pumped lowered (fit.settled.add bytes)
  have sound : Sound { u with changed := e.terminal.changed || u.changed } :=
    sound_stable.input u u.unread _ result.sound
  refine ⟨⟨{ u with changed := e.terminal.changed || u.changed }, { bytes := reader.unread }⟩, ?_,
    ⟨sound, rfl, Nat.zero_le _⟩, ?_⟩
  · rw [feed, pumped, Option.bind_eq_bind, Option.bind_some]
    dsimp only
    rw [flush_eq result.settled.ordered, flush_unmarked result.settled]
    rfl
  · have applied := result.applied
    rw [add_unread fit.settled.inside, ← apply_without_unread _ []] at applied
    unfold whole Terminal.feed
    dsimp only
    rw [← applied]
    rfl

theorem act_fit (fit : Fit e) (action : Terminal.Action) :
    ∃ after, e.act action = some after ∧ Fit after ∧ after.whole = e.whole.act action := by
  cases action with
  | feed bytes => exact feed_fit fit bytes
  | resize size =>
    refine ⟨⟨e.terminal.resize size, e.reader⟩, ?_,
      ⟨resize_sound fit.sound size, fit.settled⟩, (resize_with_unread ..).symm⟩
    rw [act, resize_eq]
    rfl
  | perform operation =>
    refine ⟨⟨e.terminal.perform operation, e.reader⟩, ?_,
      ⟨sound_stable.perform _ operation fit.sound, fit.settled⟩,
      (performAll_with_unread _ _ [operation]).symm⟩
    rw [act, perform_eq fit.sound.toSized fit.sound.live]
    rfl
  | dispatch sequence =>
    refine ⟨⟨e.terminal.dispatch sequence, e.reader⟩, ?_,
      ⟨sound_stable.performAll fit.sound _, fit.settled⟩, (performAll_with_unread ..).symm⟩
    rw [act, dispatch_eq fit.sound]
    rfl

theorem run_fit (fit : Fit e) (actions : List Terminal.Action) :
    ∃ after, e.run actions = some after ∧ Fit after ∧ after.whole = e.whole.run actions := by
  induction actions generalizing e with
  | nil => exact ⟨e, rfl, fit, rfl⟩
  | cons action rest ih =>
    obtain ⟨middle, acted, fits, same⟩ := act_fit fit action
    obtain ⟨after, ran, fits, later⟩ := ih fits
    refine ⟨after, ?_, fits, ?_⟩
    · rw [run, List.foldlM_cons, acted]
      exact ran
    · rw [later, same]
      rfl

def start (size : Extent) (identity : Identity) (listening : Bool) : Engine :=
  { terminal := new size identity listening }

-- No run fails, whatever the size, the input and the arguments: every index is
-- inside its list, every difference and every negation has its place, and every
-- range that a value is kept in has its ends in order. What is asked of the
-- terminal afterwards can be answered.
theorem run_never_fails (size : Extent) (identity : Identity) (listening : Bool)
    (actions : List Terminal.Action) :
    ∃ after, (start size identity listening).run actions = some after ∧
      after.whole = (new size identity listening).run actions ∧
      cursorPosition after.terminal = some after.whole.cursorPosition ∧
      remaining after.reader = some after.whole.unread.length := by
  have fit : Fit (start size identity listening) :=
    ⟨new_sound size identity listening, rfl, Nat.le_refl _⟩
  obtain ⟨after, ran, fits, same⟩ := run_fit fit actions
  refine ⟨after, ran, same, cursorPosition_eq fits.sound.toSized, ?_⟩
  rw [remaining_eq fits.settled, remaining_eq_length]
  rfl

end Engine

end VideoTerminal.Strict

import VideoTerminal.Proofs.Margins
import VideoTerminal.Proofs.Steady

-- The size of the terminal and the one that the far side was last given. They can
-- part where a session starts and where a new size is refused.
namespace VideoTerminal

theorem Extent.atLeastOne_atLeastOne (size : Extent) :
    size.atLeastOne.atLeastOne = size.atLeastOne := by
  have again : ∀ n, max 1 (max 1 n) = max 1 n := fun n => Nat.max_eq_right (Nat.le_max_left 1 n)
  simp only [atLeastOne, again]

def Responder.granted (responder : Responder) (made : List Call) : List Call → List Call
  | [] => []
  | call :: rest =>
    let later := responder.granted (made ++ [call]) rest
    if responder.failure made call = none then call :: later else later

theorem Responder.granted_append (responder : Responder) (made first second : List Call) :
    responder.granted made (first ++ second) =
      responder.granted made first ++ responder.granted (made ++ first) second := by
  induction first generalizing made with
  | nil => rw [List.append_nil]; rfl
  | cons call rest ih =>
    have later := ih (made ++ [call])
    rw [List.append_assoc] at later
    simp only [List.cons_append, granted]
    split
    · exact congrArg (call :: ·) later
    · exact later

-- The size that the far side goes by: the last one in a call that succeeded.
def Transport.size? (t : Transport) : Option Extent :=
  ((t.responder.granted [] t.calls).filterMap Call.size?).getLast?

theorem Transport.request_size? (t : Transport) (call : Call) :
    (t.request call).2.size? =
      if (t.request call).1.isOk then call.size?.or t.size? else t.size? := by
  have made : (t.request call).2 = { t with calls := t.calls ++ [call] } := by
    unfold request
    split <;> rfl
  have answered : (t.request call).1.isOk = decide (t.responder.failure t.calls call = none) := by
    unfold request
    split
    · rename_i refused
      rw [refused]; rfl
    · rename_i granted
      rw [granted]; rfl
  rw [made, answered]
  simp only [size?, Responder.granted_append, Responder.granted, List.nil_append,
    List.filterMap_append, List.getLast?_append]
  by_cases granted : t.responder.failure t.calls call = none
  · cases sized : call.size? with
    | none => simp [granted, sized]
    | some size => simp [granted, sized]
  · simp [granted]

namespace Terminal

theorem window_stable (size : Extent) : Stable fun t => t.window = size where
  input _ _ _ same := same
  perform t operation same := (perform_steers t operation).window.trans same

end Terminal

namespace Live

structure Measured (window : Extent) (given : Option Extent) (l : Live) : Prop where
  window : l.session.terminal.window = window
  given : l.session.transport.size? = given

variable {window : Extent} {given : Option Extent} {l : Live}

theorem measured_apart (window : Extent) (given : Option Extent) :
    Apart (Measured window given) where
  queues _ _ _ _ _ _ measured := ⟨measured.window, measured.given⟩
  feed l bytes measured := by
    have fed := (Terminal.window_stable window).feed measured.window bytes
    exact ⟨fed, measured.given⟩
  call l call sizeless measured := by
    refine ⟨measured.window, ?_⟩
    have requested := l.session.transport.request_size? call
    rw [sizeless, Option.none_or, ite_self] at requested
    exact requested.trans measured.given

theorem Measured.resize (measured : Measured window given l) (size : Extent) :
    Measured size.atLeastOne
      (if (l.session.resize size).1.isOk then some size.atLeastOne else given)
      (l.step (.resize size)) := by
  constructor
  · show (l.session.resize size).2.terminal.window = size.atLeastOne
    rw [resize_session]
    have resized := Terminal.resize_window l.session.terminal size.atLeastOne
    exact resized.trans size.atLeastOne_atLeastOne
  · have requested := l.session.transport.request_size? (.resize size.atLeastOne)
    rw [measured.given] at requested
    exact requested

def Agreed (l : Live) : Prop :=
  l.session.transport.size? = some l.session.terminal.window

theorem Agreed.measured (agreed : Agreed l) :
    Measured l.session.terminal.window (some l.session.terminal.window) l :=
  ⟨rfl, agreed⟩

theorem Measured.agreed_iff (measured : Measured window given l) :
    Agreed l ↔ given = some window := by
  rw [Agreed, measured.window, measured.given]

def Heeds (l : Live) (size : Extent) : Prop :=
  (l.session.resize size).1.isOk = true ∨ l.session.terminal.window = size.atLeastOne

theorem Agreed.resize_iff (agreed : Agreed l) (size : Extent) :
    Agreed (l.step (.resize size)) ↔ l.Heeds size := by
  rw [(agreed.measured.resize size).agreed_iff, Heeds]
  cases (l.session.resize size).1.isOk with
  | true => simp
  | false => simp

theorem Agreed.step (agreed : Agreed l) {step : Step}
    (heeded : ∀ size, step = .resize size → l.Heeds size) : Agreed (l.step step) := by
  by_cases sized : ∃ size, step = .resize size
  · obtain ⟨size, rfl⟩ := sized
    exact (agreed.resize_iff size).mpr (heeded size rfl)
  · have kept := (measured_apart _ _).step agreed.measured fun size same => sized ⟨size, same⟩
    exact kept.agreed_iff.mpr rfl

theorem Agreed.run (agreed : Agreed l) {steps : List Step}
    (heeded : ∀ past new, past ++ [.resize new] <+: steps → (l.run past).Heeds new) :
    Agreed (l.run steps) := by
  induction steps generalizing l with
  | nil => exact agreed
  | cons step rest ih =>
    refine ih (agreed.step ?_) ?_
    · rintro size rfl
      exact heeded [] size ⟨rest, rfl⟩
    · intro past new made
      exact heeded (step :: past) new ((List.prefix_cons_inj step).mpr made)

theorem started_agreed_iff {responder : Responder} {size : Extent} {identity : Identity}
    {program term : String} {session : Session}
    (started : (Session.start responder size identity program term).1 = .ok session) :
    Agreed ⟨session, [], []⟩ ↔ size.atLeastOne = size := by
  have measured : Measured size.atLeastOne (some size) ⟨session, [], []⟩ := by
    have spawned := Transport.request_size? { responder } (.spawn program term size)
    unfold Session.start at started
    split at started
    · cases started
    · rename_i opened granted
      have taken := opened.request_size? .takeReader
      rw [granted] at spawned
      split at started
      · cases started
      · rename_i reading accepted
        rw [accepted] at taken
        cases started
        exact ⟨rfl, taken.trans spawned⟩
  exact measured.agreed_iff.trans (by rw [Option.some_inj]; exact eq_comm)

-- The two sizes are the same all along if they are at the start and nothing that
-- the far side refuses would have made a difference.
theorem sizes_agree_iff (responder : Responder) (size : Extent) (identity : Identity)
    (program term : String) (session : Session) (steps : List Step)
    (started : (Session.start responder size identity program term).1 = .ok session) :
    (∀ past, past <+: steps → Agreed ((⟨session, [], []⟩ : Live).run past)) ↔
      size.atLeastOne = size ∧ ∀ past new, past ++ [.resize new] <+: steps →
        ((⟨session, [], []⟩ : Live).run past).Heeds new := by
  constructor
  · intro always
    refine ⟨(started_agreed_iff started).mp (always [] List.nil_prefix), ?_⟩
    intro past new made
    have before := always past ((List.prefix_append past _).trans made)
    have after := always (past ++ [.resize new]) made
    rw [Live.run, List.foldl_append] at after
    exact (before.resize_iff new).mp after
  · rintro ⟨proper, heeded⟩ past made
    have start := (started_agreed_iff started).mpr proper
    exact start.run fun earlier new found => heeded earlier new (found.trans made)

def settling : Responder where
  failure calls call :=
    if (calls.filterMap Call.size?).length < 2 ∨ call.size? = none then none else some .closed
  exitCode _ := none

def sizedStart (size : Extent) : Live :=
  opened size {} ⟨settling, [.spawn "sh" "xterm" size, .takeReader]⟩

theorem sizedStart_started (size : Extent) :
    (Session.start settling size {} "sh" "xterm").1 = .ok (sizedStart size).session := rfl

theorem sizes_agree_repeated :
    Agreed ((sizedStart ⟨10, 3⟩).run [.resize ⟨0, 6⟩, .pump [], .resize ⟨1, 6⟩]) := by
  have heeded : ∀ past new, past ++ [.resize new] <+: [.resize ⟨0, 6⟩, .pump [], .resize ⟨1, 6⟩] →
      ((sizedStart ⟨10, 3⟩).run past).Heeds new := by
    intro past new made
    match past with
    | [] =>
      obtain rfl : new = ⟨0, 6⟩ := by simpa using made
      exact .inl (by decide +kernel)
    | [step] => simp at made
    | [first, second] =>
      obtain ⟨rfl, rfl, rfl⟩ :
          first = .resize ⟨0, 6⟩ ∧ second = .pump [] ∧ new = ⟨1, 6⟩ := by simpa using made
      exact .inr (by decide +kernel)
    | first :: second :: third :: rest =>
      have short := made.length_le
      simp only [List.length_append, List.length_cons, List.length_nil] at short
      omega
  have agree := sizes_agree_iff settling ⟨10, 3⟩ {} "sh" "xterm" (sizedStart ⟨10, 3⟩).session
    [.resize ⟨0, 6⟩, .pump [], .resize ⟨1, 6⟩] (sizedStart_started ⟨10, 3⟩)
  exact agree.mpr ⟨rfl, heeded⟩ _ List.prefix_rfl

theorem sizes_part :
    ¬Agreed (sizedStart ⟨0, 3⟩) ∧
      ¬Agreed ((sizedStart ⟨10, 3⟩).run [.resize ⟨20, 6⟩, .resize ⟨30, 9⟩]) := by
  unfold Agreed
  decide +kernel

end Live

end VideoTerminal

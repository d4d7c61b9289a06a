import VideoTerminal.Proofs.Replies

-- What holds of a session through whatever its two sides do, shown move by move:
-- a turn of the reading side, a queue of replies, a call to the transport.
namespace VideoTerminal

def Call.size? : Call → Option Extent
  | .spawn _ _ size => some size
  | .resize size => some size
  | _ => none

namespace Live

-- Kept by every move but two. New sizes are left out, and so are the signals that
-- a pump takes, since some facts are about these.
structure Steady (P : Live → Prop) : Prop where
  turn : ∀ l turn, P l → P (l.take turn)
  queue : ∀ l replies closed, P l → P { l with session := { l.session with replies, closed } }
  call : ∀ l call, call.size? = none → P l → P { l with session := (l.session.request call).2 }

section Steadiness

variable {P : Live → Prop} {l : Live}

theorem Steady.takeAll (steady : Steady P) (holds : P l) (turns : List Turn) :
    P (l.takeAll turns) := by
  induction turns generalizing l with
  | nil => exact holds
  | cons turn rest ih => exact ih (steady.turn l turn holds)

theorem Steady.collect (steady : Steady P)
    (signals : ∀ l signals closed, P l → P { l with session := { l.session with signals, closed } })
    (holds : P l) (gaps : List (List Turn)) : P (l.collect gaps).2.2 := by
  induction gaps generalizing l with
  | nil => exact signals l [] _ holds
  | cons gap gaps ih =>
    have kept := steady.takeAll holds gap
    unfold Live.collect
    dsimp only
    split
    · exact kept
    · exact ih (signals (l.takeAll gap) _ _ kept)

theorem Steady.writeReplies (steady : Steady P) (holds : P l) (queue : List (List UInt8)) :
    P { l with session := (l.session.writeReplies queue).2 } := by
  induction queue generalizing l with
  | nil => exact steady.queue l [] l.session.closed holds
  | cons reply rest ih =>
    have written := steady.call l (.write reply) rfl holds
    unfold Session.writeReplies Session.write
    cases answered : l.session.request (.write reply) with
    | mk answer session =>
      rw [answered] at written
      cases answer with
      | error error => exact steady.queue { l with session } rest session.closed written
      | ok sent => exact ih written

theorem Steady.deliver (steady : Steady P) (holds : P l) (gaps : List (List Turn)) :
    P (l.deliver gaps).2.2 := by
  induction gaps generalizing l with
  | nil => exact steady.writeReplies holds l.session.replies
  | cons gap gaps ih =>
    have kept := steady.takeAll holds gap
    unfold Live.deliver
    dsimp only
    split
    · exact kept
    · rename_i reply replies _
      have shorter := steady.queue (l.takeAll gap) replies (l.takeAll gap).session.closed kept
      have written := steady.call _ (.write reply) rfl shorter
      unfold Session.write
      cases answered : Session.request _ (.write reply) with
      | mk answer session =>
        rw [answered] at written
        cases answer with
        | error error => exact written
        | ok sent => exact ih written

theorem Steady.checkExit (steady : Steady P) (holds : P l) :
    P { l with session := l.session.checkExit.2 } := by
  obtain ⟨asked, checked, ⟨rfl, -⟩ | ⟨rfl, -⟩⟩ := checkExit_calls l.session
  · rw [checked, List.append_nil]
    exact steady.queue l l.session.replies _ holds
  · have questioned := steady.call l .tryWait rfl holds
    rw [request_eq] at questioned
    rw [checked]
    exact steady.queue _ l.session.replies _ questioned

theorem Steady.pump (steady : Steady P) {gaps : List (List Turn)}
    (collected : P (l.collect gaps).2.2) : P (l.pump gaps).2 := by
  cases collects : l.collect gaps with
  | mk redraw found =>
    obtain ⟨between, m⟩ := found
    rw [collects] at collected
    have delivered := steady.deliver collected between
    cases delivers : m.deliver between with
    | mk answer left =>
      obtain ⟨rest, n⟩ := left
      rw [delivers] at delivered
      cases answer with
      | error error =>
        rw [pump_failed collects delivers]
        exact steady.takeAll delivered _
      | ok sent =>
        rw [pump_delivered collects delivers]
        exact steady.takeAll (steady.checkExit delivered) _

theorem Steady.sendKey (steady : Steady P) (holds : P l) (name : String) :
    P { l with session := (l.session.sendKey name).2 } := by
  unfold Session.sendKey
  split
  · exact holds
  · rename_i bytes _
    have written := steady.call l (.write bytes) rfl holds
    unfold Session.write
    cases answered : l.session.request (.write bytes) with
    | mk answer session =>
      rw [answered] at written
      cases answer <;> exact written

theorem Steady.close (steady : Steady P) (holds : P l) :
    P { l with session := l.session.close.2 } := by
  unfold Session.close
  split
  · exact holds
  · have killed := steady.call l .kill rfl holds
    cases answered : l.session.request .kill with
    | mk answer session =>
      rw [answered] at killed
      cases answer with
      | error error => exact killed
      | ok done => exact steady.queue { l with session } session.replies true killed

theorem Steady.step (steady : Steady P) (holds : P l) {step : Step}
    (collects : ∀ gaps, step = .pump gaps → P (l.collect gaps).2.2)
    (resizes : ∀ size, step = .resize size → P (l.step (.resize size))) : P (l.step step) := by
  cases step with
  | turn turn => exact steady.turn l turn holds
  | pump gaps => exact steady.pump (collects gaps rfl)
  | write bytes => exact steady.call l (.write bytes) rfl holds
  | sendKey name => exact steady.sendKey holds name
  | resize size => exact resizes size rfl
  | close => exact steady.close holds

end Steadiness

structure Apart (P : Live → Prop) : Prop where
  queues : ∀ l replies signals reading closed outgoing, P l → P { l with
    session := { l.session with replies, signals, reading, closed }, outgoing }
  feed : ∀ l bytes, P l → P { l with
    session := { l.session with terminal := (l.session.terminal.feed bytes).2.takeEvents.2 }
    heard := l.heard ++ [.feed bytes] }
  call : ∀ l call, call.size? = none → P l → P { l with session := (l.session.request call).2 }

section

variable {P : Live → Prop} {l : Live}

theorem Apart.stop (apart : Apart P) (holds : P l) : P l.stop :=
  apart.queues l l.session.replies l.session.signals false l.session.closed _ holds

theorem Apart.take (apart : Apart P) (holds : P l) (turn : Turn) : P (l.take turn) := by
  cases turn with
  | read bytes =>
    show P (l.read bytes)
    unfold Live.read
    split
    · exact holds
    · split
      · exact apart.stop holds
      · exact apart.queues _ l.session.replies l.session.signals l.session.reading
          l.session.closed _ (apart.feed l bytes holds)
  | fail interrupted =>
    show P (l.fail interrupted)
    unfold Live.fail
    split
    · exact holds
    · exact apart.stop holds
  | post =>
    show P l.post
    unfold Live.post
    split
    · exact holds
    · exact apart.queues l _ l.session.signals l.session.reading l.session.closed _ holds
    · exact apart.queues l l.session.replies _ l.session.reading l.session.closed _ holds

theorem Apart.steady (apart : Apart P) : Steady P where
  turn _ turn holds := apart.take holds turn
  queue l replies closed holds :=
    apart.queues l replies l.session.signals l.session.reading closed l.outgoing holds
  call := apart.call

theorem Apart.step (apart : Apart P) (holds : P l) {step : Step}
    (unsized : ∀ size, step ≠ .resize size) : P (l.step step) := by
  refine apart.steady.step holds (fun gaps _ => apart.steady.collect ?_ holds gaps) ?_
  · intro l signals closed holds
    exact apart.queues l l.session.replies signals l.session.reading closed l.outgoing holds
  · intro size same
    exact absurd same (unsized size)

theorem Apart.run (apart : Apart P) (holds : P l) {steps : List Step}
    (unsized : ∀ size, .resize size ∉ steps) : P (l.run steps) := by
  induction steps generalizing l with
  | nil => exact holds
  | cons step rest ih =>
    refine ih (apart.step holds ?_) fun size later => unsized size (List.mem_cons_of_mem _ later)
    rintro size rfl
    exact unsized size List.mem_cons_self

end

end Live

end VideoTerminal

import VideoTerminal.Proofs.Paragraph
import VideoTerminal.Proofs.Redraws
import VideoTerminal.Proofs.Rendering

-- A host that draws only when a pump asks for it. What is drawn below the title
-- is always current then; the title is not.
namespace VideoTerminal.Live

structure Follows (origin : Terminal) (m l : Live) : Prop where
  grid : Terminal.InGrid l.session.terminal
  terminal : l.session.terminal = (origin.run l.heard).takeEvents.2
  more : origin.changes m.heard ≤ origin.changes l.heard
  alike : origin.changes l.heard = origin.changes m.heard →
    l.session.terminal.picture = m.session.terminal.picture

variable {origin : Terminal} {m l : Live}

theorem Follows.feed (follows : Follows origin m l) (bytes : List UInt8) :
    Follows origin m { l with
      session := { l.session with terminal := (l.session.terminal.feed bytes).2.takeEvents.2 }
      heard := l.heard ++ [.feed bytes] } := by
  have more := follows.more
  have heard := Terminal.changes_feed follows.terminal bytes
  have fed : Terminal.InGrid (l.session.terminal.feed bytes).2 :=
    Terminal.act_inGrid follows.grid (.feed bytes)
  refine ⟨fed.move rfl rfl fed.row fed.column, Terminal.feed_heard follows.terminal bytes, ?_, ?_⟩
  · show origin.changes m.heard ≤ origin.changes (l.heard ++ [.feed bytes])
    omega
  · intro same
    change origin.changes (l.heard ++ [.feed bytes]) = origin.changes m.heard at same
    cases said : (l.session.terminal.feed bytes).1 with
    | true =>
      rw [said, if_pos rfl] at heard
      omega
    | false =>
      have kept := (Terminal.feed_unseen follows.grid bytes said).picture
      exact kept.trans (follows.alike (by omega))

theorem follows_apart (origin : Terminal) (m : Live) : Apart (Follows origin m) where
  queues _ _ _ _ _ _ follows := ⟨follows.grid, follows.terminal, follows.more, follows.alike⟩
  feed _ bytes follows := follows.feed bytes
  call l call _ follows := by
    rw [request_eq]
    exact ⟨follows.grid, follows.terminal, follows.more, follows.alike⟩

theorem Balanced.follows {count : Nat} (balanced : Balanced origin count l)
    (grid : Terminal.InGrid origin) : Follows origin l l := by
  have heard := Terminal.run_inGrid grid l.heard
  refine ⟨?_, balanced.terminal, Nat.le_refl _, fun _ => rfl⟩
  rw [balanced.terminal]
  exact heard.move rfl rfl heard.row heard.column

theorem Balanced.unchanged {count : Nat} (balanced : Balanced origin count m)
    {between : List Step} {gaps : List (List Turn)} {outcome : PumpOutcome}
    (untaken : m.told between + m.lost between = 0)
    (ok : ((m.run between).pump gaps).1 = .ok outcome) (unasked : outcome.redraw = false)
    (delivered : ((m.run between).step (.pump gaps)).queued +
      ((m.run between).step (.pump gaps)).onTheWay = 0) :
    origin.changes ((m.run between).step (.pump gaps)).heard ≤ origin.changes m.heard := by
  have took : (m.run between).toldBy (.pump gaps) + (m.run between).lostBy (.pump gaps) = 0 := by
    have asked := pump_redraw ok
    have none : ((m.run between).taken gaps).count .redraw = 0 := by
      rw [unasked] at asked
      exact Nat.eq_zero_of_not_pos fun some => Bool.false_ne_true (asked.mpr some)
    simp only [toldBy, lostBy, none, ite_self]
  have before := balanced.signals
  have after := ((balanced.run between).step (.pump gaps)).signals
  omega

-- Nothing but a title escapes a pump that succeeds and asks for no redraw, once
-- every signal was delivered. The drawing is the one of any moment since which no
-- pump took a signal and the size stayed.
theorem drawn_alike_iff (size : Extent) (identity : Identity) (transport : Transport)
    (before between : List Step) (gaps : List (List Turn)) (outcome : PumpOutcome) :
    let m := (opened size identity transport).run before
    let n := m.run between
    let t := m.session.terminal
    let u := (n.step (.pump gaps)).session.terminal
    (∀ size, .resize size ∉ between) → m.told between + m.lost between = 0 →
      (n.pump gaps).1 = .ok outcome → outcome.redraw = false →
      (n.step (.pump gaps)).queued + (n.step (.pump gaps)).onTheWay = 0 →
      (∀ kit c area, Screen.draw kit c area u false = Screen.draw kit c area t false) ∧
        (∀ kit : Screen.Toolkit, kit.Lawful →
          ((∀ c area, Screen.draw kit c area u true = Screen.draw kit c area t true) ↔
            ∀ c area, Screen.drawTitle kit c area u.title =
              Screen.drawTitle kit c area t.title)) ∧
        ((∀ c area, Screen.draw .standard c area u true = Screen.draw .standard c area t true) ↔
          Screen.titlePicture u.title = Screen.titlePicture t.title) := by
  intro m n t u unsized untaken ok unasked delivered
  have earlier : Balanced (Terminal.new size identity true) _ m :=
    (opened_balanced size identity transport).run before
  have start := earlier.follows (Terminal.new_inGrid size identity true)
  have follows : Follows (Terminal.new size identity true) m (n.step (.pump gaps)) :=
    (follows_apart _ m).step ((follows_apart _ m).run start unsized) nofun
  have unchanged := earlier.unchanged untaken ok unasked delivered
  have same : u.picture = t.picture := follows.alike (Nat.le_antisymm unchanged follows.more)
  refine ⟨fun kit => Screen.draw_untitled kit same,
    fun kit lawful => Screen.draw_titled_iff lawful same, ?_⟩
  exact (Screen.draw_titled_iff Screen.Toolkit.standard_lawful same).trans
    (Screen.drawTitle_iff ..)

def obliging : Responder where
  failure _ _ := none
  exitCode _ := none

def entitled : List Step :=
  [.turn (.read (Utf8.encodeString "x\x1b]0;t\x07")), .turn .post, .pump []]

theorem drawn_alike_questioned :
    let m := (opened ⟨4, 1⟩ {} ⟨obliging, []⟩).run entitled
    let n := m.run [.turn (.read (Utf8.encodeString "\x1b[c")), .turn .post]
    let blank := Screen.Canvas.blank 4 1
    Screen.draw .standard blank ⟨0, 0, 4, 1⟩ (n.step (.pump [])).session.terminal true =
      Screen.draw .standard blank ⟨0, 0, 4, 1⟩ m.session.terminal true := by
  intro m n blank
  have ok : (n.pump []).1 = .ok ⟨false, false⟩ := ok_of_toOption (by decide +kernel)
  have alike := drawn_alike_iff ⟨4, 1⟩ {} ⟨obliging, []⟩ entitled
    [.turn (.read (Utf8.encodeString "\x1b[c")), .turn .post] [] ⟨false, false⟩ (by simp)
    (by decide +kernel) ok rfl (by decide +kernel)
  have titled : (n.step (.pump [])).session.terminal.title = m.session.terminal.title := by
    decide +kernel
  refine (alike.2.1 .standard Screen.Toolkit.standard_lawful).mpr ?_ blank ⟨0, 0, 4, 1⟩
  intro c area
  rw [titled]

theorem title_not_redrawn :
    let start := opened ⟨4, 1⟩ {} ⟨obliging, []⟩
    let m := start.step (.pump [])
    let n := m.run [.turn (.read (Utf8.encodeString "\x1b]0;t\x07")), .turn .post]
    let blank := Screen.Canvas.blank 4 1
    (start.pump []).1.isOk = true ∧ (n.pump []).1.toOption = some ⟨false, false⟩ ∧
      Screen.draw .standard blank ⟨0, 0, 4, 1⟩ (n.step (.pump [])).session.terminal true ≠
        Screen.draw .standard blank ⟨0, 0, 4, 1⟩ m.session.terminal true := by
  decide +kernel

end VideoTerminal.Live

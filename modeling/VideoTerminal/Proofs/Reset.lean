import VideoTerminal.Proofs.Grid
import VideoTerminal.Proofs.Heir

namespace VideoTerminal.Terminal
open Sequence

def resets : List (List UInt8) := [Utf8.encodeString "\x1bc", Utf8.encodeString "\x1b[!p"]

def replacement (t : Terminal) : Terminal := new t.window t.identity t.listening

-- Two terminals that nobody can tell apart by what they show or by what they
-- do next. One of them may have more scrollback in either buffer and events
-- that were not taken. Flag and title are not compared.
structure Alike (kept fresh : Terminal) (above behind : List Line) (earlier : Array Event) :
    Prop where
  registers : kept = { fresh with
    normal := kept.normal
    alternate := kept.alternate
    changed := kept.changed
    title := kept.title
    outbox := kept.outbox }
  normal : kept.normal = ⟨above ++ fresh.normal.lines, above.length + fresh.normal.topRow⟩
  alternate : kept.alternate =
    ⟨behind ++ fresh.alternate.lines, behind.length + fresh.alternate.topRow⟩
  events : kept.outbox = earlier ++ fresh.outbox
  lines : ∀ row, kept.visibleLine? row = fresh.visibleLine? row
  cells : ∀ column row, kept.visibleCell column row = fresh.visibleCell column row

variable {t : Terminal} {bytes : List UInt8}

theorem heir_alike (t : Terminal) {past : Past} (kept : past.unread = none) :
    Alike (t.heir past) t past.above past.behind past.earlier where
  registers := by simp only [heir, kept, Option.getD_none]
  normal := rfl
  alternate := rfl
  events := rfl
  lines := heir_visibleLine? t past
  cells := heir_visibleCell t past

theorem scan_reset (encoding : Encoding) (wanted : bytes ∈ resets) :
    ∃ s, scan encoding bytes = .unit s [] ∧ s.operations = [.fullReset] := by
  simp only [resets, List.mem_cons, List.not_mem_nil, or_false] at wanted
  rcases wanted with rfl | rfl
  · exact ⟨.escape 'c', by cases encoding <;> rfl, rfl⟩
  · exact ⟨.csi { bang := true, command := "p" } [], by cases encoding <;> rfl, rfl⟩

theorem feed_reset (grid : InGrid t) (settled : t.unread = []) (wanted : bytes ∈ resets) :
    (t.feed bytes).2 = t.replacement.heir
      { above := t.normal.lines
        behind := t.alternate.lines
        earlier := (t.feed bytes).2.outbox
        changed := true
        title := some t.title } := by
  obtain ⟨s, scanned, asked⟩ := scan_reset t.encoding wanted
  have size : t.window.atLeastOne = t.window := by
    rw [Extent.atLeastOne, Nat.max_eq_right grid.wide, Nat.max_eq_right grid.tall]
  have reset : ∀ u : Terminal, u.dispatch s = u.fullReset := fun u => by
    rw [dispatch, asked]; rfl
  rw [feed_unit settled scanned]
  simp only [reset, fullReset, reportWindow, reportRows, raise]
  rw [raiseAll_eq]
  simp [replacement, new, heir, marked, size, Buffer.below, Buffer.length]

theorem reset_alike (reached : Reached t) (settled : t.unread = []) (wanted : bytes ∈ resets) :
    ∀ later : List Action,
      (t.feed bytes).2.answers later = t.replacement.answers later ∧
      Alike ((t.feed bytes).2.run later) (t.replacement.run later)
        t.normal.lines t.alternate.lines (t.feed bytes).2.outbox ∧
      ((∃ title, .setTitle title ∈ t.replacement.askedByAll later) →
        ((t.feed bytes).2.run later).title = (t.replacement.run later).title) ∧
      ((∀ title, .setTitle title ∉ t.replacement.askedByAll later) →
        ((t.feed bytes).2.run later).title = t.title) := by
  intro later
  have carried := feed_reset reached.inGrid settled wanted
  generalize (t.feed bytes).2.outbox = earlier at carried ⊢
  rw [carried, heir_answers _ rfl, heir_run _ rfl]
  refine ⟨rfl, ?_, fun ⟨title, titled⟩ => ?_, fun untitled => ?_⟩
  · rw [Past.afterAll_eq]
    exact heir_alike _ rfl
  · simp only [heir, Past.afterAll_titled titled, Option.getD_none]
  · simp only [heir, Past.afterAll_untitled _ untitled, Option.getD_some]

theorem reset_alike_after_printing :
    let named : Terminal := (new ⟨2, 1⟩ {} true).act (.perform (.setTitle "a"))
    let t : Terminal := named.act (.perform (.putChar 'x'))
    let later : List Action := [.feed [0x79], .resize ⟨3, 2⟩, .perform (.putChar 'z')]
    Alike ((t.feed (Utf8.encodeString "\x1bc")).2.run later) (t.replacement.run later)
      t.normal.lines t.alternate.lines (t.feed (Utf8.encodeString "\x1bc")).2.outbox := by
  intro named t later
  have reached : Reached t := .act _ (.act _ (.new ⟨2, 1⟩ {} true))
  exact (reset_alike reached rfl (List.mem_cons_self ..) later).2.1

end VideoTerminal.Terminal

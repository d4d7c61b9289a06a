import VideoTerminal.Proofs.Chunking
import VideoTerminal.Proofs.Grid
import VideoTerminal.Proofs.Sparing

-- A program that works on the alternate screen leaves the normal one alone.
namespace VideoTerminal.Terminal
open Sequence

variable {t u : Terminal}

def enterAlternate : List UInt8 := Utf8.encodeString "\x1b[?1049h"

def leaveAlternate : List UInt8 := Utf8.encodeString "\x1b[?1049l"

def entering : Sequence := .csi { params := [1049], query := true, command := "h" } []

def leaving : Sequence := .csi { params := [1049], query := true, command := "l" } []

structure Away (origin t : Terminal) : Prop where
  active : t.active = .alternate
  normal : t.normal = origin.normal
  saved : t.savedCursor = some origin.cursor

structure Visits (origin t : Terminal) : Prop extends Away origin t where
  window : t.window = origin.window
  page : t.page = origin.page

theorem Visits.spares {origin : Terminal} (visit : Visits origin t) (spared : Spares t u) :
    Visits origin u := by
  have active : u.active = .alternate := spared.active.trans visit.active
  have other := spared.other
  simp only [otherBuffer, active, visit.active] at other
  exact ⟨⟨active, other.trans visit.normal, spared.saved.trans visit.saved⟩,
    spared.window.trans visit.window, spared.page.trans visit.page⟩

theorem scan_enter (encoding : Encoding) : scan encoding enterAlternate = .unit entering [] := by
  cases encoding <;> rfl

theorem scan_leave (encoding : Encoding) : scan encoding leaveAlternate = .unit leaving [] := by
  cases encoding <;> rfl

theorem dispatch_enter (t : Terminal) : Visits t (t.dispatch entering) := by
  have switched : Visits t (t.saveCursor.useBuffer .alternate) := by
    have onAlternate : Visits t { t.saveCursor with active := .alternate } :=
      ⟨⟨rfl, rfl, rfl⟩, rfl, rfl⟩
    exact onAlternate.spares ((reportWindow_draws _).trans (marked_draws _)).spares
  exact switched.spares (eraseAll_draws _).spares

theorem feed_enter (settled : t.unread = []) : Visits t (t.feed enterAlternate).2 := by
  rw [feed_unit settled (scan_enter _)]
  have entered := dispatch_enter { t with unread := [], changed := false }
  exact ⟨⟨entered.active, entered.normal, entered.saved⟩, entered.window, entered.page⟩

theorem useBuffer_normal (t : Terminal) (kind : BufferKind) :
    (t.useBuffer kind).active = kind ∧ (t.useBuffer kind).normal = t.normal := by
  unfold useBuffer reportWindow reportRows raise
  rw [raiseAll_eq]
  exact ⟨rfl, rfl⟩

-- The normal screen is as it was. The cursor comes back to where the window of
-- now has room for it.
structure Back (origin : Terminal) (window page : Extent) (t : Terminal) : Prop where
  active : t.active = .normal
  normal : t.normal = origin.normal
  cursor : t.cursor = { origin.cursor with
    row := min origin.cursor.row (window.rows - 1)
    column := min origin.cursor.column page.columns }

theorem dispatch_leave {origin : Terminal} (away : Away origin t) :
    Back origin t.window t.page (t.dispatch leaving) := by
  obtain ⟨active, normal⟩ := useBuffer_normal t .normal
  have drawn : Draws { t with active := .normal } (t.useBuffer .normal) :=
    (reportWindow_draws _).trans (marked_draws _)
  have saved : (t.useBuffer .normal).savedCursor = some origin.cursor :=
    drawn.savedCursor.trans away.saved
  have dispatched : t.dispatch leaving = (t.useBuffer .normal).restoreCursor := rfl
  rw [dispatched, restoreCursor, saved]
  refine ⟨active, normal.trans away.normal, ?_⟩
  simp only [drawn.window, drawn.page]
  rfl

theorem feed_back {origin : Terminal} (away : Away origin t) (settled : t.unread = []) :
    Back origin t.window t.page (t.feed leaveAlternate).2 := by
  rw [feed_unit settled (scan_leave _)]
  have left := dispatch_leave (t := { t with unread := [], changed := false })
    ⟨away.active, away.normal, away.saved⟩
  exact ⟨left.active, left.normal, left.cursor⟩

theorem feed_leave {origin : Terminal} (grid : InGrid origin) (visit : Visits origin t)
    (settled : t.unread = []) :
    (t.feed leaveAlternate).2.active = .normal ∧
      (t.feed leaveAlternate).2.normal = origin.normal ∧
      (t.feed leaveAlternate).2.cursor = origin.cursor := by
  have back := feed_back visit.toAway settled
  rw [visit.window, visit.page] at back
  refine ⟨back.active, back.normal, back.cursor.trans ?_⟩
  rw [Nat.min_eq_left (Nat.le_sub_one_of_lt grid.row), Nat.min_eq_left grid.column]

theorem alternateScreen_returns {input : List UInt8} (reached : Reached t)
    (settled : t.unread = [])
    (stays : ∀ operation ∈ (t.feed enterAlternate).2.askedBy (.feed input),
      operation.leavesScreen = false)
    (whole : ((t.feed enterAlternate).2.feed input).2.unread = []) :
    let after := (t.feed (enterAlternate ++ input ++ leaveAlternate)).2
    after.active = .normal ∧ after.normal = t.normal ∧ after.cursor = t.cursor := by
  intro after
  have visit := (feed_enter settled).spares (feed_spares _ stays)
  have returned := feed_leave reached.inGrid visit whole
  have parts : after = (((t.feed enterAlternate).2.feed input).2.feed leaveAlternate).2 := by
    have entered := congrArg Prod.snd (feed_append t enterAlternate input)
    have left := congrArg Prod.snd (feed_append t (enterAlternate ++ input) leaveAlternate)
    rw [entered] at left
    exact left
  rw [parts]
  exact returned

theorem alternateScreen_returns_printing :
    let t : Terminal := (new ⟨2, 1⟩ {} true).act (.perform (.putChar 'a'))
    let after := (t.feed (enterAlternate ++ [0x78] ++ leaveAlternate)).2
    after.active = .normal ∧ after.normal = t.normal ∧ after.cursor = t.cursor := by
  intro t
  have reached : Reached t := .act _ (.new ⟨2, 1⟩ {} true)
  have settled : (t.feed enterAlternate).2.unread = [] := by
    rw [feed_unit rfl (scan_enter _)]
  have letter : ∀ encoding, scan encoding [0x78] = .unit (.character 'x') [] := by
    intro encoding
    cases encoding <;> rfl
  refine alternateScreen_returns reached rfl ?_ ?_
  · rw [askedBy_unit settled (letter _)]
    decide
  · rw [feed_unit settled (letter _)]

end VideoTerminal.Terminal

import VideoTerminal.Proofs.AlternateScreen
import VideoTerminal.Proofs.Telling

-- New sizes while the normal screen is hidden. Its window over the lines stays
-- where it was, and only the cursor that waits for it is cut on the way back. In
-- sight, the window moves down instead so that the cursor keeps its line.
namespace VideoTerminal.Terminal
open Sequence

variable {origin t u : Terminal} {size : Extent} {sizes : List Extent}

structure Resized (t : Terminal) (size : Extent) (u : Terminal) : Prop where
  active : u.active = t.active
  saved : u.savedCursor = t.savedCursor
  other : u.otherBuffer = t.otherBuffer
  buffer : u.buffer = { t.buffer with
    topRow := t.buffer.topRow + (t.cursor.row - min t.cursor.row (size.atLeastOne.rows - 1)) }
  row : u.cursor.row = min t.cursor.row (size.atLeastOne.rows - 1)
  window : u.window = size.atLeastOne
  page : u.page = size.atLeastOne
  unread : u.unread = t.unread

theorem resize_resized (t : Terminal) (size : Extent) : Resized t size (t.resize size) := by
  let scroll (b : Buffer) : Buffer :=
    { b with topRow := b.topRow + (t.cursor.row - min t.cursor.row (size.atLeastOne.rows - 1)) }
  have moved := mapBuffer_draws t scroll
  have unread : (t.mapBuffer scroll).unread = t.unread := by
    unfold mapBuffer
    cases t.active <;> rfl
  unfold resize reportWindow reportRows raise
  dsimp only
  rw [raiseAll_eq]
  exact ⟨moved.active, moved.savedCursor, moved.otherBuffer, mapBuffer_buffer t scroll, rfl, rfl,
    rfl, unread⟩

def resizeAll (t : Terminal) (sizes : List Extent) : Terminal := t.run (sizes.map .resize)

def pushedRow (row : Nat) (sizes : List Extent) : Nat :=
  sizes.foldl (fun row size => min row (size.atLeastOne.rows - 1)) row

theorem le_pushedRow_iff {row least : Nat} :
    least ≤ pushedRow row sizes ↔ least ≤ row ∧ ∀ size ∈ sizes, least < size.atLeastOne.rows := by
  induction sizes generalizing row with
  | nil => simp [pushedRow]
  | cons size rest ih =>
    have tall : 0 < size.atLeastOne.rows := Nat.le_max_left ..
    have pushed : pushedRow row (size :: rest) =
        pushedRow (min row (size.atLeastOne.rows - 1)) rest := rfl
    rw [pushed, ih, List.forall_mem_cons, ← and_assoc]
    refine and_congr_left' ?_
    omega

theorem pushedRow_eq_iff {row other : Nat} (above : pushedRow row sizes ≤ other)
    (below : other ≤ row) :
    pushedRow row sizes = other ↔ ∀ size ∈ sizes, other < size.atLeastOne.rows := by
  rw [Nat.le_antisymm_iff, le_pushedRow_iff]
  exact ⟨fun same => same.2.2, fun room => ⟨above, below, room⟩⟩

-- The normal screen in sight, with the cursor still on its line.
structure Pushed (origin : Terminal) (row : Nat) (t : Terminal) : Prop where
  active : t.active = .normal
  lines : t.normal.lines = origin.normal.lines
  row : t.cursor.row = row
  line : t.normal.topRow + t.cursor.row = origin.normal.topRow + origin.cursor.row

theorem Pushed.resize {row : Nat} (pushed : Pushed origin row t) (size : Extent) :
    Pushed origin (min row (size.atLeastOne.rows - 1)) (t.resize size) := by
  have resized := resize_resized t size
  have active := resized.active.trans pushed.active
  have normal := resized.buffer
  simp only [buffer, active, pushed.active] at normal
  have line := pushed.line
  refine ⟨active, ?_, ?_, ?_⟩
  · rw [normal]; exact pushed.lines
  · rw [resized.row, pushed.row]
  · rw [normal, resized.row]
    show t.normal.topRow + _ + _ = _
    omega

theorem Pushed.resizeAll {row : Nat} (pushed : Pushed origin row t) (sizes : List Extent) :
    Pushed origin (pushedRow row sizes) (t.resizeAll sizes) := by
  induction sizes generalizing t row with
  | nil => exact pushed
  | cons size rest ih => exact ih (pushed.resize size)

theorem Away.resize (away : Away origin t) (size : Extent) : Away origin (t.resize size) := by
  have resized := resize_resized t size
  have active := resized.active.trans away.active
  have other := resized.other
  simp only [otherBuffer, active, away.active] at other
  exact ⟨active, other.trans away.normal, resized.saved.trans away.saved⟩

theorem Away.resizeAll (away : Away origin t) (sizes : List Extent) :
    Away origin (t.resizeAll sizes) := by
  induction sizes generalizing t with
  | nil => exact away
  | cons size rest ih => exact ih (away.resize size)

theorem resizeAll_unread (t : Terminal) (sizes : List Extent) :
    (t.resizeAll sizes).unread = t.unread := by
  induction sizes generalizing t with
  | nil => rfl
  | cons size rest ih => exact (ih (t.resize size)).trans (resize_resized t size).unread

theorem resizeAll_extents {last : Extent} (ends : sizes.getLast? = some last) (t : Terminal) :
    (t.resizeAll sizes).window = last.atLeastOne ∧ (t.resizeAll sizes).page = last.atLeastOne := by
  induction sizes generalizing t with
  | nil => cases ends
  | cons size rest ih =>
    cases rest with
    | nil =>
      cases ends
      exact ⟨(resize_resized t size).window, (resize_resized t size).page⟩
    | cons next rest =>
      have later : (next :: rest).getLast? = some last := by simpa using ends
      exact ih later (t.resize size)

theorem visited_back {last : Extent} (ends : sizes.getLast? = some last) (t : Terminal) :
    Back t last.atLeastOne last.atLeastOne
      (((t.dispatch entering).resizeAll sizes).dispatch leaving) := by
  have left := dispatch_leave ((dispatch_enter t).toAway.resizeAll sizes)
  obtain ⟨window, page⟩ := resizeAll_extents ends (t.dispatch entering)
  rwa [window, page] at left

theorem fed_back {last : Extent} (ends : sizes.getLast? = some last) (settled : t.unread = []) :
    Back t last.atLeastOne last.atLeastOne
      (((t.feed enterAlternate).2.resizeAll sizes).feed leaveAlternate).2 := by
  have entered : (t.feed enterAlternate).2.unread = [] := by
    rw [feed_unit settled (scan_enter _)]
  have left := feed_back ((feed_enter settled).toAway.resizeAll sizes)
    ((resizeAll_unread _ sizes).trans entered)
  obtain ⟨window, page⟩ := resizeAll_extents ends (t.feed enterAlternate).2
  rwa [window, page] at left

-- For any terminal that shows the normal screen and any sizes at all. The way over
-- the alternate screen leaves the same lines. Its window over them does not move,
-- so it is the same if every size has room for the cursor's row, and the cursor
-- is on the same line if the last one has.
theorem hidden_resizes_alike_iff (t : Terminal) (sizes : List Extent) (last : Extent)
    (shown : t.active = .normal) (ends : sizes.getLast? = some last) :
    let alone := t.resizeAll sizes
    let visited := ((t.dispatch entering).resizeAll sizes).dispatch leaving
    let fed := (((t.feed enterAlternate).2.resizeAll sizes).feed leaveAlternate).2
    let row := min t.cursor.row (last.atLeastOne.rows - 1)
    visited.active = .normal ∧ visited.normal = t.normal ∧ visited.cursor.row = row ∧
      visited.normal.lines = alone.normal.lines ∧
      (visited.normal.topRow = alone.normal.topRow ↔
        ∀ size ∈ sizes, t.cursor.row < size.atLeastOne.rows) ∧
      (visited.cursor.row = alone.cursor.row ↔ ∀ size ∈ sizes, row < size.atLeastOne.rows) ∧
      (visited.normal.topRow + visited.cursor.row = alone.normal.topRow + alone.cursor.row ↔
        t.cursor.row < last.atLeastOne.rows) ∧
      (t.unread = [] → fed.normal = visited.normal ∧ fed.cursor = visited.cursor) := by
  intro alone visited fed row
  have tall : 0 < last.atLeastOne.rows := Nat.le_max_left ..
  have back : Back t last.atLeastOne last.atLeastOne visited := visited_back ends t
  have pushed : Pushed t (pushedRow t.cursor.row sizes) alone :=
    Pushed.resizeAll ⟨shown, rfl, rfl, rfl⟩ sizes
  have top : visited.normal.topRow = t.normal.topRow := congrArg Buffer.topRow back.normal
  have visitedRow : visited.cursor.row = row := congrArg Cursor.row back.cursor
  have line := pushed.line
  have aloneRow := pushed.row
  obtain ⟨above, room⟩ := le_pushedRow_iff.mp (Nat.le_refl (pushedRow t.cursor.row sizes))
  have fits := room last (List.mem_of_getLast? ends)
  have lowest : row ≤ t.cursor.row := Nat.min_le_left ..
  have same : visited.normal.lines = alone.normal.lines :=
    (congrArg Buffer.lines back.normal).trans pushed.lines.symm
  refine ⟨back.active, back.normal, visitedRow, same, ?_, ?_, ?_, ?_⟩
  · rw [← pushedRow_eq_iff above (Nat.le_refl _), top]
    omega
  · rw [← pushedRow_eq_iff (Nat.le_min.mpr ⟨above, Nat.le_sub_one_of_lt fits⟩) lowest, visitedRow,
      aloneRow]
    exact eq_comm
  · rw [top, visitedRow, line]
    omega
  · intro settled
    have returned := fed_back ends settled
    exact ⟨returned.normal.trans back.normal.symm, returned.cursor.trans back.cursor.symm⟩

theorem hidden_resizes_regrown :
    let t : Terminal := ((new ⟨1, 2⟩ {} true).feed (Utf8.encodeString "a\r\nb")).2
    let alone := t.resizeAll [⟨1, 1⟩, ⟨1, 3⟩]
    let visited := ((t.dispatch entering).resizeAll [⟨1, 1⟩, ⟨1, 3⟩]).dispatch leaving
    visited.normal.topRow ≠ alone.normal.topRow ∧
      visited.normal.topRow + visited.cursor.row = alone.normal.topRow + alone.cursor.row := by
  intro t alone visited
  have row : t.cursor.row = 1 := by decide +kernel
  obtain ⟨-, -, -, -, top, -, line, -⟩ := hidden_resizes_alike_iff t [⟨1, 1⟩, ⟨1, 3⟩] ⟨1, 3⟩
    (by decide +kernel) rfl
  constructor
  · intro same
    have room := top.mp same ⟨1, 1⟩ List.mem_cons_self
    rw [row] at room
    exact absurd room (by decide)
  · refine line.mpr ?_
    rw [row]
    decide

theorem hidden_resize_changes_line :
    let t : Terminal := ((new ⟨1, 2⟩ {} true).feed (Utf8.encodeString "a\r\nb")).2
    let alone := t.resize ⟨1, 1⟩
    let fed := (((t.feed enterAlternate).2.resize ⟨1, 1⟩).feed leaveAlternate).2
    t.active = .normal ∧ fed.normal.topRow = 0 ∧ alone.normal.topRow = 1 ∧
      fed.cursor.row = 0 ∧ alone.cursor.row = 0 := by
  decide +kernel

end VideoTerminal.Terminal

import VideoTerminal.Proofs.HiddenResize

-- A series of new sizes comes to two: the last of them, which stays, and one as narrow as
-- the narrowest and as low as the lowest, which is all that the cursor remembers of them.
namespace VideoTerminal

def Extent.meet (one two : Extent) : Extent :=
  ⟨min one.columns two.columns, min one.rows two.rows⟩

structure Series (sizes : List Extent) (last least : Extent) : Prop where
  last : (sizes.map Extent.atLeastOne).getLast? = some last
  columns : (sizes.map fun size => size.atLeastOne.columns).min? = some least.columns
  rows : (sizes.map fun size => size.atLeastOne.rows).min? = some least.rows

theorem Series.unique {sizes : List Extent} {last least last' least' : Extent}
    (one : Series sizes last least) (two : Series sizes last' least') :
    last = last' ∧ least = least' := by
  have columns := Option.some.inj (one.columns.symm.trans two.columns)
  have rows := Option.some.inj (one.rows.symm.trans two.rows)
  refine ⟨Option.some.inj (one.last.symm.trans two.last), ?_⟩
  cases least
  cases least'
  cases columns
  cases rows
  rfl

theorem Series.single (size : Extent) : Series [size] size.atLeastOne size.atLeastOne :=
  ⟨rfl, rfl, rfl⟩

theorem Series.cons {sizes : List Extent} {last least : Extent} (series : Series sizes last least)
    (size : Extent) : Series (size :: sizes) last (size.atLeastOne.meet least) := by
  refine ⟨?_, ?_, ?_⟩
  · rw [List.map_cons, List.getLast?_cons, series.last]
    rfl
  · rw [List.map_cons, List.min?_cons, series.columns]
    rfl
  · rw [List.map_cons, List.min?_cons, series.rows]
    rfl

def ScrollRegion.keptIn (r : ScrollRegion) (rows : Nat) : ScrollRegion :=
  if r.top < rows ∧ r.bottom.all (· < rows) then r else {}

theorem ScrollRegion.fits_min_iff (r : ScrollRegion) (one two : Nat) :
    (r.top < min one two ∧ r.bottom.all (· < min one two)) ↔
      (r.top < one ∧ r.bottom.all (· < one)) ∧ r.top < two ∧ r.bottom.all (· < two) := by
  cases r.bottom with
  | none => simp only [Option.all_none, and_true, Nat.lt_min]
  | some bottom =>
    simp only [Option.all_some, decide_eq_true_eq, Nat.lt_min]
    exact and_and_and_comm

theorem ScrollRegion.keptIn_keptIn (r : ScrollRegion) (one : Nat) {two : Nat} (tall : 0 < two) :
    (r.keptIn one).keptIn two = r.keptIn (min one two) := by
  -- What is put in the place of a region fits into any window.
  have cleared : ({} : ScrollRegion).keptIn two = {} := if_pos ⟨tall, rfl⟩
  by_cases fits : r.top < one ∧ r.bottom.all (· < one)
  · rw [show r.keptIn one = r from if_pos fits]
    simp only [keptIn, fits_min_iff, fits, true_and, and_self]
  · rw [show r.keptIn one = {} from if_neg fits, cleared]
    exact (if_neg fun both => fits ((r.fits_min_iff one two).mp both).1).symm

def Cursor.fitted (c : Cursor) (size : Extent) : Cursor :=
  { c with
    row := min c.row (size.rows - 1)
    column := min c.column (size.columns - 1)
    region := c.region.keptIn size.rows }

theorem Cursor.fitted_fitted (c : Cursor) (one : Extent) {two : Extent} (tall : 0 < two.rows) :
    (c.fitted one).fitted two = c.fitted (one.meet two) := by
  have row : min (min c.row (one.rows - 1)) (two.rows - 1) =
      min c.row (min one.rows two.rows - 1) := by omega
  have column : min (min c.column (one.columns - 1)) (two.columns - 1) =
      min c.column (min one.columns two.columns - 1) := by omega
  simp only [fitted, Extent.meet, row, column, ScrollRegion.keptIn_keptIn _ _ tall]

namespace Terminal

variable {t u v : Terminal} {least last : Extent}

-- The cursor keeps its line: the window over the buffer in sight moves down as far as the
-- cursor moves up in it.
structure Shrunk (t : Terminal) (least last : Extent) (u : Terminal) : Prop where
  window : u.window = last
  page : u.page = last
  cursor : u.cursor = t.cursor.fitted least
  active : u.active = t.active
  buffer : u.buffer =
    { t.buffer with topRow := t.buffer.topRow + (t.cursor.row - u.cursor.row) }
  other : u.otherBuffer = t.otherBuffer

theorem resize_cursor (t : Terminal) (size : Extent) :
    (t.resize size).cursor = t.cursor.fitted size.atLeastOne := by
  unfold resize
  exact ((reportWindow_draws _).trans (marked_draws _)).cursor

theorem resize_shrunk (t : Terminal) (size : Extent) :
    Shrunk t size.atLeastOne size.atLeastOne (t.resize size) := by
  have resized := resize_resized t size
  refine ⟨resized.window, resized.page, resize_cursor t size, resized.active, ?_, resized.other⟩
  rw [resized.buffer, resized.row]

theorem Shrunk.row (shrunk : Shrunk t least last u) :
    u.cursor.row = min t.cursor.row (least.rows - 1) := by
  rw [shrunk.cursor]
  rfl

theorem Shrunk.trans {less later : Extent} (tall : 0 < less.rows) (one : Shrunk t least last u)
    (two : Shrunk u less later v) : Shrunk t (least.meet less) later v := by
  have first := one.row
  have second := two.row
  refine ⟨two.window, two.page, ?_, two.active.trans one.active, ?_, two.other.trans one.other⟩
  · rw [two.cursor, one.cursor]
    exact t.cursor.fitted_fitted least tall
  · have moved : t.buffer.topRow + (t.cursor.row - u.cursor.row) +
        (u.cursor.row - v.cursor.row) = t.buffer.topRow + (t.cursor.row - v.cursor.row) := by
      omega
    rw [two.buffer, one.buffer]
    exact congrArg (fun topRow => { t.buffer with topRow := topRow }) moved

-- The series is read from its end: what the later sizes come to is met by the first.
theorem resizeAll_shrunk (size : Extent) (sizes : List Extent) :
    ∃ last least, Series (size :: sizes) last least ∧ 0 < least.rows ∧
      ∀ t : Terminal, Shrunk t least last (t.resizeAll (size :: sizes)) := by
  have tall : 0 < size.atLeastOne.rows := Nat.le_max_left ..
  induction sizes generalizing size with
  | nil => exact ⟨_, _, .single size, tall, fun t => resize_shrunk t size⟩
  | cons next rest ih =>
    obtain ⟨last, less, series, tallRest, shrinks⟩ := ih next (Nat.le_max_left ..)
    refine ⟨last, _, series.cons size, Nat.lt_min.mpr ⟨tall, tallRest⟩, fun t => ?_⟩
    exact (resize_shrunk t size).trans tallRest (shrinks (t.resize size))

theorem series_shrunk {sizes : List Extent} (series : Series sizes last least) (t : Terminal) :
    Shrunk t least last (t.resizeAll sizes) := by
  cases sizes with
  | nil => cases series.last
  | cons size rest =>
    obtain ⟨last', least', found, -, shrinks⟩ := resizeAll_shrunk size rest
    obtain ⟨rfl, rfl⟩ := series.unique found
    exact shrinks t

theorem Shrunk.lines (shrunk : Shrunk t least last u) :
    u.normal.lines = t.normal.lines ∧ u.alternate.lines = t.alternate.lines := by
  have active := shrunk.active
  have shown := congrArg Buffer.lines shrunk.buffer
  have other := congrArg Buffer.lines shrunk.other
  simp only [Terminal.buffer, otherBuffer, active] at shown other
  cases kind : t.active <;> simp only [kind] at shown other
  · exact ⟨shown, other⟩
  · exact ⟨other, shown⟩

theorem Shrunk.alike (one : Shrunk t least last u) (two : Shrunk t least last v) :
    v.cursor = u.cursor ∧ v.cursorPosition = u.cursorPosition ∧ v.screenText = u.screenText := by
  have cursor : v.cursor = u.cursor := two.cursor.trans one.cursor.symm
  have window : v.window = u.window := two.window.trans one.window.symm
  have buffer : v.buffer = u.buffer := by rw [two.buffer, one.buffer, cursor]
  have cell : ∀ column row, v.visibleCell column row = u.visibleCell column row := by
    intro column row
    simp only [visibleCell, buffer]
  refine ⟨cursor, ?_, ?_⟩
  · simp only [cursorPosition, cursor, window]
  · simp only [screenText, screenRows, visibleChars, visibleChar, cell, window]

theorem resizes_closed_form (t : Terminal) (sizes : List Extent) (given : sizes ≠ []) :
    ∃ last least, Series sizes last least ∧
      let u := t.resizeAll sizes
      u.window = last ∧ u.page = last ∧
        u.cursor.row = min t.cursor.row (least.rows - 1) ∧
        u.cursor.column = min t.cursor.column (least.columns - 1) ∧
        u.active = t.active ∧
        u.buffer.topRow = t.buffer.topRow + (t.cursor.row - u.cursor.row) ∧
        u.buffer.topRow + u.cursor.row = t.buffer.topRow + t.cursor.row ∧
        u.normal.lines = t.normal.lines ∧ u.alternate.lines = t.alternate.lines ∧
        u.otherBuffer.topRow = t.otherBuffer.topRow ∧
        ∀ others, Series others last least →
          let v := t.resizeAll others
          v.cursor = u.cursor ∧ v.cursorPosition = u.cursorPosition ∧
            v.screenText = u.screenText := by
  cases sizes with
  | nil => exact absurd rfl given
  | cons size rest =>
    obtain ⟨last, least, series, -, shrinks⟩ := resizeAll_shrunk size rest
    refine ⟨last, least, series, ?_⟩
    have shrunk := shrinks t
    have row := shrunk.row
    have topRow := congrArg Buffer.topRow shrunk.buffer
    obtain ⟨normal, alternate⟩ := shrunk.lines
    refine ⟨shrunk.window, shrunk.page, row, congrArg Cursor.column shrunk.cursor, shrunk.active,
      topRow, ?_, normal, alternate, congrArg Buffer.topRow shrunk.other, ?_⟩
    · rw [topRow]
      show t.buffer.topRow + _ + _ = _
      omega
    · intro others alike
      exact shrunk.alike (series_shrunk alike t)

theorem resizes_closed_form_regrown :
    let t := ((new ⟨4, 3⟩ {} true).feed (Utf8.encodeString "a\r\nb\r\ncdef")).2
    let u := t.resizeAll [⟨3, 2⟩, ⟨0, 5⟩, ⟨6, 4⟩]
    let v := t.resizeAll [⟨1, 9⟩, ⟨8, 2⟩, ⟨6, 4⟩]
    u.cursor.row = 1 ∧ u.cursor.column = 0 ∧ u.buffer.topRow = 1 ∧
      v.screenText = u.screenText := by
  intro t u v
  have one : Series [⟨3, 2⟩, ⟨0, 5⟩, ⟨6, 4⟩] ⟨6, 4⟩ ⟨1, 2⟩ := ⟨by decide, by decide, by decide⟩
  have two : Series [⟨1, 9⟩, ⟨8, 2⟩, ⟨6, 4⟩] ⟨6, 4⟩ ⟨1, 2⟩ := ⟨by decide, by decide, by decide⟩
  obtain ⟨last, least, series, -, -, row, column, -, topRow, -, -, -, -, alike⟩ :=
    resizes_closed_form t [⟨3, 2⟩, ⟨0, 5⟩, ⟨6, 4⟩] (by simp)
  obtain ⟨rfl, rfl⟩ := series.unique one
  have started : t.cursor.row = 2 ∧ t.cursor.column = 4 ∧ t.buffer.topRow = 0 := by
    decide +kernel
  obtain ⟨startRow, startColumn, startTop⟩ := started
  rw [startRow] at row topRow
  rw [startColumn] at column
  rw [startTop, row] at topRow
  exact ⟨row, column, topRow, (alike _ two).2.2⟩

end Terminal

end VideoTerminal

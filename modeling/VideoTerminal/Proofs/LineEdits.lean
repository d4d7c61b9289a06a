import VideoTerminal.Proofs.Scrollback
import VideoTerminal.Proofs.Telling

-- One line of the window is edited: what its cells are up to the right margin is said
-- column by column, and it is cut there. How far it was stored before, short of the
-- margin or past it, makes no difference to what an edit does.
namespace VideoTerminal.Terminal

-- Lines are compared as a whole where nothing is edited, also past the margin. The
-- buffer may grow to reach the row; what is stored then reads as it did before.
structure Edited (t u : Terminal) (row : Nat) (cells : Nat → Cell) : Prop where
  draws : Draws t u
  topRow : u.buffer.topRow = t.buffer.topRow
  stored : t.buffer.length ≤ u.buffer.length
  cells : ∀ column, column < t.page.columns → u.view row column = cells column
  width : (u.buffer.lineAt (t.buffer.topRow + row)).length ≤ t.page.columns
  size : u.buffer.lineAt (t.buffer.topRow + row) =
    { t.buffer.lineAt (t.buffer.topRow + row) with
      cells := (u.buffer.lineAt (t.buffer.topRow + row)).cells }
  others : ∀ i, i ≠ t.buffer.topRow + row → u.buffer.lineAt i = t.buffer.lineAt i

variable {t u v : Terminal} {row : Nat} {cells : Nat → Cell}

theorem raiseAll_buffer (t : Terminal) (events : List Event) :
    (t.raiseAll events).buffer = t.buffer := by
  rw [raiseAll_eq]
  rfl

theorem reportCells_buffer (t : Terminal) (row first last : Nat) :
    (t.reportCells row first last).buffer = t.buffer := by
  unfold reportCells
  split
  · exact raiseAll_buffer ..
  · rfl

theorem Edited.draw (edited : Edited t u row cells) (drawn : Draws u v)
    (same : v.buffer = u.buffer) : Edited t v row cells := by
  have view : v.view = u.view := by
    unfold Terminal.view visibleCell
    rw [same]
  refine ⟨edited.draws.trans drawn, ?_, ?_, ?_, ?_, ?_, ?_⟩
  · rw [same]; exact edited.topRow
  · rw [same]; exact edited.stored
  · rw [view]; exact edited.cells
  · rw [same]; exact edited.width
  · rw [same]; exact edited.size
  · rw [same]; exact edited.others

theorem Edited.reported (edited : Edited t u row cells) (reported first last : Nat) :
    Edited t (u.reportCells reported first last).marked row cells :=
  edited.draw ((reportCells_draws ..).trans (marked_draws _)) (reportCells_buffer ..)

theorem Edited.raised (edited : Edited t u row cells) (event : Event) :
    Edited t (u.raise event).marked row cells :=
  edited.draw ((raise_draws ..).trans (marked_draws _)) (raiseAll_buffer ..)

theorem Edited.congr (edited : Edited t u row cells) {other : Nat → Cell}
    (same : ∀ column, column < t.page.columns → cells column = other column) :
    Edited t u row other :=
  { edited with cells := fun column inPage => (edited.cells column inPage).trans (same _ inPage) }

theorem Edited.withColumn (edited : Edited t u row cells) (column : Nat) :
    Edited (t.withColumn column) (u.withColumn column) row cells :=
  ⟨edited.draws.withColumn column, edited.topRow, edited.stored, edited.cells, edited.width,
    edited.size, edited.others⟩

theorem editLine_edited (t : Terminal) (row : Nat) {f : Line → Line}
    (sizes : ∀ l, f l = { l with cells := (f l).cells }) :
    Edited t (t.editLine row fun l => (f l).trim t.page.columns) row
      (f (t.buffer.lineAt (t.buffer.topRow + row))).cellAt := by
  have buffer : (t.editLine row fun l => (f l).trim t.page.columns).buffer =
      t.buffer.modifyLine (t.buffer.topRow + row) fun l => (f l).trim t.page.columns :=
    mapBuffer_buffer ..
  have line : (t.editLine row fun l => (f l).trim t.page.columns).buffer.lineAt
      (t.buffer.topRow + row) =
        (f (t.buffer.lineAt (t.buffer.topRow + row))).trim t.page.columns := by
    rw [buffer, Buffer.lineAt_modifyLine, if_pos rfl]
  refine ⟨editLine_draws .., ?_, ?_, fun column inPage => ?_, ?_, ?_, fun i other => ?_⟩
  · rw [buffer]; rfl
  · rw [buffer, Buffer.length_modifyLine]
    exact Nat.le_max_left ..
  · rw [editLine_view, if_pos rfl, Line.cellAt_trim, if_pos inPage]
  · rw [line]
    exact List.length_take_le ..
  · rw [line, Line.trim, sizes]
  · rw [buffer, Buffer.lineAt_modifyLine, if_neg other]

theorem eraseCells_edited (t : Terminal) (row first last : Nat) :
    Edited t (t.eraseCells row first last) row fun column =>
      if first ≤ column ∧ column < last then .blank t.cursor.rendition
      else t.view row column := by
  have filled := editLine_edited t row (f := fun l =>
    l.fill first (min last t.page.columns) (.blank t.cursor.rendition)) fun _ => rfl
  refine (filled.reported row first last).congr fun column inPage => ?_
  have range : first ≤ column ∧ column < min last t.page.columns ↔
      first ≤ column ∧ column < last := by omega
  simp only [Line.cellAt_fill, range]
  rfl

def pageColumn (t : Terminal) : Nat := min t.cursor.column t.lastColumn

def shiftWidth (t : Terminal) (count : Nat) : Nat := min count (t.page.columns - t.pageColumn)

theorem deleteCharacters_edited (t : Terminal) (count : Nat) :
    Edited t (t.deleteCharacters count) t.cursor.row fun column =>
      if column < t.pageColumn then t.view t.cursor.row column
      else t.view t.cursor.row (column + t.shiftWidth count) := by
  have removed := editLine_edited t t.cursor.row (f := fun l =>
    l.removeMany t.pageColumn (t.shiftWidth count)) fun _ => rfl
  refine (removed.reported t.cursor.row t.pageColumn t.page.columns).congr fun column _ => ?_
  rw [Line.cellAt_removeMany]
  rfl

theorem insertBlanks_edited (t : Terminal) (count : Nat) :
    Edited t (t.insertBlanks count) t.cursor.row fun column =>
      if column < t.pageColumn then t.view t.cursor.row column
      else if column < t.pageColumn + t.shiftWidth count then .blank t.cursor.rendition
      else t.view t.cursor.row (column - t.shiftWidth count) := by
  have inserted := editLine_edited t t.cursor.row (f := fun l =>
    l.insertMany t.pageColumn (t.shiftWidth count) (.blank t.cursor.rendition)) fun _ => rfl
  refine (inserted.reported t.cursor.row t.pageColumn t.page.columns).congr fun column _ => ?_
  rw [Line.cellAt_insertMany]
  rfl

theorem putCell_edited (t : Terminal) (cell : Cell) :
    Edited (t.withColumn (t.cursor.column + 1)) (t.putCell cell) t.cursor.row fun column =>
      if column = t.cursor.column then cell
      else if t.cursor.insertMode = true ∧ t.cursor.column < column then
        t.view t.cursor.row (column - 1)
      else t.view t.cursor.row column := by
  unfold putCell
  dsimp only
  split
  · rename_i inserts
    have inserted := (editLine_edited t t.cursor.row (f := fun l =>
      l.insert t.cursor.column cell) fun _ => rfl).withColumn (t.cursor.column + 1)
    refine (inserted.reported t.cursor.row t.cursor.column _).congr fun column _ => ?_
    rw [Line.cellAt_insert]
    by_cases here : column = t.cursor.column
    · rw [if_neg (by omega), if_pos here, if_pos here]
    · by_cases before : column < t.cursor.column
      · rw [if_pos before, if_neg here, if_neg (by omega)]
        rfl
      · rw [if_neg before, if_neg here, if_neg here, if_pos ⟨inserts, by omega⟩]
        rfl
  · rename_i replaces
    have set := (editLine_edited t t.cursor.row (f := fun l =>
      l.set t.cursor.column cell) fun _ => rfl).withColumn (t.cursor.column + 1)
    refine (set.raised (.cellChanged t.cursor.row t.cursor.column cell)).congr
      fun column _ => ?_
    rw [Line.cellAt_set, if_neg (c := _ ∧ _) fun moved => replaces moved.1]
    rfl

theorem insertion_shifts_right (t : Terminal) (count : Nat) (c : Char) :
    let row := t.cursor.row
    let old := t.view row
    Edited t (t.perform (.insertBlanks count)) row (fun column =>
      if column < t.pageColumn then old column
      else if column < t.pageColumn + t.shiftWidth count then .blank t.cursor.rendition
      else old (column - t.shiftWidth count)) ∧
    (t.cursor.column < t.page.columns →
      Edited (t.withColumn (t.cursor.column + 1)) (t.perform (.putChar c)) row fun column =>
        if column = t.cursor.column then ⟨t.charsets.glyph c, t.cursor.rendition⟩
        else if t.cursor.insertMode = true ∧ t.cursor.column < column then old (column - 1)
        else old column) := by
  intro row old
  refine ⟨insertBlanks_edited t count, fun room => ?_⟩
  have settled : t.wrapped = t := if_pos room
  have put := putCell_edited t.wrapped ⟨t.charsets.glyph c, t.cursor.rendition⟩
  rw [settled] at put
  show Edited _ (t.wrapped.putCell _) _ _
  rw [settled]
  exact put

theorem insertion_shifts_right_overlong :
    let t := (new ⟨4, 1⟩ {} false).run [.feed (Utf8.encodeString "abcd"), .resize ⟨2, 1⟩,
      .feed (Utf8.encodeString "\r\x1b[4h")]
    let u := t.perform (.putChar 'x')
    t.cursor.column < t.page.columns ∧ (t.buffer.lineAt 0).length = 4 ∧
      Edited (t.withColumn 1) u 0 (fun column =>
        if column = 0 then ⟨'x', {}⟩
        else if t.cursor.insertMode = true ∧ 0 < column then t.view 0 (column - 1)
        else t.view 0 column) ∧
      u.view 0 1 = ⟨'a', {}⟩ ∧ u.cursor.column = 1 := by
  intro t u
  have room : t.cursor.column < t.page.columns := by decide +kernel
  have start : t.cursor.column = 0 := by decide +kernel
  have first : t.cursor.row = 0 := by decide +kernel
  have shown : (⟨t.charsets.glyph 'x', t.cursor.rendition⟩ : Cell) = ⟨'x', {}⟩ := by
    decide +kernel
  have put := (insertion_shifts_right t 1 'x').2 room
  rw [start, first, shown] at put
  exact ⟨room, by decide +kernel, put, by decide +kernel, by decide +kernel⟩

end VideoTerminal.Terminal

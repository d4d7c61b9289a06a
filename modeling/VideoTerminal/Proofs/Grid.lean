import VideoTerminal.Proofs.Drawing
import VideoTerminal.Proofs.Run

namespace VideoTerminal.Terminal

-- The window has at least one cell. The page is as tall as the window, and as
-- wide or 132 columns wide.
structure Sized (t : Terminal) : Prop where
  wide : 0 < t.window.columns
  tall : 0 < t.window.rows
  pageRows : t.page.rows = t.window.rows
  pageColumns : t.page.columns = t.window.columns ∨ t.page.columns = 132

-- Only the pending wrap puts the column behind the last one.
structure InGrid (t : Terminal) : Prop extends Sized t where
  row : t.cursor.row < t.window.rows
  column : t.cursor.column ≤ t.page.columns

variable {t u : Terminal}

theorem Sized.page_wide (sized : Sized t) : 0 < t.page.columns := by
  have wide := sized.wide
  rcases sized.pageColumns with same | wider <;> omega

theorem Sized.page_covers (sized : Sized t) (narrow : t.window.columns ≤ 132) :
    t.window.columns ≤ t.page.columns := by
  rcases sized.pageColumns with same | wider <;> omega

theorem Sized.lastColumn_le (sized : Sized t) : t.lastColumn < t.page.columns := by
  have wide := sized.page_wide
  unfold lastColumn
  omega

theorem Sized.bottomMargin_lt (sized : Sized t) : t.bottomMargin < t.window.rows :=
  ScrollRegion.bottomIn_lt sized.tall

theorem Sized.topMargin_lt (sized : Sized t) : t.topMargin < t.window.rows :=
  Nat.lt_of_le_of_lt (margins_ordered t) sized.bottomMargin_lt

theorem Sized.of_extents (sized : Sized t) (window : u.window = t.window) (page : u.page = t.page) :
    Sized u :=
  ⟨window ▸ sized.wide, window ▸ sized.tall, page ▸ window ▸ sized.pageRows,
    page ▸ window ▸ sized.pageColumns⟩

theorem InGrid.move (grid : InGrid t) (window : u.window = t.window) (page : u.page = t.page)
    (row : u.cursor.row < t.window.rows) (column : u.cursor.column ≤ t.page.columns) : InGrid u :=
  ⟨grid.toSized.of_extents window page, window ▸ row, page ▸ column⟩

theorem InGrid.draws (grid : InGrid t) (drawn : Draws t u) : InGrid u :=
  grid.move drawn.window drawn.page (by rw [drawn.cursor]; exact grid.row)
    (by rw [drawn.cursor]; exact grid.column)

theorem InGrid.marked (grid : InGrid t) : InGrid t.marked := grid.draws (marked_draws t)

theorem clamp_le {value least most : Nat} (order : least ≤ most) : clamp value least most ≤ most :=
  Nat.max_le.mpr ⟨order, Nat.min_le_right ..⟩

theorem Sized.clamp_lt (sized : Sized t) (row : Nat) :
    clamp row t.topMargin t.bottomMargin < t.window.rows :=
  Nat.lt_of_le_of_lt (clamp_le (margins_ordered t)) sized.bottomMargin_lt

theorem Sized.home_inGrid (sized : Sized t) : InGrid t.home :=
  ⟨sized.of_extents rfl rfl, sized.clamp_lt _, Nat.zero_le _⟩

theorem Sized.column_le (sized : Sized t) (column : Nat) :
    min column t.lastColumn ≤ t.page.columns :=
  Nat.le_trans (Nat.min_le_right ..) (Nat.le_of_lt sized.lastColumn_le)

theorem advanceRow_inGrid (grid : InGrid t) : InGrid t.advanceRow := by
  unfold advanceRow
  split
  · split
    · have drawn := scrollRegionUp_draws t t.topMargin t.bottomMargin
      exact grid.move drawn.window drawn.page grid.bottomMargin_lt grid.column
    · rename_i above
      have bottom := grid.bottomMargin_lt
      exact grid.move rfl rfl (show t.cursor.row + 1 < _ by omega) grid.column
  · split
    · rename_i room
      exact grid.move rfl rfl room grid.column
    · have tall := grid.tall
      have last : InGrid { t with cursor := { t.cursor with row := t.window.rows - 1 } } :=
        grid.move rfl rfl (show t.window.rows - 1 < _ by omega) grid.column
      exact last.draws ((scrollWindow_draws _).trans (marked_draws _))

theorem withColumn_inGrid (grid : InGrid t) {column : Nat} (inside : column ≤ t.page.columns) :
    InGrid (t.withColumn column) :=
  grid.move rfl rfl grid.row inside

theorem newLine_inGrid (grid : InGrid t) : InGrid t.newLine := by
  unfold newLine
  split
  · exact advanceRow_inGrid (withColumn_inGrid grid (Nat.zero_le _))
  · exact advanceRow_inGrid grid

theorem reverseIndex_inGrid (grid : InGrid t) : InGrid t.reverseIndex := by
  unfold reverseIndex
  split
  · have drawn := scrollRegionDown_draws t t.topMargin t.bottomMargin
    exact grid.move drawn.window drawn.page grid.topMargin_lt grid.column
  · exact grid.move rfl rfl (Nat.lt_of_le_of_lt (Nat.sub_le ..) grid.row) grid.column

theorem restoreCursor_inGrid (grid : InGrid t) : InGrid t.restoreCursor := by
  unfold restoreCursor
  split
  · exact grid
  · have tall := grid.tall
    refine grid.move rfl rfl ?_ (Nat.min_le_right ..)
    exact Nat.lt_of_le_of_lt (Nat.min_le_right ..) (by omega)

theorem advanceRow_column (t : Terminal) : t.advanceRow.cursor.column = t.cursor.column := by
  unfold advanceRow
  split
  · split <;> rfl
  · split
    · rfl
    · have drawn := scrollWindow_draws
        { t with cursor := { t.cursor with row := t.window.rows - 1 } }
      exact (congrArg Cursor.column drawn.cursor :)

theorem wrapped_inGrid (grid : InGrid t) : InGrid t.wrapped := by
  unfold wrapped
  split
  · exact grid
  · split
    · exact newLine_inGrid (withColumn_inGrid grid (Nat.zero_le _))
    · exact withColumn_inGrid grid (Nat.le_of_lt grid.lastColumn_le)

theorem newLine_from_start (t : Terminal) : (t.withColumn 0).newLine.cursor.column = 0 := by
  unfold newLine
  split <;> exact advanceRow_column _

theorem wrapped_column (grid : InGrid t) : t.wrapped.cursor.column < t.wrapped.page.columns := by
  have wide := (wrapped_inGrid grid).page_wide
  unfold wrapped at wide ⊢
  split
  · assumption
  · rename_i past
    rw [if_neg past] at wide
    split
    · rename_i wraps
      rw [if_pos wraps] at wide
      rw [newLine_from_start]
      exact wide
    · exact grid.lastColumn_le

theorem putCell_inGrid (grid : InGrid t) (room : t.cursor.column < t.page.columns) (cell : Cell) :
    InGrid (t.putCell cell) :=
  (withColumn_inGrid grid room).draws (putCell_draws t cell)

theorem putChar_inGrid (grid : InGrid t) (c : Char) : InGrid (t.putChar c) :=
  putCell_inGrid (wrapped_inGrid grid) (wrapped_column grid) _

theorem screenAlignmentTest_inGrid (grid : InGrid t) : InGrid t.screenAlignmentTest := by
  have drawn := foldl_draws alignRow_draws (List.range t.window.rows)
    { t with cursor := { t.cursor with region := {} } }
  exact grid.move drawn.window drawn.page grid.tall (Nat.zero_le _)

theorem setLineSize_inGrid (grid : InGrid t) (size : LineSize) : InGrid (t.setLineSize size) := by
  cases size with
  | screenAlignmentTest => exact screenAlignmentTest_inGrid grid
  | _ => exact grid.draws ((editLine_draws ..).trans (marked_draws _))

theorem useBuffer_inGrid (grid : InGrid t) (kind : BufferKind) : InGrid (t.useBuffer kind) := by
  have switched : InGrid { t with active := kind } := grid.move rfl rfl grid.row grid.column
  exact switched.draws ((reportWindow_draws _).trans (marked_draws _))

theorem setScrollRegion_inGrid (grid : InGrid t) (top bottom : Nat) :
    InGrid (t.setScrollRegion top bottom) := by
  rcases setScrollRegion_cases t top bottom with same | ⟨cursor, same⟩ <;> rw [same]
  · exact grid
  · exact InGrid.marked (Sized.home_inGrid (grid.toSized.of_extents rfl rfl))

theorem betweenMargins_inGrid (grid : InGrid t) (edit : Buffer → Buffer) (count : Nat) :
    InGrid (t.betweenMargins edit count) := by
  unfold betweenMargins
  dsimp only
  split
  · exact grid
  · refine InGrid.marked (InGrid.draws ?_ (reportRows_draws ..))
    exact withColumn_inGrid (grid.draws (mapBuffer_draws ..)) (Nat.zero_le _)

theorem tab_inGrid (grid : InGrid t) : InGrid t.tab := by
  unfold tab
  split
  · exact grid
  · exact (withColumn_inGrid grid (grid.column_le _)).marked

theorem set132Columns_inGrid (grid : InGrid t) (on : Bool) : InGrid (t.set132Columns on) := by
  have sized : Sized
      { t with page := { t.page with columns := if on then 132 else t.window.columns } } :=
    ⟨grid.wide, grid.tall, grid.pageRows, by cases on <;> simp⟩
  have drawn := eraseAll_draws
    { t with page := { t.page with columns := if on then 132 else t.window.columns } }
  exact (sized.of_extents drawn.window drawn.page).home_inGrid

theorem setMode_inGrid (grid : InGrid t) (mode : SavableMode) (on : Bool) :
    InGrid (t.setMode mode on) := by
  cases mode with
  | normalBuffer => exact useBuffer_inGrid grid _
  | _ => exact grid.move rfl rfl grid.row grid.column

theorem restoreMode_inGrid (grid : InGrid t) (mode : SavableMode) :
    InGrid (t.restoreMode mode) := by
  unfold restoreMode
  split
  · exact grid
  · exact setMode_inGrid grid ..

theorem fullReset_inGrid (grid : InGrid t) : InGrid t.fullReset := by
  unfold fullReset
  refine InGrid.draws ?_ ((reportWindow_draws _).trans (marked_draws _))
  exact ⟨⟨grid.wide, grid.tall, rfl, .inl rfl⟩, grid.tall, Nat.zero_le _⟩

theorem resize_window (t : Terminal) (size : Extent) :
    (t.resize size).window = size.atLeastOne := by
  unfold resize
  exact (marked_draws _).window.trans (reportWindow_draws _).window

theorem resize_inGrid (t : Terminal) (size : Extent) : InGrid (t.resize size) := by
  have wide : 0 < size.atLeastOne.columns := Nat.le_max_left ..
  have tall : 0 < size.atLeastOne.rows := Nat.le_max_left ..
  unfold resize
  refine InGrid.draws ?_ ((reportWindow_draws _).trans (marked_draws _))
  refine ⟨⟨wide, tall, rfl, .inl rfl⟩, ?_, ?_⟩
  · exact Nat.lt_of_le_of_lt (Nat.min_le_right ..) (Nat.sub_lt tall Nat.one_pos)
  · exact Nat.le_trans (Nat.min_le_right ..) (Nat.sub_le ..)

theorem new_inGrid (size : Extent) (identity : Identity) (listening : Bool) :
    InGrid (new size identity listening) :=
  ⟨⟨Nat.le_max_left .., Nat.le_max_left .., rfl, .inl rfl⟩, Nat.le_max_left .., Nat.zero_le _⟩

theorem perform_inGrid (grid : InGrid t) (operation : Operation) :
    InGrid (t.perform operation) := by
  have atStart : InGrid (t.withColumn 0) := withColumn_inGrid grid (Nat.zero_le _)
  cases operation with
  | moveCursor right down =>
    refine grid.move rfl rfl (grid.clamp_lt _) (Nat.le_trans (clamp_le (Nat.zero_le _)) ?_)
    exact Nat.le_of_lt grid.lastColumn_le
  | setCursorPosition column row => exact grid.move rfl rfl (grid.clamp_lt _) (grid.column_le _)
  | setCursorColumn column => exact grid.move rfl rfl grid.row (grid.column_le _)
  | setCursorRow row => exact grid.move rfl rfl (grid.clamp_lt _) grid.column
  | carriageReturn => exact atStart.marked
  | newLine | verticalTab | formFeed => exact newLine_inGrid grid
  | index => exact advanceRow_inGrid grid
  | nextLine => exact advanceRow_inGrid atStart
  | reverseIndex => exact reverseIndex_inGrid grid
  | backspace => exact grid.move rfl rfl grid.row (Nat.le_trans (Nat.sub_le ..) (grid.column_le _))
  | restoreCursor => exact restoreCursor_inGrid grid
  | putChar c => exact putChar_inGrid grid c
  | bell | reportPrimaryAttributes | reportSecondaryAttributes | reportStatus | reportCursor =>
    exact grid.draws (raise_draws ..)
  | setTitle title =>
    have titled : InGrid { t with title } := grid.move rfl rfl grid.row grid.column
    exact titled.draws (raise_draws ..)
  | setLineSize size => exact setLineSize_inGrid grid size
  | screenAlignmentTest => exact screenAlignmentTest_inGrid grid
  | useAlternateBuffer | useNormalBuffer => exact useBuffer_inGrid grid _
  | clearScrollRegion | setOriginMode =>
    exact InGrid.marked (Sized.home_inGrid (grid.toSized.of_extents rfl rfl))
  | setScrollRegion top bottom => exact setScrollRegion_inGrid grid top bottom
  | scrollUp count => exact grid.draws (scrollUp_draws t count)
  | scrollDown count => exact grid.draws (scrollDown_draws t count)
  | eraseToEndOfLine | eraseToStartOfLine | eraseLine | eraseCharacters =>
    exact grid.draws (eraseCells_draws ..)
  | eraseBelow => exact grid.draws (eraseBelow_draws t)
  | eraseAbove => exact grid.draws (eraseAbove_draws t)
  | eraseAll => exact grid.draws (eraseAll_draws t)
  | deleteCharacters count => exact grid.draws (deleteCharacters_draws t count)
  | insertBlanks count => exact grid.draws (insertBlanks_draws t count)
  | deleteLines | insertLines => exact betweenMargins_inGrid grid ..
  | tab => exact tab_inGrid grid
  | setApplicationCursorKeys on => exact setMode_inGrid grid .cursorKeys on
  | set132Columns on => exact set132Columns_inGrid grid on
  | restoreMode mode => exact restoreMode_inGrid grid mode
  | fullReset => exact fullReset_inGrid grid
  | _ => exact grid.move rfl rfl grid.row grid.column

theorem inGrid_stable : Stable InGrid where
  input _ _ _ grid := grid.move rfl rfl grid.row grid.column
  perform _ operation grid := perform_inGrid grid operation

theorem performAll_inGrid (grid : InGrid t) (operations : List Operation) :
    InGrid (t.performAll operations) :=
  inGrid_stable.performAll grid operations

theorem act_inGrid (grid : InGrid t) (action : Action) : InGrid (t.act action) :=
  inGrid_stable.act grid fun size _ => resize_inGrid t size

theorem run_inGrid (grid : InGrid t) (actions : List Action) : InGrid (t.run actions) :=
  inGrid_stable.run (fun u size _ _ => resize_inGrid u size) grid

theorem Reached.inGrid (reached : Reached t) : InGrid t := by
  induction reached with
  | new size identity listening => exact new_inGrid size identity listening
  | act action _ grid => exact act_inGrid grid action
  | listen _ grid => exact grid.move rfl rfl grid.row grid.column
  | takeEvents _ grid => exact grid.move rfl rfl grid.row grid.column
  | clearChanged _ grid => exact grid.move rfl rfl grid.row grid.column

theorem putCell_column (t : Terminal) (cell : Cell) :
    (t.putCell cell).cursor.column = t.cursor.column + 1 := by
  rw [(putCell_draws t cell).cursor]
  rfl

theorem putChar_column (grid : InGrid t) (c : Char) :
    (t.putChar c).cursor.column =
      if t.cursor.column = t.page.columns then if t.cursor.wordWrap then 1 else t.page.columns
      else t.cursor.column + 1 := by
  have column := grid.column
  have wide := grid.page_wide
  refine (putCell_column ..).trans ?_
  unfold wrapped
  by_cases pending : t.cursor.column = t.page.columns
  · have past : ¬t.cursor.column < t.page.columns := by omega
    rw [if_neg past, if_pos pending]
    by_cases wraps : t.cursor.wordWrap = true
    · rw [if_pos wraps, if_pos wraps, newLine_from_start]
    · rw [if_neg wraps, if_neg wraps]
      show t.lastColumn + 1 = t.page.columns
      unfold lastColumn
      omega
  · rw [if_pos (by omega), if_neg pending]

theorem run_keeps_cursor_on_grid (size : Extent) (identity : Identity) (listening : Bool)
    (actions : List Action) :
    let t := (new size identity listening).run actions
    1 ≤ t.window.columns ∧ 1 ≤ t.window.rows ∧ t.page.rows = t.window.rows ∧
      (t.page.columns = t.window.columns ∨ t.page.columns = 132) ∧
      t.cursor.row < t.window.rows ∧ t.cursor.column ≤ t.page.columns ∧
      ∀ c, (t.perform (.putChar c)).cursor.column =
        if t.cursor.column = t.page.columns then if t.cursor.wordWrap then 1 else t.page.columns
        else t.cursor.column + 1 := by
  intro t
  have grid : InGrid t := run_inGrid (new_inGrid size identity listening) actions
  exact ⟨grid.wide, grid.tall, grid.pageRows, grid.pageColumns, grid.row, grid.column,
    putChar_column grid⟩

end VideoTerminal.Terminal

import VideoTerminal.Proofs.Painting
import VideoTerminal.Proofs.Sparing

namespace VideoTerminal

namespace Buffer

def Within (top bottom : Nat) (edit : Buffer → Buffer) : Prop :=
  ∀ b, (edit b).topRow = b.topRow ∧ ∀ row, row < top ∨ bottom < row →
    (edit b).lineAt (b.topRow + row) = b.lineAt (b.topRow + row)

theorem within_insert_remove {top bottom : Nat} (order : top ≤ bottom) (line : Line) :
    Within top bottom fun b => (b.insert (b.topRow + bottom + 1) line).remove (b.topRow + top) := by
  intro b
  refine ⟨rfl, fun row outside => ?_⟩
  simp only [lineAt_remove, lineAt_insert]
  rcases outside with above | below
  · rw [if_pos (by omega), if_pos (by omega)]
  · rw [if_neg (by omega), if_neg (by omega), if_neg (by omega), Nat.add_sub_cancel]

theorem within_remove_insert {top bottom source target : Nat}
    (from_top : top ≤ source) (to_bottom : source ≤ bottom) (low : top ≤ target)
    (high : target ≤ bottom) (line : Line) :
    Within top bottom fun b => (b.remove (b.topRow + source)).insert (b.topRow + target) line := by
  intro b
  refine ⟨rfl, fun row outside => ?_⟩
  simp only [lineAt_remove, lineAt_insert]
  rcases outside with above | below
  · rw [if_pos (by omega), if_pos (by omega)]
  · rw [if_neg (by omega), if_neg (by omega), if_neg (by omega), Nat.sub_add_cancel (by omega)]

theorem Within.repeat {top bottom : Nat} {edit : Buffer → Buffer} (within : Within top bottom edit)
    (count : Nat) : Within top bottom (Nat.repeat edit count) := by
  induction count with
  | zero => exact fun b => ⟨rfl, fun _ _ => rfl⟩
  | succ count ih =>
    intro b
    obtain ⟨topRow, lines⟩ := ih b
    obtain ⟨topRowAgain, linesAgain⟩ := within (Nat.repeat edit count b)
    rw [topRow] at topRowAgain linesAgain
    exact ⟨topRowAgain, fun row outside => (linesAgain row outside).trans (lines row outside)⟩

end Buffer

namespace Terminal

structure Watched (t : Terminal) : Prop where
  listening : t.listening = true
  covers : t.window.columns ≤ t.page.columns

variable {t u v : Terminal}

theorem Watched.draws (watched : Watched t) (drawn : Draws t u) : Watched u :=
  ⟨drawn.listening.trans watched.listening, by rw [drawn.window, drawn.page]; exact watched.covers⟩

theorem quiet_tells (unsaid : Unsaid t u) (same : u.view = t.view) : Tells t u :=
  unsaid.tells fun row column _ _ => congrFun (congrFun same.symm row) column

theorem Tells.refl (t : Terminal) : Tells t t := quiet_tells ⟨rfl, rfl, rfl⟩ rfl

theorem Tells.move (tells : Tells t u) (cursor : Cursor) : Tells t { u with cursor } :=
  tells.trans (quiet_tells ⟨rfl, rfl, rfl⟩ rfl)

theorem Tells.marked (tells : Tells t u) : Tells t u.marked :=
  tells.trans (quiet_tells ⟨rfl, rfl, rfl⟩ rfl)

theorem move_tells (t : Terminal) (cursor : Cursor) : Tells t { t with cursor } :=
  quiet_tells ⟨rfl, rfl, rfl⟩ rfl

theorem mapBuffer_unsaid (t : Terminal) (edit : Buffer → Buffer) : Unsaid t (t.mapBuffer edit) := by
  unfold mapBuffer
  cases t.active <;> exact ⟨rfl, rfl, rfl⟩

theorem editLine_unsaid (t : Terminal) (row : Nat) (f : Line → Line) :
    Unsaid t (t.editLine row f) := mapBuffer_unsaid ..

theorem mapBuffer_buffer (t : Terminal) (edit : Buffer → Buffer) :
    (t.mapBuffer edit).buffer = edit t.buffer := by
  unfold mapBuffer buffer
  cases t.active <;> rfl

theorem editLine_view (t : Terminal) (edited : Nat) (f : Line → Line) (row column : Nat) :
    (t.editLine edited f).view row column =
      if row = edited then (f (t.buffer.lineAt (t.buffer.topRow + row))).cellAt column
      else t.view row column := by
  unfold view visibleCell editLine
  rw [mapBuffer_buffer]
  simp only [Buffer.lineAt_modifyLine]
  by_cases here : row = edited
  · subst here; simp [Buffer.modifyLine]
  · simp [here, Buffer.modifyLine]

theorem mapBuffer_tells (listening : t.listening = true) {top bottom : Nat}
    {edit : Buffer → Buffer} (within : Buffer.Within top bottom edit) (unsaid : Unsaid t u)
    (view : u.view = (t.mapBuffer edit).view) : Tells t (u.reportRows top bottom) := by
  refine unsaid.reportRows listening fun row outside => ?_
  obtain ⟨topRow, lines⟩ := within t.buffer
  funext column
  rw [view, Terminal.view, visibleCell, mapBuffer_buffer, topRow, lines row outside]
  rfl

-- A line that is edited no further than the cells that are reported. What
-- happens past the page does not matter, since the window ends before it.
theorem editLine_tells (watched : Watched t) {edited first last : Nat} {f : Line → Line}
    (unsaid : Unsaid t u) (page : u.page = t.page) (view : u.view = (t.editLine edited f).view)
    (outside : ∀ line column, column < t.page.columns → ¬(first ≤ column ∧ column < last) →
      (f line).cellAt column = line.cellAt column) :
    Tells t (u.reportCells edited first last) := by
  refine unsaid.reportCells watched.listening fun row column wide unreported => ?_
  have inPage := Nat.lt_of_lt_of_le wide watched.covers
  rw [view, editLine_view]
  rw [page] at unreported
  split
  · rename_i here
    refine outside _ column inPage fun inside => unreported ⟨here, inside.1, ?_⟩
    exact Nat.lt_min.mpr ⟨inside.2, inPage⟩
  · rfl

theorem eraseCells_tells (watched : Watched t) (row first last : Nat) :
    Tells t (t.eraseCells row first last) := by
  have drawn := editLine_draws t row fun l =>
    (l.fill first (min last t.page.columns) (.blank t.cursor.rendition)).trim t.page.columns
  refine (editLine_tells watched (editLine_unsaid ..) drawn.page rfl ?_).marked
  intro line column inPage outside
  rw [Line.cellAt_trim, if_pos inPage, Line.cellAt_fill, if_neg (by omega)]

theorem foldl_tells {α : Type} {step : Terminal → α → Terminal}
    (draws : ∀ u item, Draws u (step u item)) (tells : ∀ u item, Watched u → Tells u (step u item))
    (items : List α) (watched : Watched t) : Tells t (items.foldl step t) := by
  induction items generalizing t with
  | nil => exact .refl t
  | cons item rest ih => exact (tells t item watched).trans (ih (watched.draws (draws t item)))

theorem repeat_tells {step : Terminal → Terminal} (draws : ∀ u, Draws u (step u))
    (tells : ∀ u, Watched u → Tells u (step u)) (count : Nat) (watched : Watched t) :
    Tells t (Nat.repeat step count t) := by
  induction count with
  | zero => exact .refl t
  | succ count ih => exact ih.trans (tells _ (watched.draws (repeat_draws draws count t)))

theorem eraseRows_tells (watched : Watched t) (first count : Nat) :
    Tells t (t.eraseRows first count) :=
  foldl_tells (fun _ _ => eraseCells_draws ..) (fun _ _ watched => eraseCells_tells watched ..) _
    watched

theorem eraseBelow_tells (watched : Watched t) : Tells t t.eraseBelow :=
  (eraseCells_tells watched ..).trans (eraseRows_tells (watched.draws (eraseCells_draws ..)) ..)

theorem eraseAbove_tells (watched : Watched t) : Tells t t.eraseAbove :=
  (eraseRows_tells watched ..).trans (eraseCells_tells (watched.draws (eraseRows_draws ..)) ..)

theorem deleteCharacters_tells (watched : Watched t) (count : Nat) :
    Tells t (t.deleteCharacters count) := by
  refine (editLine_tells watched (editLine_unsaid ..) (editLine_draws ..).page rfl ?_).marked
  intro line column inPage outside
  rw [Line.cellAt_trim, if_pos inPage, Line.cellAt_removeMany, if_pos (by omega)]

theorem insertBlanks_tells (watched : Watched t) (count : Nat) :
    Tells t (t.insertBlanks count) := by
  refine (editLine_tells watched (editLine_unsaid ..) (editLine_draws ..).page rfl ?_).marked
  intro line column inPage outside
  rw [Line.cellAt_trim, if_pos inPage, Line.cellAt_insertMany, if_pos (by omega)]

theorem alignRow_tells (watched : Watched t) (row : Nat) : Tells t (t.alignRow row) := by
  refine editLine_tells watched (editLine_unsaid ..) (editLine_draws ..).page rfl ?_
  intro line column inPage outside
  omega

theorem scrollRegionUp_tells (listening : t.listening = true) {top bottom : Nat}
    (order : top ≤ bottom) : Tells t (t.scrollRegionUp top bottom) :=
  (mapBuffer_tells listening (Buffer.within_insert_remove order {})
    (mapBuffer_unsaid ..) rfl).marked

theorem scrollRegionDown_tells (listening : t.listening = true) {top bottom : Nat}
    (order : top ≤ bottom) : Tells t (t.scrollRegionDown top bottom) :=
  (mapBuffer_tells listening (Buffer.within_remove_insert order (Nat.le_refl _) (Nat.le_refl _)
    order {}) (mapBuffer_unsaid ..) rfl).marked

theorem scrollWindow_tells (listening : t.listening = true) : Tells t t.scrollWindow :=
  (mapBuffer_unsaid ..).reportWindow listening

theorem advanceRow_tells (listening : t.listening = true) : Tells t t.advanceRow := by
  unfold advanceRow
  split
  · split
    · exact ((scrollRegionUp_tells listening t.margins_ordered).move _).marked
    · exact (move_tells ..).marked
  · split
    · exact (move_tells ..).marked
    · have scrolled := scrollWindow_tells
        (t := { t with cursor := { t.cursor with row := t.window.rows - 1 } }) listening
      exact ((move_tells ..).trans scrolled).marked

theorem newLine_tells (listening : t.listening = true) : Tells t t.newLine := by
  unfold newLine
  split
  · exact (move_tells ..).trans (advanceRow_tells listening)
  · exact advanceRow_tells listening

theorem reverseIndex_tells (listening : t.listening = true) : Tells t t.reverseIndex := by
  unfold reverseIndex
  split
  · exact ((scrollRegionDown_tells listening t.margins_ordered).move _).marked
  · exact (move_tells ..).marked

theorem restoreCursor_tells (t : Terminal) : Tells t t.restoreCursor := by
  unfold restoreCursor
  split
  · exact .refl t
  · exact (move_tells ..).marked

theorem wrapped_tells (listening : t.listening = true) : Tells t t.wrapped := by
  unfold wrapped
  split
  · exact .refl t
  · split
    · exact (move_tells ..).trans (newLine_tells listening)
    · exact move_tells ..

theorem setCell_view (t : Terminal) (cell : Cell) (row : Nat) {column : Nat}
    (inPage : column < t.page.columns) :
    ((t.editLine t.cursor.row fun l =>
        (l.set t.cursor.column cell).trim t.page.columns).withColumn
          (t.cursor.column + 1)).view row column =
      if row = t.cursor.row ∧ column = t.cursor.column then cell else t.view row column := by
  refine (editLine_view ..).trans ?_
  rw [Line.cellAt_trim, if_pos inPage, Line.cellAt_set]
  by_cases here : row = t.cursor.row
  · subst here; simp [view, visibleCell]
  · simp [here]

theorem putCell_view (t : Terminal) (cell : Cell) (replaces : t.cursor.insertMode = false)
    (row : Nat) {column : Nat} (inPage : column < t.page.columns) :
    (t.putCell cell).view row column =
      if row = t.cursor.row ∧ column = t.cursor.column then cell else t.view row column := by
  unfold putCell
  simp only [replaces, Bool.false_eq_true, if_false]
  refine (congrFun (congrFun (raiseAll_view ..) row) column).trans ?_
  exact setCell_view t cell row inPage

theorem putCell_tells (watched : Watched t) (cell : Cell) : Tells t (t.putCell cell) := by
  have written : ∀ edit : Line → Line,
      Unsaid t ((t.editLine t.cursor.row edit).withColumn (t.cursor.column + 1)) := fun edit =>
    have edited := editLine_unsaid t t.cursor.row edit
    ⟨edited.window, edited.listening, edited.outbox⟩
  unfold putCell
  dsimp only
  split
  · refine (editLine_tells watched (written _) (editLine_draws ..).page rfl ?_).marked
    intro line column inPage outside
    have page := (editLine_draws t t.cursor.row fun l =>
      (l.insert t.cursor.column cell).trim t.page.columns).page
    rw [page] at outside
    rw [Line.cellAt_trim, if_pos inPage, Line.cellAt_insert, if_pos (by omega)]
  · refine Tells.marked ((written _).raiseAll watched.listening fun row column tall wide => ?_)
    have inPage := Nat.lt_of_lt_of_le wide watched.covers
    refine (congrArg _ (setCell_view t cell row inPage)).trans ?_
    rw [setCell_view t cell row inPage]
    by_cases here : t.cursor.row = row ∧ t.cursor.column = column
    · obtain ⟨rfl, rfl⟩ := here
      simp [lastWord?, Event.word?, shown]
    · have elsewhere : ¬(row = t.cursor.row ∧ column = t.cursor.column) := fun same =>
        here ⟨same.1.symm, same.2.symm⟩
      simp [lastWord?, Event.word?, shown, here, elsewhere]

theorem screenAlignmentTest_tells (watched : Watched t) : Tells t t.screenAlignmentTest := by
  have filled := foldl_tells alignRow_draws (fun _ row watched => alignRow_tells watched row)
    (List.range t.window.rows)
    (t := { t with cursor := { t.cursor with region := {} } }) ⟨watched.listening, watched.covers⟩
  exact (((move_tells ..).trans filled).move _).marked

theorem clearSize_view (t : Terminal) {f : Line → Line}
    (cells : ∀ line, (f line).cells = line.cells) (row : Nat) :
    (t.editLine row f).view = t.view := by
  funext r column
  rw [editLine_view]
  split
  · rename_i here
    rw [Line.cellAt, cells]; rfl
  · rfl

theorem setLineSize_tells (watched : Watched t) (size : LineSize) :
    Tells t (t.setLineSize size) := by
  cases size with
  | screenAlignmentTest => exact screenAlignmentTest_tells watched
  | _ =>
    refine Tells.marked (quiet_tells (editLine_unsaid ..) (clearSize_view t ?_ _))
    exact fun _ => rfl

theorem useBuffer_tells (listening : t.listening = true) (kind : BufferKind) :
    Tells t (t.useBuffer kind) := by
  have switched : Unsaid t { t with active := kind } := ⟨rfl, rfl, rfl⟩
  exact (switched.reportWindow listening).marked

theorem setScrollRegion_tells (t : Terminal) (top bottom : Nat) :
    Tells t (t.setScrollRegion top bottom) := by
  rcases setScrollRegion_cases t top bottom with same | ⟨cursor, same⟩ <;> rw [same]
  · exact .refl t
  · exact (move_tells ..).marked

theorem betweenMargins_tells (listening : t.listening = true) {edit : Buffer → Buffer}
    (within : t.cursor.row ≤ t.bottomMargin → Buffer.Within t.cursor.row t.bottomMargin edit)
    (count : Nat) : Tells t (t.betweenMargins edit count) := by
  unfold betweenMargins
  dsimp only
  split
  · exact .refl t
  · rename_i between
    have edited := mapBuffer_unsaid t
      (Nat.repeat edit (min count (t.bottomMargin - t.cursor.row + 1)))
    refine Tells.marked (mapBuffer_tells listening ((within (by omega)).repeat _) ?_ rfl)
    exact ⟨edited.window, edited.listening, edited.outbox⟩

theorem deleteLines_tells (listening : t.listening = true) (count : Nat) :
    Tells t (t.deleteLines count) :=
  betweenMargins_tells listening (fun order => Buffer.within_remove_insert (Nat.le_refl _) order
    order (Nat.le_refl _) {}) count

theorem insertLines_tells (listening : t.listening = true) (count : Nat) :
    Tells t (t.insertLines count) :=
  betweenMargins_tells listening (fun order => Buffer.within_remove_insert order (Nat.le_refl _)
    (Nat.le_refl _) order {}) count

theorem tab_tells (t : Terminal) : Tells t t.tab := by
  unfold tab
  split
  · exact .refl t
  · exact (move_tells ..).marked

-- The page that is selected has to cover the window, the one before need not.
theorem set132Columns_tells (listening : t.listening = true) {on : Bool}
    (covers : t.window.columns ≤ if on then 132 else t.window.columns) :
    Tells t (t.set132Columns on) := by
  have paged : Tells t
      { t with page := { t.page with columns := if on then 132 else t.window.columns } } :=
    quiet_tells ⟨rfl, rfl, rfl⟩ rfl
  have erased := eraseRows_tells
    (t := { t with page := { t.page with columns := if on then 132 else t.window.columns } })
    ⟨listening, covers⟩ 0 t.window.rows
  exact (paged.trans erased).move _

theorem setMode_tells (listening : t.listening = true) (mode : SavableMode) (on : Bool) :
    Tells t (t.setMode mode on) := by
  cases mode with
  | normalBuffer => exact useBuffer_tells listening _
  | _ => exact quiet_tells ⟨rfl, rfl, rfl⟩ rfl

theorem restoreMode_tells (listening : t.listening = true) (mode : SavableMode) :
    Tells t (t.restoreMode mode) := by
  unfold restoreMode
  split
  · exact .refl t
  · exact setMode_tells listening ..

theorem fullReset_tells (listening : t.listening = true) : Tells t t.fullReset := by
  unfold fullReset
  exact Tells.marked (Unsaid.reportWindow ⟨rfl, rfl, rfl⟩ listening)

theorem send_tells (listening : t.listening = true) (event : Event)
    (silent : ∀ row column, event.word? row column = none) : Tells t (t.raise event) := by
  refine Unsaid.raiseAll ⟨rfl, rfl, rfl⟩ listening fun row column _ _ => ?_
  rw [lastWord?, silent]
  rfl

theorem perform_tells (watched : Watched t) (operation : Operation)
    (narrow : operation = .set132Columns true → t.window.columns ≤ 132) :
    Tells t (t.perform operation) := by
  have listening := watched.listening
  cases operation with
  | newLine | verticalTab | formFeed => exact newLine_tells listening
  | index => exact advanceRow_tells listening
  | nextLine =>
    exact (move_tells ..).trans (advanceRow_tells (t := t.withColumn 0) listening)
  | reverseIndex => exact reverseIndex_tells listening
  | restoreCursor => exact restoreCursor_tells t
  | putChar c =>
    have wrapped := wrapped_tells listening
    have spared := (wrapped_travels t).spares
    have still : Watched t.wrapped := ⟨wrapped.listening.trans listening, by
      rw [spared.window, spared.page]; exact watched.covers⟩
    exact wrapped.trans (putCell_tells still _)
  | bell | reportPrimaryAttributes | reportSecondaryAttributes | reportStatus | reportCursor =>
    exact send_tells listening _ fun _ _ => rfl
  | setTitle title =>
    have titled : Tells t { t with title } := quiet_tells ⟨rfl, rfl, rfl⟩ rfl
    exact titled.trans (send_tells (t := { t with title }) listening _ fun _ _ => rfl)
  | setLineSize size => exact setLineSize_tells watched size
  | screenAlignmentTest => exact screenAlignmentTest_tells watched
  | useAlternateBuffer | useNormalBuffer => exact useBuffer_tells listening _
  | setScrollRegion top bottom => exact setScrollRegion_tells t top bottom
  | scrollUp count =>
    exact repeat_tells (fun _ => scrollRegionUp_draws ..)
      (fun _ watched => scrollRegionUp_tells watched.listening t.margins_ordered) _ watched
  | scrollDown count =>
    exact repeat_tells (fun _ => scrollRegionDown_draws ..)
      (fun _ watched => scrollRegionDown_tells watched.listening t.margins_ordered) _ watched
  | eraseToEndOfLine | eraseToStartOfLine | eraseLine | eraseCharacters =>
    exact eraseCells_tells watched ..
  | eraseBelow => exact eraseBelow_tells watched
  | eraseAbove => exact eraseAbove_tells watched
  | eraseAll => exact eraseRows_tells watched ..
  | deleteCharacters count => exact deleteCharacters_tells watched count
  | insertBlanks count => exact insertBlanks_tells watched count
  | deleteLines count => exact deleteLines_tells listening count
  | insertLines count => exact insertLines_tells listening count
  | tab => exact tab_tells t
  | set132Columns on =>
    refine set132Columns_tells listening ?_
    cases on with
    | false => exact Nat.le_refl _
    | true => exact narrow rfl
  | restoreMode mode => exact restoreMode_tells listening mode
  | fullReset => exact fullReset_tells listening
  | _ => exact quiet_tells ⟨rfl, rfl, rfl⟩ rfl

end Terminal

end VideoTerminal

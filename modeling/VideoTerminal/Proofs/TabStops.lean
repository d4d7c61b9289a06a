import VideoTerminal.Proofs.Margins

-- Tab stops are kept in ascending order, those of the cursor in use and those of
-- the saved one: what looks a stop up may search by halves.
namespace VideoTerminal

def Operation.editsStops : Operation → Bool
  | .setTab | .clearTab | .clearAllTabs | .saveCursor | .restoreCursor | .fullReset => true
  | _ => false

namespace Terminal

variable {t u v : Terminal}

def Ascending (c : Cursor) : Prop := c.tabStops.Pairwise (· < ·)

structure SameStops (t u : Terminal) : Prop where
  stops : u.cursor.tabStops = t.cursor.tabStops
  saved : u.savedCursor = t.savedCursor

theorem Draws.sameStops (drawn : Draws t u) : SameStops t u :=
  ⟨by rw [drawn.cursor], drawn.savedCursor⟩

theorem SameStops.trans (one : SameStops t u) (two : SameStops u v) : SameStops t v :=
  ⟨two.stops.trans one.stops, two.saved.trans one.saved⟩

theorem SameStops.ascending (same : SameStops t u) (ascending : Cursors Ascending t) :
    Cursors Ascending u := by
  refine ⟨?_, fun saved found => ascending.saved saved (same.saved ▸ found)⟩
  unfold Ascending
  rw [same.stops]
  exact ascending.live

theorem advanceRow_sameStops (t : Terminal) : SameStops t t.advanceRow := by
  unfold advanceRow
  split
  · split
    · exact ⟨rfl, (scrollRegionUp_draws t t.topMargin t.bottomMargin).savedCursor⟩
    · exact ⟨rfl, rfl⟩
  · split
    · exact ⟨rfl, rfl⟩
    · have lowest : SameStops t { t with cursor := { t.cursor with row := t.window.rows - 1 } } :=
        ⟨rfl, rfl⟩
      exact lowest.trans ((scrollWindow_draws _).trans (marked_draws _)).sameStops

theorem withColumn_sameStops (t : Terminal) (column : Nat) : SameStops t (t.withColumn column) :=
  ⟨rfl, rfl⟩

theorem newLine_sameStops (t : Terminal) : SameStops t t.newLine := by
  unfold newLine
  split
  · exact (withColumn_sameStops t 0).trans (advanceRow_sameStops _)
  · exact advanceRow_sameStops t

theorem reverseIndex_sameStops (t : Terminal) : SameStops t t.reverseIndex := by
  unfold reverseIndex
  split
  · exact ⟨rfl, (scrollRegionDown_draws t t.topMargin t.bottomMargin).savedCursor⟩
  · exact ⟨rfl, rfl⟩

theorem putChar_sameStops (t : Terminal) (c : Char) : SameStops t (t.putChar c) := by
  have wrapped : SameStops t t.wrapped := by
    unfold Terminal.wrapped
    split
    · exact ⟨rfl, rfl⟩
    · split
      · exact (withColumn_sameStops t 0).trans (newLine_sameStops _)
      · exact withColumn_sameStops t _
  exact wrapped.trans ((withColumn_sameStops _ _).trans (putCell_draws ..).sameStops)

theorem screenAlignmentTest_sameStops (t : Terminal) : SameStops t t.screenAlignmentTest := by
  have drawn := foldl_draws alignRow_draws (List.range t.window.rows)
    { t with cursor := { t.cursor with region := {} } }
  exact ⟨drawn.sameStops.stops, drawn.savedCursor⟩

theorem setLineSize_sameStops (t : Terminal) (size : LineSize) :
    SameStops t (t.setLineSize size) := by
  cases size with
  | screenAlignmentTest => exact screenAlignmentTest_sameStops t
  | _ => exact ((editLine_draws ..).trans (marked_draws _)).sameStops

theorem useBuffer_sameStops (t : Terminal) (kind : BufferKind) :
    SameStops t (t.useBuffer kind) := by
  have switched : SameStops t { t with active := kind } := ⟨rfl, rfl⟩
  exact switched.trans ((reportWindow_draws _).trans (marked_draws _)).sameStops

theorem setScrollRegion_sameStops (t : Terminal) (top bottom : Nat) :
    SameStops t (t.setScrollRegion top bottom) := by
  unfold setScrollRegion
  dsimp only
  generalize (if bottom = 0 then t.window.rows - 1 else min (bottom - 1) (t.window.rows - 1)) = low
  split <;> exact ⟨rfl, rfl⟩

theorem betweenMargins_sameStops (t : Terminal) (edit : Buffer → Buffer) (count : Nat) :
    SameStops t (t.betweenMargins edit count) := by
  unfold betweenMargins
  dsimp only
  split
  · exact ⟨rfl, rfl⟩
  · have edited := (mapBuffer_draws t
      (Nat.repeat edit (min count (t.bottomMargin - t.cursor.row + 1)))).sameStops
    exact (edited.trans (withColumn_sameStops _ 0)).trans
      ((reportRows_draws ..).trans (marked_draws _)).sameStops

theorem tab_sameStops (t : Terminal) : SameStops t t.tab := by
  unfold tab
  split <;> exact ⟨rfl, rfl⟩

theorem set132Columns_sameStops (t : Terminal) (on : Bool) : SameStops t (t.set132Columns on) := by
  have erased := (eraseAll_draws
    { t with page := { t.page with columns := if on then 132 else t.window.columns } }).sameStops
  exact ⟨erased.stops, erased.saved⟩

theorem setMode_sameStops (t : Terminal) (mode : SavableMode) (on : Bool) :
    SameStops t (t.setMode mode on) := by
  cases mode with
  | normalBuffer => exact useBuffer_sameStops t _
  | _ => exact ⟨rfl, rfl⟩

theorem restoreMode_sameStops (t : Terminal) (mode : SavableMode) :
    SameStops t (t.restoreMode mode) := by
  unfold restoreMode
  split
  · exact ⟨rfl, rfl⟩
  · exact setMode_sameStops t ..

theorem perform_sameStops (t : Terminal) {operation : Operation}
    (leaves : operation.editsStops = false) : SameStops t (t.perform operation) := by
  cases operation with
  | newLine | verticalTab | formFeed => exact newLine_sameStops t
  | index => exact advanceRow_sameStops t
  | nextLine => exact (withColumn_sameStops t 0).trans (advanceRow_sameStops _)
  | reverseIndex => exact reverseIndex_sameStops t
  | putChar c => exact putChar_sameStops t c
  | bell | reportPrimaryAttributes | reportSecondaryAttributes | reportStatus | reportCursor =>
    exact (raise_draws ..).sameStops
  | setTitle title =>
    have titled : SameStops t { t with title } := ⟨rfl, rfl⟩
    exact titled.trans (raise_draws ..).sameStops
  | setLineSize size => exact setLineSize_sameStops t size
  | screenAlignmentTest => exact screenAlignmentTest_sameStops t
  | useAlternateBuffer | useNormalBuffer => exact useBuffer_sameStops t _
  | setScrollRegion top bottom => exact setScrollRegion_sameStops t top bottom
  | scrollUp count => exact (scrollUp_draws t count).sameStops
  | scrollDown count => exact (scrollDown_draws t count).sameStops
  | eraseToEndOfLine | eraseToStartOfLine | eraseLine | eraseCharacters =>
    exact (eraseCells_draws ..).sameStops
  | eraseBelow => exact (eraseBelow_draws t).sameStops
  | eraseAbove => exact (eraseAbove_draws t).sameStops
  | eraseAll => exact (eraseAll_draws t).sameStops
  | deleteCharacters count => exact (deleteCharacters_draws t count).sameStops
  | insertBlanks count => exact (insertBlanks_draws t count).sameStops
  | deleteLines | insertLines => exact betweenMargins_sameStops t ..
  | tab => exact tab_sameStops t
  | setApplicationCursorKeys on => exact setMode_sameStops t .cursorKeys on
  | set132Columns on => exact set132Columns_sameStops t on
  | restoreMode mode => exact restoreMode_sameStops t mode
  | setTab | clearTab | clearAllTabs | saveCursor | restoreCursor | fullReset => cases leaves
  | _ => exact ⟨rfl, rfl⟩

theorem initial_ascending : TabStops.initial.Pairwise (· < ·) := by decide

theorem restoreCursor_ascending (ascending : Cursors Ascending t) :
    Cursors Ascending t.restoreCursor := by
  unfold restoreCursor
  split
  · exact ascending
  · rename_i saved found
    exact ⟨ascending.saved saved found, ascending.saved⟩

theorem fullReset_ascending (t : Terminal) : Cursors Ascending t.fullReset := by
  unfold fullReset
  refine ((reportWindow_draws _).trans (marked_draws _)).sameStops.ascending ?_
  exact ⟨initial_ascending, fun _ found => by cases found⟩

theorem perform_ascending (ascending : Cursors Ascending t) (operation : Operation) :
    Cursors Ascending (t.perform operation) := by
  cases edits : operation.editsStops with
  | false => exact (perform_sameStops t edits).ascending ascending
  | true =>
    cases operation with
    | setTab => exact ⟨TabStops.ascending_insert ascending.live, ascending.saved⟩
    | clearTab => exact ⟨TabStops.ascending_erase ascending.live, ascending.saved⟩
    | clearAllTabs => exact ⟨.nil, ascending.saved⟩
    | saveCursor =>
      refine ⟨ascending.live, fun saved found => ?_⟩
      cases Option.some.inj found
      exact ascending.live
    | restoreCursor => exact restoreCursor_ascending ascending
    | fullReset => exact fullReset_ascending t
    | _ => cases edits

theorem resize_sameStops (t : Terminal) (size : Extent) : SameStops t (t.resize size) := by
  unfold resize
  dsimp only
  have moved := mapBuffer_draws t fun b =>
    { b with topRow := b.topRow + (t.cursor.row - min t.cursor.row (size.atLeastOne.rows - 1)) }
  refine SameStops.trans ?_ ((reportWindow_draws _).trans (marked_draws _)).sameStops
  exact ⟨rfl, moved.savedCursor⟩

theorem new_ascending (size : Extent) (identity : Identity) (listening : Bool) :
    Cursors Ascending (new size identity listening) :=
  ⟨initial_ascending, fun _ found => by cases found⟩

theorem ascending_stable : Stable (Cursors Ascending) where
  input _ _ _ ascending := ⟨ascending.live, ascending.saved⟩
  perform _ operation ascending := perform_ascending ascending operation

end Terminal

end VideoTerminal

import VideoTerminal.Proofs.Drawing
import VideoTerminal.Proofs.Run

-- What a terminal may have from before that no operation looks at: lines above
-- its buffers, events not taken, the raised flag, a title, and unread bytes. A
-- terminal with such a past does what it would do without it.
namespace VideoTerminal

namespace Padded

variable {α : Type} (filler : α) (front items : List α) (i : Nat)

theorem pad_behind :
    pad filler (front.length + i) (front ++ items) = front ++ pad filler i items := by
  rw [pad, pad, List.append_assoc, List.length_append, Nat.add_sub_add_left]

theorem modify_behind (f : α → α) :
    modify filler (front.length + i) f (front ++ items) = front ++ modify filler i f items := by
  rw [modify, modify, Nat.add_assoc, pad_behind]
  exact List.modifyTailIdx_add ..

theorem insert_behind (item : α) :
    insert filler (front.length + i) item (front ++ items) =
      front ++ insert filler i item items := by
  rw [insert, insert, pad_behind]
  exact List.modifyTailIdx_add ..

theorem remove_behind :
    remove (front.length + i) (front ++ items) = front ++ remove i items := by
  rw [remove, remove, List.eraseIdx_append_of_length_le (Nat.le_add_right ..),
    Nat.add_sub_cancel_left]

theorem read_behind :
    read filler (front ++ items) (front.length + i) = read filler items i := by
  rw [read_eq, read_eq, List.getElem?_append_right (Nat.le_add_right ..), Nat.add_sub_cancel_left]

end Padded

namespace Buffer

def below (b : Buffer) (above : List Line) : Buffer :=
  ⟨above ++ b.lines, above.length + b.topRow⟩

variable (b : Buffer) (above : List Line) (row : Nat)

theorem lineAt_below : (b.below above).lineAt (above.length + row) = b.lineAt row :=
  Padded.read_behind ..

theorem visibleLine?_below : (b.below above).visibleLine? row = b.visibleLine? row := by
  rw [visibleLine?, visibleLine?, line?, line?, below, Nat.add_assoc,
    List.getElem?_append_right (Nat.le_add_right ..), Nat.add_sub_cancel_left]

theorem modifyLine_below (f : Line → Line) :
    (b.below above).modifyLine (above.length + row) f = (b.modifyLine row f).below above :=
  congrArg (Buffer.mk · _) (Padded.modify_behind ..)

theorem insert_below (line : Line) :
    (b.below above).insert (above.length + row) line = (b.insert row line).below above :=
  congrArg (Buffer.mk · _) (Padded.insert_behind ..)

theorem remove_below :
    (b.below above).remove (above.length + row) = (b.remove row).below above :=
  congrArg (Buffer.mk · _) (Padded.remove_behind ..)

-- An edit that speaks of rows of the window alone does not notice scrollback.
def Relative (edit : Buffer → Buffer) : Prop :=
  ∀ b above, edit (b.below above) = (edit b).below above

theorem relative_modifyLine (row : Nat) (f : Line → Line) :
    Relative fun b => b.modifyLine (b.topRow + row) f := by
  intro b above
  exact (congrArg (modifyLine _ · f) (Nat.add_assoc ..)).trans (modifyLine_below ..)

theorem relative_insert (row : Nat) (line : Line) :
    Relative fun b => b.insert (b.topRow + row) line := by
  intro b above
  exact (congrArg (insert _ · line) (Nat.add_assoc ..)).trans (insert_below ..)

theorem relative_remove (row : Nat) : Relative fun b => b.remove (b.topRow + row) := by
  intro b above
  exact (congrArg (remove _) (Nat.add_assoc ..)).trans (remove_below ..)

theorem relative_advance (rows : Nat) : Relative fun b => { b with topRow := b.topRow + rows } := by
  intro b above
  exact congrArg (Buffer.mk _) (Nat.add_assoc ..)

theorem relative_clear : Relative fun b => { b with topRow := b.length } := by
  intro b above
  exact congrArg (Buffer.mk _) List.length_append

theorem Relative.comp {first second : Buffer → Buffer} (one : Relative first)
    (two : Relative second) : Relative fun b => second (first b) := by
  intro b above
  exact (congrArg second (one b above)).trans (two _ above)

theorem Relative.repeat {edit : Buffer → Buffer} (one : Relative edit) (count : Nat) :
    Relative (Nat.repeat edit count) := by
  induction count with
  | zero => exact fun _ _ => rfl
  | succ count ih => exact ih.comp one

end Buffer

structure Past where
  above : List Line := []
  behind : List Line := []
  earlier : Array Event := #[]
  changed : Bool := false
  title : Option String := none
  unread : Option (List UInt8) := none

def Past.after (past : Past) : Operation → Past
  | .setTitle _ => { past with title := none }
  | _ => past

def Past.afterAll (past : Past) (operations : List Operation) : Past :=
  operations.foldl Past.after past

namespace Past

variable (past : Past)

theorem after_eq (operation : Operation) :
    past.after operation = { past with title := (past.after operation).title } := by
  cases operation <;> rfl

theorem afterAll_eq (operations : List Operation) :
    past.afterAll operations = { past with title := (past.afterAll operations).title } := by
  induction operations generalizing past with
  | nil => rfl
  | cons operation rest ih =>
    rw [afterAll, List.foldl_cons, after_eq]
    exact ih { past with title := (past.after operation).title }

theorem afterAll_with_changed (changed : Bool) (operations : List Operation) :
    Past.afterAll { past with changed } operations = { past.afterAll operations with changed } := by
  induction operations generalizing past with
  | nil => rfl
  | cons operation rest ih =>
    have one : Past.after { past with changed } operation =
        { past.after operation with changed } := by
      cases operation <;> rfl
    rw [afterAll, List.foldl_cons, one]
    exact ih _

theorem after_untitled {operation : Operation} (untitled : ∀ title, operation ≠ .setTitle title) :
    past.after operation = past := by
  cases operation with
  | setTitle title => exact absurd rfl (untitled title)
  | _ => rfl

theorem afterAll_untitled {operations : List Operation}
    (untitled : ∀ title, .setTitle title ∉ operations) : past.afterAll operations = past := by
  induction operations with
  | nil => rfl
  | cons operation rest ih =>
    have same : past.after operation = past := past.after_untitled fun title found =>
      untitled title (found ▸ List.mem_cons_self)
    rw [afterAll, List.foldl_cons, same]
    exact ih fun title later => untitled title (List.mem_cons_of_mem _ later)

variable {past}

theorem afterAll_of_none (gone : past.title = none) (operations : List Operation) :
    past.afterAll operations = past := by
  induction operations with
  | nil => rfl
  | cons operation rest ih =>
    have same : past.after operation = past := by
      cases operation with
      | setTitle title => rw [after, ← gone]
      | _ => rfl
    rw [afterAll, List.foldl_cons, same]
    exact ih

theorem afterAll_titled {operations : List Operation} {title : String}
    (titled : .setTitle title ∈ operations) : (past.afterAll operations).title = none := by
  induction operations generalizing past with
  | nil => cases titled
  | cons operation rest ih =>
    rcases List.mem_cons.mp titled with rfl | later
    · have gone : ({ past with title := none } : Past).title = none := rfl
      exact congrArg Past.title (afterAll_of_none gone rest)
    · exact ih later

end Past

namespace Terminal

def heir (t : Terminal) (past : Past) : Terminal :=
  { t with
    normal := t.normal.below past.above
    alternate := t.alternate.below past.behind
    changed := past.changed || t.changed
    title := past.title.getD t.title
    unread := past.unread.getD t.unread
    outbox := past.earlier ++ t.outbox }

variable (t : Terminal) (past : Past)

theorem heir_of_input (changed : Bool) (unread : Option (List UInt8)) :
    t.heir { changed, unread } =
      { t with changed := changed || t.changed, unread := unread.getD t.unread } := by
  simp [heir, Buffer.below]

@[simp] theorem heir_active : (t.heir past).active = t.active := rfl
@[simp] theorem heir_cursor : (t.heir past).cursor = t.cursor := rfl
@[simp] theorem heir_savedCursor : (t.heir past).savedCursor = t.savedCursor := rfl
@[simp] theorem heir_window : (t.heir past).window = t.window := rfl
@[simp] theorem heir_page : (t.heir past).page = t.page := rfl
@[simp] theorem heir_topMargin : (t.heir past).topMargin = t.topMargin := rfl
@[simp] theorem heir_bottomMargin : (t.heir past).bottomMargin = t.bottomMargin := rfl

theorem heir_buffer : ∃ above, (t.heir past).buffer = t.buffer.below above := by
  unfold buffer
  rw [heir_active]
  cases t.active with
  | normal => exact ⟨past.above, rfl⟩
  | alternate => exact ⟨past.behind, rfl⟩

theorem heir_visibleLine? (row : Nat) : (t.heir past).visibleLine? row = t.visibleLine? row := by
  obtain ⟨above, same⟩ := t.heir_buffer past
  rw [visibleLine?, same, Buffer.visibleLine?_below]; rfl

theorem heir_visibleCell (column row : Nat) :
    (t.heir past).visibleCell column row = t.visibleCell column row := by
  obtain ⟨above, same⟩ := t.heir_buffer past
  have line : (t.buffer.below above).lineAt ((t.buffer.below above).topRow + row) =
      t.buffer.lineAt (t.buffer.topRow + row) :=
    (congrArg _ (Nat.add_assoc ..)).trans (Buffer.lineAt_below ..)
  rw [visibleCell, same, line]; rfl

theorem heir_mapBuffer {edit : Buffer → Buffer} (relative : Buffer.Relative edit) :
    (t.heir past).mapBuffer edit = (t.mapBuffer edit).heir past := by
  unfold mapBuffer
  cases active : t.active with
  | normal => simp only [active, heir, relative t.normal past.above]
  | alternate => simp only [active, heir, relative t.alternate past.behind]

theorem heir_marked : (t.heir past).marked = t.marked.heir past := by
  simp only [marked, heir, Bool.or_true]

variable {t past} in
theorem marked_of_heir {u : Terminal} (same : u = t.heir past) :
    u.marked = t.marked.heir past := by
  rw [same, heir_marked]

theorem heir_raiseAll (events : List Event) :
    (t.heir past).raiseAll events = (t.raiseAll events).heir past := by
  have outbox : past.earlier ++ t.outbox ++ events = past.earlier ++ (t.outbox ++ events) :=
    Array.ext' (by simp)
  unfold raiseAll
  cases listening : t.listening with
  | true => simp only [heir, listening, outbox, if_true]
  | false => simp only [heir, listening, Bool.false_eq_true, if_false]

theorem heir_raise (event : Event) : (t.heir past).raise event = (t.raise event).heir past :=
  heir_raiseAll ..

theorem heir_editLine (row : Nat) (f : Line → Line) :
    (t.heir past).editLine row f = (t.editLine row f).heir past :=
  heir_mapBuffer t past (Buffer.relative_modifyLine row f)

theorem heir_cellEvent (row : Nat) : (t.heir past).cellEvent row = t.cellEvent row := by
  funext column
  rw [cellEvent, cellEvent, heir_visibleCell]

theorem heir_reportCells (row first last : Nat) :
    (t.heir past).reportCells row first last = (t.reportCells row first last).heir past := by
  unfold reportCells
  rw [heir_window, heir_page, heir_cellEvent, heir_raiseAll]
  split <;> rfl

theorem heir_reportRows (top bottom : Nat) :
    (t.heir past).reportRows top bottom = (t.reportRows top bottom).heir past :=
  heir_raise ..

theorem heir_reportWindow : (t.heir past).reportWindow = t.reportWindow.heir past :=
  heir_reportRows ..

theorem heir_eraseCells (row first last : Nat) :
    (t.heir past).eraseCells row first last = (t.eraseCells row first last).heir past := by
  unfold eraseCells
  dsimp only
  rw [heir_cursor, heir_page, heir_editLine, heir_reportCells, heir_marked]

theorem heir_eraseRows (first count : Nat) :
    (t.heir past).eraseRows first count = (t.eraseRows first count).heir past := by
  unfold eraseRows
  induction List.range' first count generalizing t with
  | nil => rfl
  | cons row rows ih =>
    rw [List.foldl_cons, List.foldl_cons, eraseRow, heir_page, heir_eraseCells]
    exact ih _

theorem heir_scrollRegionUp (top bottom : Nat) :
    (t.heir past).scrollRegionUp top bottom = (t.scrollRegionUp top bottom).heir past := by
  have relative : Buffer.Relative fun b =>
      (b.insert (b.topRow + bottom + 1) {}).remove (b.topRow + top) :=
    (Buffer.relative_insert (bottom + 1) {}).comp (Buffer.relative_remove top)
  unfold scrollRegionUp
  dsimp only
  rw [heir_mapBuffer t past relative, heir_reportRows, heir_marked]

theorem heir_scrollRegionDown (top bottom : Nat) :
    (t.heir past).scrollRegionDown top bottom = (t.scrollRegionDown top bottom).heir past := by
  have relative : Buffer.Relative fun b =>
      (b.remove (b.topRow + bottom)).insert (b.topRow + top) {} :=
    (Buffer.relative_remove bottom).comp (Buffer.relative_insert top {})
  unfold scrollRegionDown
  dsimp only
  rw [heir_mapBuffer t past relative, heir_reportRows, heir_marked]

theorem heir_scrollWindow : (t.heir past).scrollWindow = t.scrollWindow.heir past := by
  unfold scrollWindow
  rw [heir_mapBuffer t past (Buffer.relative_advance 1), heir_reportWindow]

theorem heir_ite (condition : Prop) [Decidable condition] (u v : Terminal) :
    (if condition then u else v).heir past = if condition then u.heir past else v.heir past :=
  apply_ite (heir · past) ..

theorem heir_advanceRow : (t.heir past).advanceRow = t.advanceRow.heir past := by
  unfold advanceRow
  rw [heir_topMargin, heir_bottomMargin, heir_scrollRegionUp, heir_ite, heir_ite, heir_ite,
    ← heir_marked, ← heir_marked, ← heir_marked, ← heir_scrollWindow]
  exact ite_congr rfl (fun _ => ite_congr rfl (fun _ => rfl) fun _ => rfl)
    fun _ => ite_congr rfl (fun _ => rfl) fun _ => rfl

theorem heir_home : (t.heir past).home = t.home.heir past := rfl

theorem heir_withColumn (column : Nat) :
    (t.heir past).withColumn column = (t.withColumn column).heir past := rfl

theorem heir_newLine : (t.heir past).newLine = t.newLine.heir past := by
  unfold newLine
  rw [← heir_advanceRow, heir_ite, ← heir_withColumn]
  rfl

theorem heir_reverseIndex : (t.heir past).reverseIndex = t.reverseIndex.heir past := by
  unfold reverseIndex
  rw [heir_topMargin, heir_bottomMargin, heir_scrollRegionDown, heir_ite, ← heir_marked,
    ← heir_marked]
  exact ite_congr rfl (fun _ => rfl) fun _ => rfl

theorem heir_restoreCursor : (t.heir past).restoreCursor = t.restoreCursor.heir past := by
  unfold restoreCursor
  rw [heir_savedCursor]
  cases t.savedCursor with
  | none => rfl
  | some saved => dsimp only; rw [← heir_marked]; rfl

theorem heir_wrapped : (t.heir past).wrapped = t.wrapped.heir past := by
  unfold wrapped
  rw [heir_ite, heir_ite, ← heir_newLine]
  exact ite_congr rfl (fun _ => rfl) fun _ => ite_congr rfl (fun _ => rfl) fun _ => rfl

theorem heir_putCell (cell : Cell) : (t.heir past).putCell cell = (t.putCell cell).heir past := by
  unfold putCell
  dsimp only
  rw [heir_cursor, heir_page, heir_editLine, heir_editLine, heir_ite, heir_page,
    ← heir_marked, ← heir_marked, ← heir_reportCells, ← heir_raise, ← heir_withColumn,
    ← heir_withColumn]

theorem heir_putChar (c : Char) : (t.heir past).putChar c = (t.putChar c).heir past := by
  unfold putChar
  rw [heir_wrapped]
  exact heir_putCell t.wrapped past _

theorem heir_setTitle (title : String) :
    (t.heir past).setTitle title = (t.setTitle title).heir { past with title := none } :=
  heir_raise { t with title } { past with title := none } _

theorem heir_foldl {α : Type} {step : Terminal → α → Terminal}
    (blind : ∀ u item, step (u.heir past) item = (step u item).heir past) (items : List α) :
    items.foldl step (t.heir past) = (items.foldl step t).heir past := by
  induction items generalizing t with
  | nil => rfl
  | cons item rest ih => rw [List.foldl_cons, List.foldl_cons, blind, ih]

theorem heir_repeat {step : Terminal → Terminal}
    (blind : ∀ u, step (u.heir past) = (step u).heir past) (count : Nat) :
    Nat.repeat step count (t.heir past) = (Nat.repeat step count t).heir past := by
  induction count with
  | zero => rfl
  | succ count ih => exact (congrArg step ih).trans (blind _)

theorem heir_alignRow (row : Nat) : (t.heir past).alignRow row = (t.alignRow row).heir past := by
  rw [alignRow, heir_page, heir_editLine, heir_reportCells]; rfl

theorem heir_screenAlignmentTest :
    (t.heir past).screenAlignmentTest = t.screenAlignmentTest.heir past := by
  have filled := heir_foldl { t with cursor := { t.cursor with region := {} } } past
    (fun u row => heir_alignRow u past row) (List.range t.window.rows)
  unfold screenAlignmentTest
  dsimp only
  rw [← heir_marked]
  exact congrArg (fun u =>
    marked { u with cursor := { u.cursor with row := 0, column := 0 } }) filled

theorem heir_setLineSize (size : LineSize) :
    (t.heir past).setLineSize size = (t.setLineSize size).heir past := by
  unfold setLineSize
  cases size with
  | screenAlignmentTest => exact heir_screenAlignmentTest ..
  | _ => dsimp only; rw [heir_cursor, heir_editLine, heir_marked]

theorem heir_useBuffer (kind : BufferKind) :
    (t.heir past).useBuffer kind = (t.useBuffer kind).heir past := by
  unfold useBuffer
  rw [← heir_marked, ← heir_reportWindow]; rfl

theorem heir_setScrollRegion (top bottom : Nat) :
    (t.heir past).setScrollRegion top bottom = (t.setScrollRegion top bottom).heir past := by
  unfold setScrollRegion
  dsimp only
  rw [heir_ite, ← heir_marked]
  exact ite_congr rfl (fun _ => rfl) fun _ => rfl

theorem heir_scrollUp (count : Nat) :
    (t.heir past).scrollUp count = (t.scrollUp count).heir past :=
  heir_repeat t past (fun u => heir_scrollRegionUp u past _ _) _

theorem heir_scrollDown (count : Nat) :
    (t.heir past).scrollDown count = (t.scrollDown count).heir past :=
  heir_repeat t past (fun u => heir_scrollRegionDown u past _ _) _

theorem heir_eraseBelow : (t.heir past).eraseBelow = t.eraseBelow.heir past := by
  unfold eraseBelow eraseToEndOfLine
  rw [← heir_eraseRows, ← heir_eraseCells]; rfl

theorem heir_eraseAbove : (t.heir past).eraseAbove = t.eraseAbove.heir past := by
  unfold eraseAbove eraseToStartOfLine
  rw [heir_cursor, heir_eraseRows, heir_eraseCells]; rfl

theorem heir_deleteCharacters (count : Nat) :
    (t.heir past).deleteCharacters count = (t.deleteCharacters count).heir past := by
  unfold deleteCharacters
  dsimp only
  rw [← heir_marked, ← heir_reportCells, ← heir_editLine]; rfl

theorem heir_insertBlanks (count : Nat) :
    (t.heir past).insertBlanks count = (t.insertBlanks count).heir past := by
  unfold insertBlanks
  dsimp only
  rw [← heir_marked, ← heir_reportCells, ← heir_editLine]; rfl

theorem heir_betweenMargins {edit : Buffer → Buffer} (relative : Buffer.Relative edit)
    (count : Nat) :
    (t.heir past).betweenMargins edit count = (t.betweenMargins edit count).heir past := by
  unfold betweenMargins
  dsimp only
  rw [heir_mapBuffer t past (relative.repeat _), heir_ite, ← heir_marked, ← heir_reportRows,
    ← heir_withColumn]
  exact ite_congr rfl (fun _ => rfl) fun _ => rfl

theorem heir_deleteLines (count : Nat) :
    (t.heir past).deleteLines count = (t.deleteLines count).heir past :=
  heir_betweenMargins t past
    ((Buffer.relative_remove t.cursor.row).comp (Buffer.relative_insert t.bottomMargin {})) count

theorem heir_insertLines (count : Nat) :
    (t.heir past).insertLines count = (t.insertLines count).heir past :=
  heir_betweenMargins t past
    ((Buffer.relative_remove t.bottomMargin).comp (Buffer.relative_insert t.cursor.row {})) count

theorem heir_tab : (t.heir past).tab = t.tab.heir past := by
  unfold tab
  rw [heir_cursor]
  cases TabStops.next? t.cursor.column t.cursor.tabStops with
  | none => rfl
  | some stop => dsimp only; rw [← heir_marked]; rfl

theorem heir_set132Columns (on : Bool) :
    (t.heir past).set132Columns on = (t.set132Columns on).heir past := by
  unfold set132Columns
  rw [← heir_home]
  exact congrArg home (heir_eraseRows
    { t with page := { t.page with columns := if on then 132 else t.window.columns } } past _ _)

theorem heir_setMode (mode : SavableMode) (on : Bool) :
    (t.heir past).setMode mode on = (t.setMode mode on).heir past := by
  cases mode with
  | normalBuffer => exact heir_useBuffer ..
  | _ => rfl

theorem heir_restoreMode (mode : SavableMode) :
    (t.heir past).restoreMode mode = (t.restoreMode mode).heir past := by
  unfold restoreMode
  rw [show (t.heir past).savedModes = t.savedModes from rfl]
  cases t.savedModes.get mode with
  | none => rfl
  | some value => exact heir_setMode ..

theorem heir_fullReset : (t.heir past).fullReset = t.fullReset.heir past := by
  unfold fullReset
  dsimp only
  rw [← heir_marked, ← heir_reportWindow]
  simp only [heir, ← Buffer.relative_clear _ _]

theorem heir_perform (operation : Operation) :
    (t.heir past).perform operation = (t.perform operation).heir (past.after operation) := by
  cases operation with
  | newLine | verticalTab | formFeed => exact heir_newLine ..
  | index => exact heir_advanceRow ..
  | nextLine => exact heir_advanceRow (t.withColumn 0) past
  | reverseIndex => exact heir_reverseIndex ..
  | restoreCursor => exact heir_restoreCursor ..
  | putChar c => exact heir_putChar ..
  | bell => exact heir_raise ..
  | setTitle title => exact heir_setTitle ..
  | setLineSize size => exact heir_setLineSize ..
  | screenAlignmentTest => exact heir_screenAlignmentTest ..
  | useAlternateBuffer | useNormalBuffer => exact heir_useBuffer ..
  | setScrollRegion top bottom => exact heir_setScrollRegion ..
  | scrollUp count => exact heir_scrollUp ..
  | scrollDown count => exact heir_scrollDown ..
  | eraseToEndOfLine | eraseToStartOfLine | eraseLine | eraseCharacters =>
    exact heir_eraseCells ..
  | eraseBelow => exact heir_eraseBelow ..
  | eraseAbove => exact heir_eraseAbove ..
  | eraseAll => exact heir_eraseRows ..
  | deleteCharacters count => exact heir_deleteCharacters ..
  | insertBlanks count => exact heir_insertBlanks ..
  | deleteLines count => exact heir_deleteLines ..
  | insertLines count => exact heir_insertLines ..
  | tab => exact heir_tab ..
  | set132Columns on => exact heir_set132Columns ..
  | restoreMode mode => exact heir_restoreMode ..
  | fullReset => exact heir_fullReset ..
  | reportPrimaryAttributes | reportSecondaryAttributes | reportStatus | reportCursor =>
    exact heir_raise ..
  | moveCursor | setCursorPosition | setCursorColumn | setCursorRow | carriageReturn | backspace
  | clearScrollRegion | setReverseVideo | setOriginMode | setBlinkingCursor | showCursor =>
    exact marked_of_heir rfl
  | _ => rfl

theorem heir_performAll (operations : List Operation) :
    (t.heir past).performAll operations =
      (t.performAll operations).heir (past.afterAll operations) := by
  induction operations generalizing t past with
  | nil => rfl
  | cons operation rest ih =>
    rw [performAll, performAll, List.foldl_cons, List.foldl_cons, heir_perform]
    exact ih ..

theorem heir_dispatch (s : Sequence) :
    (t.heir past).dispatch s = (t.dispatch s).heir (past.afterAll s.operations) :=
  heir_performAll ..

-- Unread bytes are not looked at and then replaced by what this input leaves.
theorem heir_apply (bytes : List UInt8) :
    (t.heir past).apply bytes =
      (t.apply bytes).heir { past.afterAll (t.asked bytes) with unread := none } := by
  induction t, bytes using apply.induct generalizing past with
  | case1 t bytes scanned =>
    rw [asked_incomplete scanned, apply_incomplete scanned,
      apply_incomplete (t := t.heir past) scanned]
    rfl
  | case2 t bytes fault rest scanned ih =>
    rw [asked_malformed scanned, apply_malformed scanned,
      apply_malformed (t := t.heir past) scanned, ih]
  | case3 t bytes s rest scanned ih =>
    rw [asked_unit scanned, apply_unit scanned, apply_unit (t := t.heir past) scanned,
      heir_dispatch, ih, Past.afterAll, Past.afterAll, Past.afterAll, List.foldl_append]

theorem heir_resize (size : Extent) : (t.heir past).resize size = (t.resize size).heir past := by
  unfold resize
  dsimp only
  rw [heir_cursor, heir_mapBuffer t past (Buffer.relative_advance _), ← heir_marked,
    ← heir_reportWindow]
  rfl

variable {past}

theorem heir_lowered (kept : past.unread = none) :
    { t.heir past with unread := [], changed := false } =
      { t with unread := [], changed := false }.heir { past with changed := false } := by
  simp only [heir, kept, Option.getD_none, Bool.or_false]

theorem heir_unread (kept : past.unread = none) : (t.heir past).unread = t.unread :=
  congrArg (·.getD t.unread) kept

theorem heir_feed (kept : past.unread = none) (bytes : List UInt8) :
    (t.heir past).feed bytes =
      ((t.feed bytes).1, (t.feed bytes).2.heir (past.afterAll (t.askedBy (.feed bytes)))) := by
  have same := past.afterAll_eq (t.askedBy (.feed bytes))
  simp only [feed, heir_lowered t kept, heir_apply, heir_unread t kept, Past.afterAll_with_changed]
  rw [askedBy] at same ⊢
  rw [same]
  simp only [heir, kept, Bool.false_or, Option.getD_none, Bool.or_assoc]

theorem heir_act (kept : past.unread = none) (action : Action) :
    (t.heir past).act action = (t.act action).heir (past.afterAll (t.askedBy action)) := by
  cases action with
  | feed bytes => exact congrArg Prod.snd (heir_feed t kept bytes)
  | resize size => exact heir_resize ..
  | perform operation => exact heir_perform ..
  | dispatch sequence => exact heir_dispatch ..

theorem heir_answer? (kept : past.unread = none) (action : Action) :
    (t.heir past).answer? action = t.answer? action := by
  cases action with
  | feed bytes => exact congrArg (fun fed => some fed.1) (heir_feed t kept bytes)
  | _ => rfl

theorem heir_run (kept : past.unread = none) (actions : List Action) :
    (t.heir past).run actions = (t.run actions).heir (past.afterAll (t.askedByAll actions)) := by
  induction actions generalizing t past with
  | nil => rfl
  | cons action rest ih =>
    have still : (past.afterAll (t.askedBy action)).unread = none := by rw [Past.afterAll_eq, kept]
    rw [run, List.foldl_cons, heir_act t kept]
    refine (ih _ still).trans ?_
    rw [askedByAll, Past.afterAll, Past.afterAll, Past.afterAll, List.foldl_append]
    rfl

theorem heir_answers (kept : past.unread = none) (actions : List Action) :
    (t.heir past).answers actions = t.answers actions := by
  induction actions generalizing t past with
  | nil => rfl
  | cons action rest ih =>
    have still : (past.afterAll (t.askedBy action)).unread = none := by rw [Past.afterAll_eq, kept]
    rw [answers, answers, heir_answer? t kept, heir_act t kept, ih _ still]

end Terminal

end VideoTerminal

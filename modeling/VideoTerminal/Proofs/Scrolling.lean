import Mathlib.Data.List.Chain
import VideoTerminal.Proofs.Margins
import VideoTerminal.Proofs.Mirror

-- The window moves down over what its buffer stores below it. As long as no
-- resize makes the window shorter, nothing is stored there.
namespace VideoTerminal

namespace Buffer

variable {b : Buffer} {rows : Nat}

-- From a row of the window on, every line is as one that was never touched.
def FreshFrom (rows : Nat) (b : Buffer) : Prop := ∀ i, b.topRow + rows ≤ i → b.lineAt i = {}

theorem FreshFrom.mono {more : Nat} (fresh : b.FreshFrom rows) (wider : rows ≤ more) :
    b.FreshFrom more :=
  fun i past => fresh i (by omega)

theorem FreshFrom.modifyLine (fresh : b.FreshFrom rows) {row : Nat} (inside : row < rows)
    (f : Line → Line) : (b.modifyLine (b.topRow + row) f).FreshFrom rows := by
  intro i past
  have beyond : b.topRow + rows ≤ i := past
  rw [lineAt_modifyLine, if_neg (by omega)]
  exact fresh i beyond

theorem FreshFrom.scrollUp (fresh : b.FreshFrom rows) {top bottom : Nat} (order : top ≤ bottom)
    (inside : bottom < rows) :
    ((b.insert (b.topRow + bottom + 1) {}).remove (b.topRow + top)).FreshFrom rows := by
  intro i past
  have beyond : b.topRow + rows ≤ i := past
  rw [lineAt_remove, if_neg (by omega), lineAt_insert, if_neg (by omega)]
  split
  · rfl
  · exact fresh _ beyond

theorem FreshFrom.replace (fresh : b.FreshFrom rows) {gone brought : Nat} (inside : gone < rows)
    (within : brought < rows) :
    ((b.remove (b.topRow + gone)).insert (b.topRow + brought) {}).FreshFrom rows := by
  intro i past
  have beyond : b.topRow + rows ≤ i := past
  rw [lineAt_insert, if_neg (by omega), if_neg (by omega), lineAt_remove, if_neg (by omega)]
  exact fresh _ (by omega)

theorem FreshFrom.advance (fresh : b.FreshFrom rows) (distance : Nat) :
    FreshFrom rows { b with topRow := b.topRow + distance } := by
  intro i past
  have beyond : b.topRow + distance + rows ≤ i := past
  exact fresh i (by omega)

theorem freshFrom_clear (b : Buffer) (rows : Nat) : FreshFrom rows { b with topRow := b.length } :=
  fun _ past => Padded.read_of_length_le (Nat.le_trans (Nat.le_add_right ..) past)

theorem FreshFrom.repeat {edit : Buffer → Buffer} (fresh : b.FreshFrom rows)
    (edits : ∀ b : Buffer, b.FreshFrom rows → (edit b).FreshFrom rows) (count : Nat) :
    (Nat.repeat edit count b).FreshFrom rows := by
  induction count with
  | zero => exact fresh
  | succ count ih => exact edits _ ih

end Buffer

def Operation.descends : Operation → Bool
  | .newLine | .verticalTab | .formFeed | .index | .nextLine => true
  | _ => false

namespace Terminal

def Action.size? : Action → Option Extent
  | .resize size => some size
  | _ => none

structure Fresh (rows : Nat) (t : Terminal) : Prop where
  normal : t.normal.FreshFrom rows
  alternate : t.alternate.FreshFrom rows

-- Nothing is stored below the window in either buffer.
structure Clean (t : Terminal) : Prop extends InGrid t where
  fresh : Fresh t.window.rows t

variable {t u : Terminal} {rows : Nat}

theorem Fresh.of_same (fresh : Fresh rows t) (normal : u.normal = t.normal)
    (alternate : u.alternate = t.alternate) : Fresh rows u :=
  ⟨normal ▸ fresh.normal, alternate ▸ fresh.alternate⟩

theorem Fresh.buffer (fresh : Fresh rows t) : t.buffer.FreshFrom rows := by
  unfold Terminal.buffer
  cases t.active with
  | normal => exact fresh.normal
  | alternate => exact fresh.alternate

theorem Fresh.mapBuffer (fresh : Fresh rows t) {edit : Buffer → Buffer}
    (edits : ∀ b : Buffer, b.FreshFrom rows → (edit b).FreshFrom rows) :
    Fresh rows (t.mapBuffer edit) := by
  unfold Terminal.mapBuffer
  cases t.active with
  | normal => exact ⟨edits _ fresh.normal, fresh.alternate⟩
  | alternate => exact ⟨fresh.normal, edits _ fresh.alternate⟩

theorem Fresh.editLine (fresh : Fresh rows t) {row : Nat} (inside : row < rows)
    (f : Line → Line) : Fresh rows (t.editLine row f) :=
  fresh.mapBuffer fun _ fresh => fresh.modifyLine inside f

theorem Fresh.raiseAll (fresh : Fresh rows t) (events : List Event) :
    Fresh rows (t.raiseAll events) := by
  rw [raiseAll_eq]
  exact fresh.of_same rfl rfl

theorem Fresh.reportCells (fresh : Fresh rows t) (row first last : Nat) :
    Fresh rows (t.reportCells row first last) := by
  unfold Terminal.reportCells
  split
  · exact fresh.raiseAll _
  · exact fresh

theorem Fresh.eraseCells (fresh : Fresh rows t) {row : Nat} (inside : row < rows)
    (first last : Nat) : Fresh rows (t.eraseCells row first last) :=
  ((fresh.editLine inside _).reportCells ..).of_same rfl rfl

theorem Fresh.foldl {step : Terminal → Nat → Terminal} {items : List Nat}
    (steps : ∀ u row, row ∈ items → Fresh rows u → Fresh rows (step u row))
    (fresh : Fresh rows t) : Fresh rows (items.foldl step t) := by
  induction items generalizing t with
  | nil => exact fresh
  | cons row rest ih =>
    have one := steps t row List.mem_cons_self fresh
    exact ih (fun u later found => steps u later (List.mem_cons_of_mem _ found)) one

theorem Fresh.repeat {step : Terminal → Terminal} (steps : ∀ u, Fresh rows u → Fresh rows (step u))
    (fresh : Fresh rows t) (count : Nat) : Fresh rows (Nat.repeat step count t) := by
  induction count with
  | zero => exact fresh
  | succ count ih => exact steps _ ih

theorem Fresh.eraseRows (fresh : Fresh rows t) {first count : Nat} (inside : first + count ≤ rows) :
    Fresh rows (t.eraseRows first count) := by
  refine fresh.foldl fun u row found fresh => fresh.eraseCells ?_ 0 u.page.columns
  have bounds := List.mem_range'_1.mp found
  omega

theorem Fresh.scrollRegionUp (fresh : Fresh rows t) {top bottom : Nat} (order : top ≤ bottom)
    (inside : bottom < rows) : Fresh rows (t.scrollRegionUp top bottom) :=
  ((fresh.mapBuffer fun _ fresh => fresh.scrollUp order inside).raiseAll _).of_same rfl rfl

theorem Fresh.scrollRegionDown (fresh : Fresh rows t) {top bottom : Nat} (order : top ≤ bottom)
    (inside : bottom < rows) : Fresh rows (t.scrollRegionDown top bottom) := by
  have replaced := fresh.mapBuffer fun _ fresh =>
    fresh.replace inside (Nat.lt_of_le_of_lt order inside)
  exact (replaced.raiseAll _).of_same rfl rfl

theorem Fresh.scrollWindow (fresh : Fresh rows t) : Fresh rows t.scrollWindow :=
  (fresh.mapBuffer fun _ fresh => fresh.advance 1).raiseAll _

section Steps

variable (clean : Clean t)

include clean

theorem Clean.advanceRow : Fresh t.window.rows t.advanceRow := by
  have bottom := clean.bottomMargin_lt
  unfold Terminal.advanceRow
  split
  · split
    · exact (clean.fresh.scrollRegionUp t.margins_ordered bottom).of_same rfl rfl
    · exact clean.fresh.of_same rfl rfl
  · split
    · exact clean.fresh.of_same rfl rfl
    · have last : Fresh t.window.rows
          { t with cursor := { t.cursor with row := t.window.rows - 1 } } :=
        clean.fresh.of_same rfl rfl
      exact last.scrollWindow.of_same rfl rfl

theorem Clean.withColumn {column : Nat} (inside : column ≤ t.page.columns) :
    Clean (t.withColumn column) :=
  ⟨withColumn_inGrid clean.toInGrid inside, clean.fresh.of_same rfl rfl⟩

theorem Clean.newLine : Fresh t.window.rows t.newLine := by
  unfold Terminal.newLine
  split
  · exact (clean.withColumn (Nat.zero_le _)).advanceRow
  · exact clean.advanceRow

theorem Clean.reverseIndex : Fresh t.window.rows t.reverseIndex := by
  have bottom := clean.bottomMargin_lt
  unfold Terminal.reverseIndex
  split
  · exact (clean.fresh.scrollRegionDown t.margins_ordered bottom).of_same rfl rfl
  · exact clean.fresh.of_same rfl rfl

theorem Clean.wrapped : Fresh t.window.rows t.wrapped := by
  unfold Terminal.wrapped
  split
  · exact clean.fresh
  · split
    · exact (clean.withColumn (Nat.zero_le _)).newLine
    · exact clean.fresh.of_same rfl rfl

theorem Clean.putCell {cell : Cell} : Fresh t.window.rows (t.putCell cell) := by
  unfold Terminal.putCell
  dsimp only
  split
  · refine Fresh.of_same (Fresh.reportCells ?_ ..) rfl rfl
    exact (clean.fresh.editLine clean.row _).of_same rfl rfl
  · refine Fresh.of_same (Fresh.raiseAll ?_ _) rfl rfl
    exact (clean.fresh.editLine clean.row _).of_same rfl rfl

theorem Clean.putChar (c : Char) : Fresh t.window.rows (t.putChar c) := by
  have window : t.wrapped.window = t.window := (wrapped_travels t).spares.window
  have wrapped : Clean t.wrapped := ⟨wrapped_inGrid clean.toInGrid, window ▸ clean.wrapped⟩
  exact window ▸ wrapped.putCell

theorem Clean.screenAlignmentTest : Fresh t.window.rows t.screenAlignmentTest := by
  have cleared : Fresh t.window.rows { t with cursor := { t.cursor with region := {} } } :=
    clean.fresh.of_same rfl rfl
  have aligns : ∀ u row, row ∈ List.range t.window.rows → Fresh t.window.rows u →
      Fresh t.window.rows (u.alignRow row) := fun _ row found fresh =>
    (fresh.editLine (List.mem_range.mp found) _).reportCells row 0 _
  exact (cleared.foldl aligns).of_same rfl rfl

theorem Clean.setLineSize (size : LineSize) : Fresh t.window.rows (t.setLineSize size) := by
  cases size with
  | screenAlignmentTest => exact clean.screenAlignmentTest
  | _ => exact (clean.fresh.editLine clean.row _).of_same rfl rfl

theorem Clean.eraseBelow : Fresh t.window.rows t.eraseBelow := by
  have row := clean.row
  exact (clean.fresh.eraseCells row ..).eraseRows (by omega)

theorem Clean.eraseAbove : Fresh t.window.rows t.eraseAbove := by
  have row := clean.row
  have above : Fresh t.window.rows (t.eraseRows 0 t.cursor.row) := clean.fresh.eraseRows (by omega)
  have same : (t.eraseRows 0 t.cursor.row).cursor = t.cursor := (eraseRows_draws ..).cursor
  exact above.eraseCells (by rw [same]; exact row) ..

theorem Clean.editCursorLine (f : Line → Line) (first last : Nat) :
    Fresh t.window.rows ((t.editLine t.cursor.row f).reportCells t.cursor.row first last).marked :=
  ((clean.fresh.editLine clean.row f).reportCells ..).of_same rfl rfl

theorem Clean.betweenMargins {edit : Buffer → Buffer}
    (edits : ∀ b : Buffer, b.FreshFrom t.window.rows → (edit b).FreshFrom t.window.rows)
    (count : Nat) : Fresh t.window.rows (t.betweenMargins edit count) := by
  unfold Terminal.betweenMargins
  dsimp only
  split
  · exact clean.fresh
  · have edited := clean.fresh.mapBuffer fun _ fresh =>
      fresh.repeat edits (min count (t.bottomMargin - t.cursor.row + 1))
    have started : Fresh t.window.rows ((t.mapBuffer
        (Nat.repeat edit (min count (t.bottomMargin - t.cursor.row + 1)))).withColumn 0) :=
      edited.of_same rfl rfl
    exact (started.raiseAll _).of_same rfl rfl

theorem Clean.useBuffer (kind : BufferKind) : Fresh t.window.rows (t.useBuffer kind) := by
  have switched : Fresh t.window.rows { t with active := kind } := clean.fresh.of_same rfl rfl
  exact (switched.raiseAll _).of_same rfl rfl

theorem Clean.setScrollRegion (top bottom : Nat) :
    Fresh t.window.rows (t.setScrollRegion top bottom) := by
  rcases setScrollRegion_cases t top bottom with same | ⟨cursor, same⟩ <;> rw [same]
  · exact clean.fresh
  · exact clean.fresh.of_same rfl rfl

theorem Clean.tab : Fresh t.window.rows t.tab := by
  unfold Terminal.tab
  split
  · exact clean.fresh
  · exact clean.fresh.of_same rfl rfl

theorem Clean.set132Columns (on : Bool) : Fresh t.window.rows (t.set132Columns on) := by
  have turned : Fresh t.window.rows
      { t with page := { t.page with columns := if on then 132 else t.window.columns } } :=
    clean.fresh.of_same rfl rfl
  exact (turned.eraseRows (Nat.le_of_eq (Nat.zero_add _))).of_same rfl rfl

theorem Clean.restoreMode (mode : SavableMode) : Fresh t.window.rows (t.restoreMode mode) := by
  unfold Terminal.restoreMode
  split
  · exact clean.fresh
  · cases mode with
    | normalBuffer => exact clean.useBuffer _
    | _ => exact clean.fresh.of_same rfl rfl

theorem Clean.restoreCursor : Fresh t.window.rows t.restoreCursor := by
  unfold Terminal.restoreCursor
  split
  · exact clean.fresh
  · exact clean.fresh.of_same rfl rfl

omit clean in
theorem fullReset_fresh (t : Terminal) (rows : Nat) : Fresh rows t.fullReset := by
  unfold fullReset
  refine Fresh.of_same (Fresh.raiseAll ?_ _) rfl rfl
  exact ⟨Buffer.freshFrom_clear t.normal rows, Buffer.freshFrom_clear t.alternate rows⟩

theorem Clean.performed (operation : Operation) :
    Fresh t.window.rows (t.perform operation) := by
  have order := margins_ordered t
  have bottom := clean.bottomMargin_lt
  have row := clean.row
  cases operation with
  | newLine | verticalTab | formFeed => exact clean.newLine
  | index => exact clean.advanceRow
  | nextLine => exact (clean.withColumn (Nat.zero_le _)).advanceRow
  | reverseIndex => exact clean.reverseIndex
  | restoreCursor => exact clean.restoreCursor
  | putChar c => exact clean.putChar c
  | bell | reportPrimaryAttributes | reportSecondaryAttributes | reportStatus | reportCursor =>
    exact clean.fresh.raiseAll _
  | setTitle title =>
    have titled : Fresh t.window.rows { t with title } := clean.fresh.of_same rfl rfl
    exact titled.raiseAll _
  | setLineSize size => exact clean.setLineSize size
  | screenAlignmentTest => exact clean.screenAlignmentTest
  | useAlternateBuffer | useNormalBuffer => exact clean.useBuffer _
  | setScrollRegion top bottom => exact clean.setScrollRegion top bottom
  | scrollUp count => exact clean.fresh.repeat (fun _ fresh => fresh.scrollRegionUp order bottom) _
  | scrollDown count =>
    exact clean.fresh.repeat (fun _ fresh => fresh.scrollRegionDown order bottom) _
  | eraseToEndOfLine | eraseToStartOfLine | eraseLine | eraseCharacters =>
    exact clean.fresh.eraseCells row ..
  | eraseBelow => exact clean.eraseBelow
  | eraseAbove => exact clean.eraseAbove
  | eraseAll => exact clean.fresh.eraseRows (by omega)
  | deleteCharacters | insertBlanks => exact clean.editCursorLine ..
  | deleteLines count => exact clean.betweenMargins (fun _ fresh => fresh.replace row bottom) count
  | insertLines count => exact clean.betweenMargins (fun _ fresh => fresh.replace bottom row) count
  | tab => exact clean.tab
  | set132Columns on => exact clean.set132Columns on
  | restoreMode mode => exact clean.restoreMode mode
  | fullReset => exact fullReset_fresh t _
  | _ => exact clean.fresh.of_same rfl rfl

-- What is on screen but no longer fits stays stored below the window, so only a
-- window that is at least as tall keeps clean.
theorem Clean.resize {size : Extent} (taller : t.window.rows ≤ size.atLeastOne.rows) :
    Clean (t.resize size) := by
  have moved := clean.fresh.mapBuffer fun _ fresh =>
    fresh.advance (t.cursor.row - min t.cursor.row (size.atLeastOne.rows - 1))
  refine ⟨resize_inGrid t size, ?_⟩
  rw [resize_window]
  unfold Terminal.resize
  refine Fresh.of_same (Fresh.raiseAll ?_ _) rfl rfl
  exact ⟨moved.normal.mono taller, moved.alternate.mono taller⟩

end Steps

theorem new_clean (size : Extent) (identity : Identity) (listening : Bool) :
    Clean (new size identity listening) :=
  ⟨new_inGrid size identity listening,
    ⟨fun _ _ => Padded.read_of_length_le (Nat.zero_le _),
      fun _ _ => Padded.read_of_length_le (Nat.zero_le _)⟩⟩

theorem clean_stable (rows : Nat) : Stable fun t => Clean t ∧ t.window.rows = rows where
  input _ _ _ := fun ⟨clean, height⟩ =>
    ⟨⟨inGrid_stable.input _ _ _ clean.toInGrid, clean.fresh.of_same rfl rfl⟩, height⟩
  perform t operation := fun ⟨clean, height⟩ => by
    have window : (t.perform operation).window = t.window := (perform_steers t operation).window
    refine ⟨⟨perform_inGrid clean.toInGrid operation, ?_⟩, by rw [window]; exact height⟩
    rw [window]
    exact clean.performed operation

def heights (rows : Nat) (sizes : List Extent) : List Nat :=
  rows :: sizes.map fun size => size.atLeastOne.rows

theorem run_chained {P : Terminal → Prop} {R : Nat → Nat → Prop}
    (stable : ∀ rows, Stable fun t => P t ∧ t.window.rows = rows)
    (resized : ∀ t size, P t → R t.window.rows size.atLeastOne.rows → P (t.resize size))
    {actions : List Action} (holds : P t)
    (chained : (heights t.window.rows (actions.filterMap Action.size?)).IsChain R) :
    P (t.run actions) := by
  induction actions generalizing t with
  | nil => exact holds
  | cons action rest ih =>
    have unsized : action.size? = none → P (t.act action) ∧
        (t.act action).window.rows = t.window.rows := by
      intro other
      refine (stable t.window.rows).act ⟨holds, rfl⟩ ?_
      rintro size rfl
      cases other
    cases sized : action.size? with
    | none =>
      obtain ⟨acted, height⟩ := unsized sized
      rw [List.filterMap_cons_none sized, ← height] at chained
      exact ih acted chained
    | some size =>
      cases action with
      | resize next =>
        cases sized
        obtain ⟨next, later⟩ := List.isChain_cons_cons.mp chained
        refine ih (resized t size holds next) ?_
        show (heights (t.resize size).window.rows _).IsChain _
        rw [resize_window]
        exact later
      | _ => cases sized

theorem chained_of_runs {P : Terminal → Prop} {R : Nat → Nat → Prop}
    (broken : ∀ t size, InGrid t → ¬R t.window.rows size.atLeastOne.rows →
      ∃ actions, actions.filterMap Action.size? = [size] ∧ ¬P (t.run actions))
    (grid : InGrid t) {sizes : List Extent}
    (holds : ∀ actions, actions.filterMap Action.size? <+: sizes → P (t.run actions)) :
    (heights t.window.rows sizes).IsChain R := by
  induction sizes generalizing t with
  | nil => exact .singleton _
  | cons size rest ih =>
    have next : R t.window.rows size.atLeastOne.rows := by
      by_contra parted
      obtain ⟨actions, only, fails⟩ := broken t size grid parted
      refine fails (holds actions ?_)
      rw [only]
      exact List.prefix_iff_eq_take.mpr rfl
    have later := ih (t := t.resize size) (resize_inGrid t size) fun actions resizes =>
      holds (.resize size :: actions) ((List.prefix_cons_inj size).mpr resizes)
    rw [resize_window] at later
    exact .cons_cons next later

theorem Clean.run {actions : List Action} (clean : Clean t)
    (rising : (heights t.window.rows (actions.filterMap Action.size?)).IsChain (· ≤ ·)) :
    Clean (t.run actions) :=
  run_chained clean_stable (fun _ _ clean taller => clean.resize taller) clean rising

def lifted (t : Terminal) (entering : Nat → Cell) : View := fun row column =>
  if row + 1 < t.window.rows then t.view (row + 1) column else entering column

def blankRow : Nat → Cell := fun _ => {}

structure AtEnd (t : Terminal) : Prop where
  unset : t.cursor.region.isSet = false
  last : t.cursor.row + 1 = t.window.rows

instance (t : Terminal) : Decidable (AtEnd t) :=
  decidable_of_iff (t.cursor.region.isSet = false ∧ t.cursor.row + 1 = t.window.rows)
    ⟨fun ⟨unset, last⟩ => ⟨unset, last⟩, fun ⟨unset, last⟩ => ⟨unset, last⟩⟩

structure Wraps (t : Terminal) : Prop where
  pending : t.page.columns ≤ t.cursor.column
  wordWrap : t.cursor.wordWrap = true

theorem mapBuffer_view (t : Terminal) (edit : Buffer → Buffer) (row column : Nat) :
    (t.mapBuffer edit).view row column =
      ((edit t.buffer).lineAt ((edit t.buffer).topRow + row)).cellAt column := by
  unfold view visibleCell
  rw [mapBuffer_buffer]

theorem scrollRegionUp_view (t : Terminal) {top bottom : Nat} (order : top ≤ bottom)
    (row column : Nat) :
    (t.scrollRegionUp top bottom).view row column =
      if row < top ∨ bottom < row then t.view row column
      else if row = bottom then {} else t.view (row + 1) column := by
  refine (congrFun (congrFun (raiseAll_view ..) row) column).trans ?_
  rw [mapBuffer_view]
  show Line.cellAt (Buffer.lineAt _ (t.buffer.topRow + row)) column = _
  rw [Buffer.lineAt_remove]
  simp only [Buffer.lineAt_insert]
  by_cases above : row < top
  · rw [if_pos (by omega), if_pos (by omega), if_pos (.inl above)]
    rfl
  · rw [if_neg (by omega)]
    by_cases below : bottom < row
    · rw [if_neg (by omega), if_neg (by omega), if_pos (.inr below), Nat.add_sub_cancel]
      rfl
    · rw [if_neg (by omega : ¬(row < top ∨ bottom < row))]
      by_cases here : row = bottom
      · rw [if_neg (by omega), if_pos (by omega), if_pos here]
        rfl
      · rw [if_pos (by omega), if_neg here]
        rfl

theorem scrollWindow_view (t : Terminal) (row column : Nat) :
    t.scrollWindow.view row column = t.view (row + 1) column := by
  refine (congrFun (congrFun (raiseAll_view ..) row) column).trans ?_
  rw [mapBuffer_view]
  show (t.buffer.lineAt (t.buffer.topRow + 1 + row)).cellAt column = _
  rw [Nat.add_assoc, Nat.add_comm 1 row]
  rfl

theorem scrollWindow_buffer (t : Terminal) :
    t.scrollWindow.buffer = { t.buffer with topRow := t.buffer.topRow + 1 } := by
  unfold scrollWindow reportWindow reportRows raise
  rw [raiseAll_eq]
  exact mapBuffer_buffer ..

theorem scrollRegionUp_whole (tall : 0 < t.window.rows) :
    Mirrors (t.lifted blankRow) (t.scrollRegionUp 0 (t.window.rows - 1)) := by
  intro row column inside _
  have drawn := scrollRegionUp_draws t 0 (t.window.rows - 1)
  rw [drawn.window] at inside
  rw [scrollRegionUp_view t (Nat.zero_le _), if_neg (by omega)]
  unfold lifted
  by_cases last : row + 1 < t.window.rows
  · rw [if_pos last, if_neg (by omega)]
  · rw [if_neg last, if_pos (by omega)]
    rfl

theorem AtEnd.advanceRow_eq (atEnd : AtEnd t) : t.advanceRow = t.scrollWindow.marked := by
  have last := atEnd.last
  unfold Terminal.advanceRow
  rw [atEnd.unset, if_neg (by simp), if_neg (by omega)]
  rw [show t.window.rows - 1 = t.cursor.row by omega]

theorem AtEnd.advanceRow_mirrors (atEnd : AtEnd t) :
    Mirrors (t.lifted (t.view t.window.rows)) t.advanceRow := by
  intro row column inside _
  rw [atEnd.advanceRow_eq] at inside ⊢
  have drawn := (scrollWindow_draws t).trans (marked_draws _)
  rw [drawn.window] at inside
  refine Eq.trans ?_ (scrollWindow_view t row column).symm
  unfold lifted
  by_cases last : row + 1 < t.window.rows
  · rw [if_pos last]
  · rw [if_neg last, show row + 1 = t.window.rows by omega]

theorem AtEnd.withColumn (atEnd : AtEnd t) (column : Nat) : AtEnd (t.withColumn column) :=
  ⟨atEnd.unset, atEnd.last⟩

theorem AtEnd.newLine_mirrors (atEnd : AtEnd t) :
    Mirrors (t.lifted (t.view t.window.rows)) t.newLine := by
  unfold Terminal.newLine
  split
  · exact (atEnd.withColumn 0).advanceRow_mirrors
  · exact atEnd.advanceRow_mirrors

theorem AtEnd.descends (atEnd : AtEnd t) {operation : Operation}
    (descends : operation.descends = true) :
    Mirrors (t.lifted (t.view t.window.rows)) (t.perform operation) := by
  cases operation with
  | newLine | verticalTab | formFeed => exact atEnd.newLine_mirrors
  | index => exact atEnd.advanceRow_mirrors
  | nextLine => exact (atEnd.withColumn 0).advanceRow_mirrors
  | _ => cases descends

theorem newLine_from_start_eq (t : Terminal) :
    (t.withColumn 0).newLine = (t.withColumn 0).advanceRow := by
  unfold newLine
  split <;> rfl

theorem Wraps.wrapped_eq (wraps : Wraps t) : t.wrapped = (t.withColumn 0).advanceRow := by
  unfold Terminal.wrapped
  rw [if_neg (Nat.not_lt_of_le wraps.pending), if_pos wraps.wordWrap, newLine_from_start_eq]

theorem putCell_view_fresh (cell : Cell) (start : t.cursor.column = 0) (wide : 0 < t.page.columns)
    (fresh : t.buffer.lineAt (t.buffer.topRow + t.cursor.row) = {}) (row column : Nat) :
    (t.putCell cell).view row column =
      if row = t.cursor.row ∧ column = 0 then cell else t.view row column := by
  have default : ∀ column, Line.cellAt {} column = {} := fun _ =>
    Padded.read_of_length_le (Nat.zero_le _)
  have written : ∀ f : Line → Line,
      (∀ column, (f {}).cellAt column = if column = 0 then cell else {}) →
      (t.editLine t.cursor.row fun l => (f l).trim t.page.columns).view row column =
        if row = t.cursor.row ∧ column = 0 then cell else t.view row column := by
    intro f first
    rw [editLine_view]
    by_cases here : row = t.cursor.row
    · subst here
      rw [if_pos rfl, fresh, Line.cellAt_trim, first]
      by_cases zero : column = 0
      · subst zero
        rw [if_pos wide, if_pos rfl, if_pos ⟨rfl, rfl⟩]
      · rw [if_neg zero, ite_self, if_neg (fun same => zero same.2)]
        rw [view, visibleCell, fresh, default]
    · rw [if_neg here, if_neg (fun same => here same.1)]
  unfold putCell
  dsimp only
  split
  · refine Eq.trans (congrFun (congrFun (reportCells_view ..) row) column)
      (written (fun l => l.insert t.cursor.column cell) fun column => ?_)
    rw [start, Line.cellAt_insert, if_neg (Nat.not_lt_zero _), default]
  · refine Eq.trans (congrFun (congrFun (raiseAll_view ..) row) column)
      (written (fun l => l.set t.cursor.column cell) fun column => ?_)
    rw [start, Line.cellAt_set, default]

structure BlankEnters (t : Terminal) : Prop where
  descends : AtEnd t → ∀ operation : Operation, operation.descends = true →
    Mirrors (t.lifted blankRow) (t.perform operation)
  wraps : AtEnd t → Wraps t → ∀ c, Mirrors
    (fun row column =>
      if row + 1 = t.window.rows ∧ column = 0 then ⟨t.charsets.glyph c, t.cursor.rendition⟩
      else t.lifted blankRow row column)
    (t.perform (.putChar c))

theorem Clean.below_blank (clean : Clean t) : t.view t.window.rows = blankRow := by
  funext column
  rw [view, visibleCell, clean.fresh.buffer _ (Nat.le_refl _)]
  exact Padded.read_of_length_le (Nat.zero_le _)

theorem AtEnd.wrapped_last (atEnd : AtEnd t) (wraps : Wraps t) (clean : Clean t) :
    t.wrapped.buffer.lineAt (t.wrapped.buffer.topRow + t.cursor.row) = {} := by
  have last := atEnd.last
  have moved : t.wrapped.buffer = { t.buffer with topRow := t.buffer.topRow + 1 } := by
    rw [wraps.wrapped_eq, (atEnd.withColumn 0).advanceRow_eq]
    exact scrollWindow_buffer _
  rw [moved]
  refine clean.fresh.buffer _ ?_
  show t.buffer.topRow + t.window.rows ≤ t.buffer.topRow + 1 + t.cursor.row
  omega

theorem Clean.blankEnters (clean : Clean t) : BlankEnters t := by
  refine ⟨fun atEnd operation descends => ?_, fun atEnd wraps c row column inside wide => ?_⟩
  · rw [← clean.below_blank]
    exact atEnd.descends descends
  · have last := atEnd.last
    have scrolled := (atEnd.withColumn 0).advanceRow_mirrors
    rw [← wraps.wrapped_eq] at scrolled
    have spared := (wrapped_travels t).spares
    have cursor : t.wrapped.cursor = (t.withColumn 0).cursor := by
      rw [wraps.wrapped_eq, (atEnd.withColumn 0).advanceRow_eq]
      exact (scrollWindow_draws _).cursor
    have row_eq : t.wrapped.cursor.row = t.cursor.row := by rw [cursor]; rfl
    have start : t.wrapped.cursor.column = 0 := by rw [cursor]; rfl
    have fresh := atEnd.wrapped_last wraps clean
    rw [(perform_steers t (.putChar c)).window] at inside wide
    rw [← row_eq] at fresh
    have written := putCell_view_fresh ⟨t.charsets.glyph c, t.cursor.rendition⟩ start
      (spared.page ▸ clean.page_wide) fresh row column
    refine Eq.trans ?_ written.symm
    dsimp only
    rw [row_eq]
    by_cases first : row = t.cursor.row ∧ column = 0
    · rw [if_pos first, if_pos ⟨by omega, first.2⟩]
    · rw [if_neg first, if_neg (fun same => first ⟨by omega, same.2⟩), ← clean.below_blank]
      exact scrolled row column (spared.window ▸ inside) (spared.window ▸ wide)

theorem alignRow_view (t : Terminal) (edited row column : Nat) :
    (t.alignRow edited).view row column =
      if row = edited then if column < t.page.columns then ⟨'E', {}⟩ else {}
      else t.view row column := by
  have reported : (t.alignRow edited).view =
      (t.editLine edited fun _ => Line.filled ⟨'E', {}⟩ t.page.columns).view := by
    unfold alignRow reportCells
    split
    · exact raiseAll_view ..
    · rfl
  rw [reported, editLine_view]
  split
  · simp only [Line.cellAt, Line.filled, Padded.read_eq, List.getElem?_replicate]
    split <;> rfl
  · rfl

theorem alignRows_view (t : Terminal) (edited : List Nat) (row : Nat) {column : Nat}
    (inPage : column < t.page.columns) :
    (edited.foldl alignRow t).view row column =
      if row ∈ edited then ⟨'E', {}⟩ else t.view row column := by
  induction edited generalizing t with
  | nil => simp
  | cons first rest ih =>
    have drawn := alignRow_draws t first
    rw [List.foldl_cons, ih _ (by rw [drawn.page]; exact inPage), alignRow_view, if_pos inPage]
    by_cases here : row = first <;> simp [here]

theorem screenAlignmentTest_view (t : Terminal) {row column : Nat} (inside : row < t.window.rows)
    (inPage : column < t.page.columns) : t.screenAlignmentTest.view row column = ⟨'E', {}⟩ := by
  have aligned := alignRows_view { t with cursor := { t.cursor with region := {} } }
    (List.range t.window.rows) row inPage
  rw [if_pos (List.mem_range.mpr inside)] at aligned
  exact aligned

theorem resize_view (first : t.cursor.row = 0) (size : Extent) : (t.resize size).view = t.view := by
  unfold resize
  dsimp only
  refine (raiseAll_view ..).trans ?_
  funext row column
  refine (mapBuffer_view t (fun b =>
    { b with topRow := b.topRow + (t.cursor.row - min t.cursor.row (size.atLeastOne.rows - 1)) })
    row column).trans ?_
  rw [first, Nat.zero_sub]
  rfl

def stale (size : Extent) : List Action :=
  [.perform .screenAlignmentTest, .resize size, .perform (.setCursorPosition 1 size.rows)]

theorem stale_start (t : Terminal) (size : Extent) :
    AtEnd (t.run (stale size)) ∧ (t.run (stale size)).window = size.atLeastOne ∧
      (t.run (stale size)).view = t.screenAlignmentTest.view := by
  have ran : t.run (stale size) =
      (t.screenAlignmentTest.resize size).setCursorPosition 1 size.rows := rfl
  have first : t.screenAlignmentTest.cursor.row = 0 := rfl
  have refitted := resize_refitted t.screenAlignmentTest size
  have window := resize_window t.screenAlignmentTest size
  have view := resize_view first size
  have cleared : t.screenAlignmentTest.cursor.region = {} := by
    have drawn := foldl_draws alignRow_draws (List.range t.window.rows)
      { t with cursor := { t.cursor with region := {} } }
    exact congrArg Cursor.region drawn.cursor
  have whole : (t.screenAlignmentTest.resize size).cursor.region = {} := by
    rcases refitted.region_cases with same | same
    · exact same.trans cleared
    · exact same
  rw [ran]
  generalize t.screenAlignmentTest.resize size = u at whole window view
  have last : u.addressedRow size.rows = size.atLeastOne.rows - 1 := by
    unfold addressedRow originRow topMargin bottomMargin
    rw [whole, window, ite_self]
    show max (min 0 _) (min (0 + (size.rows - 1)) (max 1 size.rows - 1)) = max 1 size.rows - 1
    omega
  refine ⟨⟨?_, ?_⟩, window, view⟩
  · show u.cursor.region.isSet = false
    rw [whole]
    rfl
  · have tall : 0 < size.atLeastOne.rows := Nat.le_max_left ..
    show u.addressedRow size.rows + 1 = u.window.rows
    rw [last, window]
    omega

theorem stale_enters (grid : InGrid t) {size : Extent}
    (shorter : size.atLeastOne.rows < t.window.rows) : ¬BlankEnters (t.run (stale size)) := by
  intro enters
  obtain ⟨atEnd, window, view⟩ := stale_start t size
  have wide : 0 < size.atLeastOne.columns := Nat.le_max_left ..
  have tall : 0 < size.atLeastOne.rows := Nat.le_max_left ..
  have inside : size.atLeastOne.rows - 1 < (t.run (stale size)).advanceRow.window.rows := by
    rw [(advanceRow_steers _).window, window]
    omega
  have within : 0 < (t.run (stale size)).advanceRow.window.columns := by
    rw [(advanceRow_steers _).window, window]
    exact wide
  have blank := enters.descends atEnd .index rfl _ 0 inside within
  have stored := atEnd.advanceRow_mirrors _ 0 inside within
  have letter := screenAlignmentTest_view t shorter grid.page_wide
  have past : ¬size.atLeastOne.rows - 1 + 1 < size.atLeastOne.rows := by omega
  simp only [lifted, window, if_neg past] at blank stored
  rw [view, letter] at stored
  have same : (⟨'E', {}⟩ : Cell) = {} := stored.trans blank.symm
  cases same

theorem blankEnters_iff (clean : Clean t) (sizes : List Extent) :
    (∀ actions, actions.filterMap Action.size? <+: sizes → BlankEnters (t.run actions)) ↔
      (heights t.window.rows sizes).IsChain (· ≤ ·) := by
  constructor
  · refine chained_of_runs (fun t size grid parted => ⟨stale size, rfl, ?_⟩) clean.toInGrid
    exact stale_enters grid (Nat.lt_of_not_le parted)
  · intro rising actions resizes
    refine (clean.run ?_).blankEnters
    refine List.IsChain.prefix rising ?_
    exact (List.prefix_cons_inj _).mpr (resizes.map _)

-- Moving the window brings in the row that the buffer stores below it, while
-- the same scroll inside a region brings in a blank one. The two agree in every
-- run whose resizes never make the window shorter, and not in all other runs.
theorem entering_row (size : Extent) (sizes : List Extent) :
    (∀ t, Reached t → Mirrors (t.lifted blankRow) (t.scrollRegionUp 0 (t.window.rows - 1)) ∧
      (AtEnd t → ∀ operation : Operation, operation.descends = true →
        Mirrors (t.lifted (t.view t.window.rows)) (t.perform operation)) ∧
      (AtEnd t → Wraps t → Mirrors (t.lifted (t.view t.window.rows)) t.wrapped)) ∧
    ((∀ identity listening actions, actions.filterMap Action.size? <+: sizes →
      BlankEnters ((new size identity listening).run actions)) ↔
        (heights size.atLeastOne.rows sizes).IsChain (· ≤ ·)) := by
  refine ⟨fun t reached => ⟨scrollRegionUp_whole reached.inGrid.tall, ?_, ?_⟩, fun enters => ?_,
    fun rising identity listening => ?_⟩
  · exact fun atEnd _ descends => atEnd.descends descends
  · intro atEnd wraps
    rw [wraps.wrapped_eq]
    exact (atEnd.withColumn 0).advanceRow_mirrors
  · exact (blankEnters_iff (new_clean size {} false) sizes).mp (enters {} false)
  · exact (blankEnters_iff (new_clean size identity listening) sizes).mpr rising

theorem stale_row_entered :
    let t := (new ⟨1, 2⟩ {} false).run [.feed (Utf8.encodeString "\x1b#8"), .resize ⟨1, 1⟩]
    AtEnd t ∧ (t.feed (Utf8.encodeString "\n")).2.view 0 0 = ⟨'E', {}⟩ := by
  decide +kernel

end Terminal

end VideoTerminal

import VideoTerminal.Proofs.Strict.Edit

-- Operations made of partial steps: every subtraction that is not meant to stop
-- at zero, every access to a stored line, cell, tab stop or graphic set, every
-- clamping and every change between signed and unsigned can fail. Subtractions
-- that do stop at zero, assignments and events cannot.
namespace VideoTerminal.Strict
open Terminal

variable {t : Terminal}

def away (base : Nat) (distance : Int) : Option Nat :=
  if distance < 0 then some (base - distance.natAbs)
  else do
    let steps ← unsigned distance
    return base + steps

def moved (base : Nat) (distance : Int) (least most : Nat) : Option Nat := do
  let target ← away base distance
  clamp target least most

def moveCursor (t : Terminal) (right down : Int) : Option Terminal := do
  let last ← lastColumn t
  let row ← moved t.cursor.row down t.topMargin t.bottomMargin
  let column ← moved (min t.cursor.column last) right 0 last
  return { t with cursor := { t.cursor with row, column } }.marked

theorem away_eq (base : Nat) (distance : Int) :
    away base distance = some ((base : Int) + distance).toNat := by
  unfold away
  by_cases back : distance < 0
  · rw [if_pos back, show ((base : Int) + distance).toNat = base - distance.natAbs by omega]
  · rw [if_neg back, unsigned_eq (by omega),
      show ((base : Int) + distance).toNat = base + distance.toNat by omega]
    rfl

theorem moved_eq (base : Nat) (distance : Int) {least most : Nat} (order : least ≤ most) :
    moved base distance least most = some (Terminal.moved base distance least most) := by
  rw [moved, away_eq]
  exact clamp_eq order

theorem moveCursor_eq (sized : Sized t) (right down : Int) :
    moveCursor t right down = some (t.moveCursor right down) := by
  rw [moveCursor, lastColumn_eq sized, moved_eq _ _ (margins_ordered t), Option.bind_eq_bind,
    Option.bind_some, moved_eq _ _ (Nat.zero_le _)]
  rfl

def addressedRow (t : Terminal) (row : Nat) : Option Nat :=
  clamp (t.originRow + (row - 1)) t.topMargin t.bottomMargin

def addressedColumn (t : Terminal) (column : Nat) : Option Nat := do
  let last ← lastColumn t
  return min (column - 1) last

def setCursorPosition (t : Terminal) (column row : Nat) : Option Terminal := do
  let row ← addressedRow t row
  let column ← addressedColumn t column
  return { t with cursor := { t.cursor with row, column } }.marked

def setCursorColumn (t : Terminal) (column : Nat) : Option Terminal := do
  let column ← addressedColumn t column
  return { t with cursor := { t.cursor with column } }.marked

def setCursorRow (t : Terminal) (row : Nat) : Option Terminal := do
  let row ← addressedRow t row
  return { t with cursor := { t.cursor with row } }.marked

theorem addressedRow_eq (t : Terminal) (row : Nat) :
    addressedRow t row = some (t.addressedRow row) := clamp_eq (margins_ordered t)

theorem addressedColumn_eq (sized : Sized t) (column : Nat) :
    addressedColumn t column = some (t.addressedColumn column) := by
  rw [addressedColumn, lastColumn_eq sized]; rfl

theorem setCursorPosition_eq (sized : Sized t) (column row : Nat) :
    setCursorPosition t column row = some (t.setCursorPosition column row) := by
  rw [setCursorPosition, addressedRow_eq, addressedColumn_eq sized]; rfl

theorem setCursorColumn_eq (sized : Sized t) (column : Nat) :
    setCursorColumn t column = some (t.setCursorColumn column) := by
  rw [setCursorColumn, addressedColumn_eq sized]; rfl

theorem setCursorRow_eq (t : Terminal) (row : Nat) :
    setCursorRow t row = some (t.setCursorRow row) := by
  rw [setCursorRow, addressedRow_eq]; rfl

def newLine (t : Terminal) : Option Terminal :=
  advanceRow (if t.automaticNewLine then t.withColumn 0 else t)

def reverseIndex (t : Terminal) : Option Terminal :=
  if t.cursor.row ≤ t.topMargin then do
    let scrolled ← scrollRegionDown t t.topMargin t.bottomMargin
    return { scrolled with cursor := { t.cursor with row := t.topMargin } }.marked
  else do
    let row ← sub t.cursor.row 1
    return { t with cursor := { t.cursor with row } }.marked

def backspace (t : Terminal) : Option Terminal := do
  let last ← lastColumn t
  return (t.withColumn (min t.cursor.column last - 1)).marked

def restoreCursor (t : Terminal) : Option Terminal :=
  match t.savedCursor with
  | none => some t
  | some saved => do
    let last ← sub t.window.rows 1
    return { t with cursor :=
        { saved with
          row := min saved.row last
          column := min saved.column t.page.columns } }.marked

theorem newLine_eq (sized : Sized t) : newLine t = some t.newLine := by
  unfold newLine Terminal.newLine
  split
  · exact advanceRow_eq (sized.of_extents rfl rfl)
  · exact advanceRow_eq sized

theorem reverseIndex_eq (t : Terminal) : reverseIndex t = some t.reverseIndex := by
  unfold reverseIndex Terminal.reverseIndex
  by_cases top : t.cursor.row ≤ t.topMargin
  · rw [if_pos top, if_pos top, scrollRegionDown_eq]; rfl
  · rw [if_neg top, if_neg top, sub_eq (by omega)]; rfl

theorem backspace_eq (sized : Sized t) : backspace t = some t.backspace := by
  rw [backspace, lastColumn_eq sized]; rfl

theorem restoreCursor_eq (sized : Sized t) : restoreCursor t = some t.restoreCursor := by
  unfold restoreCursor Terminal.restoreCursor
  cases t.savedCursor with
  | none => rfl
  | some saved => rw [sub_one_eq sized.tall]; rfl

def slots (c : Charsets) : List CharacterSet := [c.g0, c.g1, c.g2, c.g3]

def glyph (c : Charsets) (character : Char) : Option Char := do
  let set ← index (slots c) (if c.shiftedOut then 1 else 0)
  return set.glyph character

def designate (c : Charsets) (slot : Slot) (set : CharacterSet) : Option Charsets := do
  let _ ← index (slots c) slot.index
  return c.designate slot set

theorem glyph_eq (c : Charsets) (character : Char) :
    glyph c character = some (c.glyph character) := by
  unfold glyph Charsets.glyph
  cases c.shiftedOut <;> rfl

theorem designate_eq (c : Charsets) (slot : Slot) (set : CharacterSet) :
    designate c slot set = some (c.designate slot set) := by
  cases slot <;> rfl

def wrapped (t : Terminal) : Option Terminal :=
  if t.page.columns ≤ t.cursor.column then
    if t.cursor.wordWrap then newLine (t.withColumn 0)
    else do
      let last ← lastColumn t
      return t.withColumn last
  else some t

def putCell (t : Terminal) (cell : Cell) : Option Terminal := do
  let row := t.cursor.row
  let column := t.cursor.column
  if t.cursor.insertMode then
    let edited ← editLine t row fun l => do
      let longer ← insertCell l column cell
      return longer.trim t.page.columns
    return ((edited.withColumn (column + 1)).reportCells row column t.page.columns).marked
  else
    let edited ← editLine t row fun l => do
      let written ← setCell l column cell
      return written.trim t.page.columns
    return ((edited.withColumn (column + 1)).raise (.cellChanged row column cell)).marked

def putChar (t : Terminal) (c : Char) : Option Terminal := do
  let shown ← glyph t.charsets c
  let ready ← wrapped t
  putCell ready ⟨shown, t.cursor.rendition⟩

theorem wrapped_eq (sized : Sized t) : wrapped t = some t.wrapped := by
  unfold wrapped Terminal.wrapped
  by_cases room : t.cursor.column < t.page.columns
  · rw [if_pos room, if_neg (Nat.not_le.mpr room)]
  · rw [if_neg room, if_pos (Nat.le_of_not_lt room)]
    by_cases wraps : t.cursor.wordWrap
    · rw [if_pos wraps, if_pos wraps]
      exact newLine_eq (sized.of_extents rfl rfl)
    · rw [if_neg wraps, if_neg wraps, lastColumn_eq sized]; rfl

theorem putCell_eq (t : Terminal) (cell : Cell) : putCell t cell = some (t.putCell cell) := by
  unfold putCell Terminal.putCell
  dsimp only
  by_cases inserts : t.cursor.insertMode
  · have page := (editLine_draws t t.cursor.row fun l =>
      (l.insert t.cursor.column cell).trim t.page.columns).page
    rw [if_pos inserts, if_pos inserts, page, editLine_eq t t.cursor.row
      (f := fun l => (l.insert t.cursor.column cell).trim t.page.columns)]
    · rfl
    · intro l; rw [insertCell_eq]; rfl
  · rw [if_neg inserts, if_neg inserts, editLine_eq t t.cursor.row
      (f := fun l => (l.set t.cursor.column cell).trim t.page.columns)]
    · rfl
    · intro l; rw [setCell_eq]; rfl

theorem putChar_eq (sized : Sized t) (c : Char) : putChar t c = some (t.putChar c) := by
  rw [putChar, glyph_eq, wrapped_eq sized]
  exact putCell_eq ..

def selectCode (r : Rendition) (code : Nat) : Option Rendition :=
  if 30 ≤ code ∧ code ≤ 37 then do
    let color ← sub code 30
    return { r with foreground := (Color.ofIndex? color).getD r.foreground }
  else if 40 ≤ code ∧ code ≤ 47 then do
    let color ← sub code 40
    return { r with background := (Color.ofIndex? color).getD r.background }
  else some (r.select code)

def selectRendition (t : Terminal) (code : Nat) : Option Terminal := do
  let rendition ← selectCode t.cursor.rendition code
  return { t with cursor := { t.cursor with rendition } }

theorem selectCode_eq (r : Rendition) (code : Nat) : selectCode r code = some (r.select code) := by
  unfold selectCode
  split
  · rename_i foreground
    obtain rfl | rfl | rfl | rfl | rfl | rfl | rfl | rfl : code = 30 ∨ code = 31 ∨ code = 32 ∨
        code = 33 ∨ code = 34 ∨ code = 35 ∨ code = 36 ∨ code = 37 := by omega
    all_goals rfl
  · split
    · rename_i background
      obtain rfl | rfl | rfl | rfl | rfl | rfl | rfl | rfl : code = 40 ∨ code = 41 ∨ code = 42 ∨
          code = 43 ∨ code = 44 ∨ code = 45 ∨ code = 46 ∨ code = 47 := by omega
      all_goals rfl
    · rfl

theorem selectRendition_eq (t : Terminal) (code : Nat) :
    selectRendition t code = some (t.selectRendition code) := by
  rw [selectRendition, selectCode_eq]; rfl

def alignRow (t : Terminal) (row : Nat) : Option Terminal := do
  let filled ← editLine t row fun _ => some (Line.filled ⟨'E', {}⟩ t.page.columns)
  return filled.reportCells row 0 t.page.columns

def screenAlignmentTest (t : Terminal) : Option Terminal := do
  let cleared := { t with cursor := { t.cursor with region := {} } }
  let filled ← (span 0 t.window.rows).foldlM alignRow cleared
  return { filled with cursor := { filled.cursor with row := 0, column := 0 } }.marked

def sizeLine (t : Terminal) (edit : Line → Line) : Option Terminal := do
  let edited ← editLine t t.cursor.row fun l => some (edit l)
  return edited.marked

def setLineSize (t : Terminal) (size : LineSize) : Option Terminal :=
  match size with
  | .screenAlignmentTest => screenAlignmentTest t
  | .singleWidth => sizeLine t Line.clearSize
  | .doubleWidth => sizeLine t fun l => { l.clearSize with doubleWidth := true }
  | .doubleHeightTop => sizeLine t fun l => { l.clearSize with doubleHeightTop := true }
  | .doubleHeightBottom => sizeLine t fun l => { l.clearSize with doubleHeightBottom := true }

theorem alignRow_eq (t : Terminal) (row : Nat) : alignRow t row = some (t.alignRow row) := by
  rw [alignRow, editLine_eq t row (fun _ => rfl)]; rfl

theorem screenAlignmentTest_eq (t : Terminal) :
    screenAlignmentTest t = some t.screenAlignmentTest := by
  rw [screenAlignmentTest, foldlM_eq (P := fun _ => True) (fun _ _ _ => alignRow_eq ..)
    (fun _ _ _ => trivial) _ trivial, span, Nat.sub_zero, ← List.range_eq_range']
  rfl

theorem sizeLine_eq (t : Terminal) (edit : Line → Line) :
    sizeLine t edit = some (t.editLine t.cursor.row edit).marked := by
  rw [sizeLine, editLine_eq t t.cursor.row (fun _ => rfl)]; rfl

theorem setLineSize_eq (t : Terminal) (size : LineSize) :
    setLineSize t size = some (t.setLineSize size) := by
  cases size with
  | screenAlignmentTest => exact screenAlignmentTest_eq t
  | _ => exact sizeLine_eq ..

def useBuffer (t : Terminal) (kind : BufferKind) : Option Terminal := do
  let switched ← reportWindow { t with active := kind }
  return switched.marked

def clearScrollRegion (t : Terminal) : Option Terminal := do
  let cleared ← home { t with cursor := { t.cursor with region := {} } }
  return cleared.marked

def setScrollRegion (t : Terminal) (top bottom : Nat) : Option Terminal := do
  let last ← sub t.window.rows 1
  let top := top - 1
  let bottom := if bottom = 0 then last else min (bottom - 1) last
  if bottom ≤ top then return t
  else
    let region : ScrollRegion := ⟨top, if bottom < last then some bottom else none⟩
    let homed ← home { t with cursor := { t.cursor with region } }
    return homed.marked

def scrollUp (t : Terminal) (count : Nat) : Option Terminal := do
  let below ← sub t.bottomMargin t.topMargin
  times (fun u => scrollRegionUp u t.topMargin t.bottomMargin) (min count (below + 1)) t

def scrollDown (t : Terminal) (count : Nat) : Option Terminal := do
  let below ← sub t.bottomMargin t.topMargin
  times (fun u => scrollRegionDown u t.topMargin t.bottomMargin) (min count (below + 1)) t

theorem useBuffer_eq (sized : Sized t) (kind : BufferKind) :
    useBuffer t kind = some (t.useBuffer kind) := by
  have tall : 0 < { t with active := kind }.window.rows := sized.tall
  rw [useBuffer, reportWindow_eq tall]; rfl

theorem clearScrollRegion_eq (t : Terminal) : clearScrollRegion t = some t.clearScrollRegion := by
  rw [clearScrollRegion, home_eq]; rfl

theorem setScrollRegion_eq (sized : Sized t) (top bottom : Nat) :
    setScrollRegion t top bottom = some (t.setScrollRegion top bottom) := by
  rw [setScrollRegion, sub_one_eq sized.tall, Option.bind_eq_bind, Option.bind_some,
    Terminal.setScrollRegion]
  dsimp only
  generalize (if bottom = 0 then t.window.rows - 1 else min (bottom - 1) (t.window.rows - 1)) = low
  split
  · rfl
  · rw [home_eq]; rfl

theorem scrollUp_eq (t : Terminal) (count : Nat) : scrollUp t count = some (t.scrollUp count) := by
  rw [scrollUp, sub_eq (margins_ordered t)]
  exact times_eq (fun u => scrollRegionUp_eq u ..) _ t

theorem scrollDown_eq (t : Terminal) (count : Nat) :
    scrollDown t count = some (t.scrollDown count) := by
  rw [scrollDown, sub_eq (margins_ordered t)]
  exact times_eq (fun u => scrollRegionDown_eq u ..) _ t

def eraseToEndOfLine (t : Terminal) : Option Terminal :=
  eraseCells t t.cursor.row t.cursor.column t.page.columns

def eraseToStartOfLine (t : Terminal) : Option Terminal := do
  let last ← lastColumn t
  eraseCells t t.cursor.row 0 (min t.cursor.column last + 1)

def eraseBelow (t : Terminal) : Option Terminal := do
  let erased ← eraseToEndOfLine t
  eraseRows erased (t.cursor.row + 1) t.window.rows

def eraseAbove (t : Terminal) : Option Terminal := do
  let erased ← eraseRows t 0 t.cursor.row
  eraseToStartOfLine erased

def eraseAll (t : Terminal) : Option Terminal := eraseRows t 0 t.window.rows

theorem eraseToStartOfLine_eq (sized : Sized t) :
    eraseToStartOfLine t = some t.eraseToStartOfLine := by
  rw [eraseToStartOfLine, lastColumn_eq sized]
  exact eraseCells_eq ..

theorem eraseBelow_eq (t : Terminal) : eraseBelow t = some t.eraseBelow := by
  rw [eraseBelow, eraseToEndOfLine, eraseCells_eq]
  exact eraseRows_eq ..

theorem eraseAbove_eq (sized : Sized t) : eraseAbove t = some t.eraseAbove := by
  have drawn := eraseRows_draws t 0 t.cursor.row
  rw [eraseAbove, eraseRows_eq]
  exact eraseToStartOfLine_eq (sized.of_extents drawn.window drawn.page)

theorem eraseAll_eq (t : Terminal) : eraseAll t = some t.eraseAll := eraseRows_eq ..

def editRest (t : Terminal) (step : Nat → Line → Option Line) (count : Nat) : Option Terminal := do
  let last ← lastColumn t
  let column := min t.cursor.column last
  let room ← sub t.page.columns column
  let edited ← editLine t t.cursor.row fun l => do
    let stepped ← times (step column) (min count room) l
    return stepped.trim t.page.columns
  return (edited.reportCells t.cursor.row column t.page.columns).marked

def deleteCharacters (t : Terminal) (count : Nat) : Option Terminal :=
  editRest t (fun column l => removeCell l column) count

def insertBlanks (t : Terminal) (count : Nat) : Option Terminal :=
  editRest t (fun column l => insertCell l column (Cell.blank t.cursor.rendition)) count

theorem editRest_eq (sized : Sized t) {step : Nat → Line → Option Line}
    {steps : Nat → Nat → Line → Line}
    (repeats : ∀ column count l, times (step column) count l = some (steps column count l))
    (count : Nat) :
    editRest t step count =
      let column := min t.cursor.column t.lastColumn
      let edit (l : Line) :=
        (steps column (min count (t.page.columns - column)) l).trim t.page.columns
      let edited := t.editLine t.cursor.row edit
      some (edited.reportCells t.cursor.row column t.page.columns).marked := by
  have inside := sized.column_le t.cursor.column
  rw [editRest, lastColumn_eq sized, Option.bind_eq_bind, Option.bind_some]
  dsimp only
  rw [sub_eq inside, Option.bind_some, editLine_eq t t.cursor.row (fun l => by rw [repeats]; rfl)]
  rfl

theorem deleteCharacters_eq (sized : Sized t) (count : Nat) :
    deleteCharacters t count = some (t.deleteCharacters count) :=
  editRest_eq sized (fun column count l => times_removeCell l column count) count

theorem insertBlanks_eq (sized : Sized t) (count : Nat) :
    insertBlanks t count = some (t.insertBlanks count) :=
  editRest_eq sized (fun column count l => times_insertCell l column count _) count

def betweenMargins (t : Terminal) (edit : Buffer → Option Buffer) (count : Nat) :
    Option Terminal :=
  if t.cursor.row < t.topMargin ∨ t.bottomMargin < t.cursor.row then some t
  else do
    let below ← sub t.bottomMargin t.cursor.row
    let edited ← onBuffer t (times edit (min count (below + 1)))
    return ((edited.withColumn 0).reportRows t.cursor.row t.bottomMargin).marked

def replaceRow (gone fresh : Nat) (b : Buffer) : Option Buffer := do
  let shorter ← removeRow b (b.topRow + gone)
  insertRow shorter (b.topRow + fresh) {}

def deleteLines (t : Terminal) (count : Nat) : Option Terminal :=
  betweenMargins t (replaceRow t.cursor.row t.bottomMargin) count

def insertLines (t : Terminal) (count : Nat) : Option Terminal :=
  betweenMargins t (replaceRow t.bottomMargin t.cursor.row) count

theorem replaceRow_eq (gone fresh : Nat) (b : Buffer) :
    replaceRow gone fresh b = some ((b.remove (b.topRow + gone)).insert (b.topRow + fresh) {}) := by
  rw [replaceRow, removeRow_eq]
  exact insertRow_eq ..

theorem betweenMargins_eq (t : Terminal) {edit : Buffer → Option Buffer} {f : Buffer → Buffer}
    (edits : ∀ b, edit b = some (f b)) (count : Nat) :
    betweenMargins t edit count = some (t.betweenMargins f count) := by
  unfold betweenMargins Terminal.betweenMargins
  dsimp only
  by_cases outside : t.cursor.row < t.topMargin ∨ t.bottomMargin < t.cursor.row
  · rw [if_pos outside, if_pos outside]
  · rw [if_neg outside, if_neg outside, sub_eq (by omega), Option.bind_eq_bind, Option.bind_some,
      onBuffer_eq t (times_eq edits _)]
    rfl

theorem deleteLines_eq (t : Terminal) (count : Nat) :
    deleteLines t count = some (t.deleteLines count) :=
  betweenMargins_eq t (replaceRow_eq _ _) count

theorem insertLines_eq (t : Terminal) (count : Nat) :
    insertLines t count = some (t.insertLines count) :=
  betweenMargins_eq t (replaceRow_eq _ _) count

def search (column : Nat) (stops : TabStops) : Option (Except Nat Nat) :=
  let place := (stops.takeWhile (· < column)).length
  if stops.Pairwise (· < ·) then
    some (if stops[place]? = some column then .ok place else .error place)
  else none

def setTab (t : Terminal) : Option Terminal := do
  match ← search t.cursor.column t.cursor.tabStops with
  | .ok _ => return t
  | .error place =>
    let stops ← insertAt place t.cursor.column t.cursor.tabStops
    return t.withTabStops stops

def tab (t : Terminal) : Option Terminal :=
  match TabStops.next? t.cursor.column t.cursor.tabStops with
  | none => some t
  | some stop => do
    let last ← lastColumn t
    return (t.withColumn (min stop last)).marked

theorem insert_at_place (column : Nat) (stops : TabStops) :
    TabStops.insert column stops =
      let place := (stops.takeWhile (· < column)).length
      if stops[place]? = some column then stops else stops.insertIdx place column := by
  induction stops with
  | nil => rfl
  | cons stop rest ih =>
    rw [TabStops.insert, List.takeWhile_cons]
    by_cases before : stop < column
    · have different : ¬column = stop := by omega
      rw [if_neg (by omega), if_neg different, ih]
      simp only [before, decide_true, if_true, List.length_cons, List.getElem?_cons_succ,
        List.insertIdx_succ_cons]
      split <;> rfl
    · by_cases same : column = stop
      · subst same; simp
      · have after : column < stop := by omega
        simp [after, before, Ne.symm same]

theorem setTab_eq (ascending : t.cursor.tabStops.Pairwise (· < ·)) : setTab t = some t.setTab := by
  have room : (t.cursor.tabStops.takeWhile (· < t.cursor.column)).length ≤
      t.cursor.tabStops.length := (List.takeWhile_sublist _).length_le
  rw [setTab, search, if_pos ascending, Terminal.setTab, insert_at_place, Option.bind_eq_bind,
    Option.bind_some]
  dsimp only
  by_cases found :
      t.cursor.tabStops[(t.cursor.tabStops.takeWhile (· < t.cursor.column)).length]? =
        some t.cursor.column
  · rw [if_pos found, if_pos found]; rfl
  · rw [if_neg found, if_neg found]
    dsimp only
    rw [insertAt, if_pos room]; rfl

theorem tab_eq (sized : Sized t) : tab t = some t.tab := by
  unfold tab Terminal.tab
  cases TabStops.next? t.cursor.column t.cursor.tabStops with
  | none => rfl
  | some stop => rw [lastColumn_eq sized]; rfl

def set132Columns (t : Terminal) (on : Bool) : Option Terminal := do
  let erased ← eraseAll
    { t with page := { t.page with columns := if on then 132 else t.window.columns } }
  home erased

def setOriginMode (t : Terminal) (on : Bool) : Option Terminal := do
  let homed ← home { t with cursor := { t.cursor with originMode := on } }
  return homed.marked

def restoreMode (t : Terminal) (mode : SavableMode) : Option Terminal :=
  match t.savedModes.get mode with
  | none => some t
  | some on =>
    match mode with
    | .normalBuffer => useBuffer t (if on then .normal else .alternate)
    | mode => some (t.setMode mode on)

def fullReset (t : Terminal) : Option Terminal := do
  let emptied (b : Buffer) : Buffer := { b with topRow := b.length }
  let reset : Terminal :=
    { normal := emptied t.normal
      alternate := emptied t.alternate
      window := t.window
      page := t.window
      unread := t.unread
      changed := t.changed
      title := t.title
      identity := t.identity
      listening := t.listening
      outbox := t.outbox }
  let reported ← reportWindow reset
  return reported.marked

def reportCursor (t : Terminal) : Option Terminal := do
  let last ← lastColumn t
  let row := t.cursor.row - t.originRow + 1
  let column := min t.cursor.column last + 1
  return t.send (Utf8.encodeString "\x1b[" ++ decimal row ++ Utf8.encodeString ";" ++
    decimal column ++ Utf8.encodeString "R")

theorem set132Columns_eq (t : Terminal) (on : Bool) :
    set132Columns t on = some (t.set132Columns on) := by
  rw [set132Columns, eraseAll_eq]
  exact home_eq _

theorem setOriginMode_eq (t : Terminal) (on : Bool) :
    setOriginMode t on = some (t.setOriginMode on) := by
  rw [setOriginMode, home_eq]; rfl

theorem restoreMode_eq (sized : Sized t) (mode : SavableMode) :
    restoreMode t mode = some (t.restoreMode mode) := by
  unfold restoreMode Terminal.restoreMode
  cases t.savedModes.get mode with
  | none => rfl
  | some on =>
    cases mode with
    | normalBuffer => exact useBuffer_eq sized _
    | _ => rfl

theorem fullReset_eq (sized : Sized t) : fullReset t = some t.fullReset := by
  rw [fullReset, reportWindow, sub_one_eq sized.tall]; rfl

theorem reportCursor_eq (sized : Sized t) : reportCursor t = some (t.send t.cursorReport) := by
  rw [reportCursor, lastColumn_eq sized]; rfl

def perform (t : Terminal) (operation : Operation) : Option Terminal :=
  match operation with
  | .moveCursor right down => moveCursor t right down
  | .setCursorPosition column row => setCursorPosition t column row
  | .setCursorColumn column => setCursorColumn t column
  | .setCursorRow row => setCursorRow t row
  | .newLine | .verticalTab | .formFeed => newLine t
  | .index => advanceRow t
  | .nextLine => advanceRow (t.withColumn 0)
  | .reverseIndex => reverseIndex t
  | .backspace => backspace t
  | .restoreCursor => restoreCursor t
  | .putChar c => putChar t c
  | .selectRendition code => selectRendition t code
  | .designate designator set => do
    let charsets ← designate t.charsets designator.slot set
    return { t with charsets }
  | .setLineSize size => setLineSize t size
  | .screenAlignmentTest => screenAlignmentTest t
  | .useAlternateBuffer => useBuffer t .alternate
  | .useNormalBuffer => useBuffer t .normal
  | .clearScrollRegion => clearScrollRegion t
  | .setScrollRegion top bottom => setScrollRegion t top bottom
  | .scrollUp count => scrollUp t count
  | .scrollDown count => scrollDown t count
  | .eraseToEndOfLine => eraseToEndOfLine t
  | .eraseToStartOfLine => eraseToStartOfLine t
  | .eraseLine => eraseRow t t.cursor.row
  | .eraseBelow => eraseBelow t
  | .eraseAbove => eraseAbove t
  | .eraseAll => eraseAll t
  | .eraseCharacters count => eraseCells t t.cursor.row t.cursor.column (t.cursor.column + count)
  | .deleteCharacters count => deleteCharacters t count
  | .insertBlanks count => insertBlanks t count
  | .deleteLines count => deleteLines t count
  | .insertLines count => insertLines t count
  | .setTab => setTab t
  | .tab => tab t
  | .set132Columns on => set132Columns t on
  | .setOriginMode on => setOriginMode t on
  | .restoreMode mode => restoreMode t mode
  | .fullReset => fullReset t
  | .reportCursor => reportCursor t
  -- The others assign, save or raise an event: nothing in them can fail.
  | .carriageReturn | .saveCursor | .bell | .setTitle _ | .shiftIn | .shiftOut
  | .selectEncodingLatin1 | .selectEncodingUtf8 | .clearAllTabs | .clearTab | .setInsertMode _
  | .setAutomaticNewLine _ | .setApplicationCursorKeys _ | .setKeypad _ | .setReverseVideo _
  | .setWrapAround _ | .setBlinkingCursor _ | .showCursor _ | .setHostMode .. | .saveMode _
  | .reportPrimaryAttributes | .reportSecondaryAttributes | .reportStatus =>
    some (t.perform operation)

theorem perform_eq (sized : Sized t) (ascending : t.cursor.tabStops.Pairwise (· < ·))
    (operation : Operation) : perform t operation = some (t.perform operation) := by
  have atStart : Sized (t.withColumn 0) := sized.of_extents rfl rfl
  cases operation with
  | moveCursor right down => exact moveCursor_eq sized right down
  | setCursorPosition column row => exact setCursorPosition_eq sized column row
  | setCursorColumn column => exact setCursorColumn_eq sized column
  | setCursorRow row => exact setCursorRow_eq t row
  | newLine | verticalTab | formFeed => exact newLine_eq sized
  | index => exact advanceRow_eq sized
  | nextLine => exact advanceRow_eq atStart
  | reverseIndex => exact reverseIndex_eq t
  | backspace => exact backspace_eq sized
  | restoreCursor => exact restoreCursor_eq sized
  | putChar c => exact putChar_eq sized c
  | selectRendition code => exact selectRendition_eq t code
  | designate designator set => rw [perform, designate_eq]; rfl
  | setLineSize size => exact setLineSize_eq t size
  | screenAlignmentTest => exact screenAlignmentTest_eq t
  | useAlternateBuffer | useNormalBuffer => exact useBuffer_eq sized _
  | clearScrollRegion => exact clearScrollRegion_eq t
  | setScrollRegion top bottom => exact setScrollRegion_eq sized top bottom
  | scrollUp count => exact scrollUp_eq t count
  | scrollDown count => exact scrollDown_eq t count
  | eraseToEndOfLine | eraseLine | eraseCharacters => exact eraseCells_eq ..
  | eraseToStartOfLine => exact eraseToStartOfLine_eq sized
  | eraseBelow => exact eraseBelow_eq t
  | eraseAbove => exact eraseAbove_eq sized
  | eraseAll => exact eraseAll_eq t
  | deleteCharacters count => exact deleteCharacters_eq sized count
  | insertBlanks count => exact insertBlanks_eq sized count
  | deleteLines count => exact deleteLines_eq t count
  | insertLines count => exact insertLines_eq t count
  | setTab => exact setTab_eq ascending
  | tab => exact tab_eq sized
  | set132Columns on => exact set132Columns_eq t on
  | setOriginMode on => exact setOriginMode_eq t on
  | restoreMode mode => exact restoreMode_eq sized mode
  | fullReset => exact fullReset_eq sized
  | reportCursor => exact reportCursor_eq sized
  | _ => rfl

-- On a page without columns there is no last one to step back from.
example (t : Terminal) : perform { t with page := { columns := 0, rows := 1 } } .backspace = none :=
  rfl

def lowered (t : Terminal) (rows : Nat) : Option Terminal :=
  if rows ≤ t.cursor.row then do
    let row ← sub rows 1
    let shift ← sub t.cursor.row row
    let lower := t.mapBuffer fun b => { b with topRow := b.topRow + shift }
    return { lower with cursor := { t.cursor with row } }
  else some t

def resize (t : Terminal) (size : Extent) : Option Terminal := do
  let size := size.atLeastOne
  let last ← sub size.columns 1
  let lower ← lowered t size.rows
  let fits := t.cursor.region.top < size.rows ∧ t.cursor.region.bottom.all (· < size.rows)
  let cursor :=
    { lower.cursor with
      column := min t.cursor.column last
      region := if fits then t.cursor.region else {} }
  let reported ← reportWindow { lower with window := size, page := size, cursor }
  return reported.marked

theorem lowered_eq (t : Terminal) {rows : Nat} (tall : 0 < rows) :
    lowered t rows =
      let row := min t.cursor.row (rows - 1)
      let moved := t.mapBuffer fun b => { b with topRow := b.topRow + (t.cursor.row - row) }
      some { moved with cursor := { t.cursor with row } } := by
  unfold lowered
  by_cases short : rows ≤ t.cursor.row
  · rw [if_pos short, sub_one_eq tall, Option.bind_eq_bind, Option.bind_some, sub_eq (by omega),
      Option.bind_some, Nat.min_eq_right (by omega)]
    rfl
  · have same : t.mapBuffer (fun b => { b with topRow := b.topRow + 0 }) = t := by
      unfold mapBuffer
      split <;> rfl
    rw [if_neg short, Nat.min_eq_left (by omega)]
    dsimp only
    rw [Nat.sub_self, same]

theorem resize_eq (t : Terminal) (size : Extent) : resize t size = some (t.resize size) := by
  have wide : 0 < size.atLeastOne.columns := Nat.le_max_left ..
  have tall : 0 < size.atLeastOne.rows := Nat.le_max_left ..
  rw [resize, sub_one_eq wide, lowered_eq t tall]
  refine congrArg (· >>= fun reported => some reported.marked) (reportWindow_eq ?_)
  exact tall

def cursorPosition (t : Terminal) : Option (Nat × Nat) := do
  let lastRow ← sub t.window.rows 1
  let lastColumn ← sub t.window.columns 1
  return (min t.cursor.row lastRow, min t.cursor.column lastColumn)

theorem cursorPosition_eq (sized : Sized t) : cursorPosition t = some t.cursorPosition := by
  rw [cursorPosition, sub_one_eq sized.tall, sub_one_eq sized.wide]; rfl

end VideoTerminal.Strict

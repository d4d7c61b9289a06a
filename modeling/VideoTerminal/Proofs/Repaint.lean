import VideoTerminal.Proofs.Grid

-- A host that draws only when it is told to never shows an outdated grid: what
-- input changes in sight raises the flag, and nothing lowers it on the way.
namespace VideoTerminal.Terminal

structure Picture where
  window : Extent
  cell : Nat → Nat → Cell
  line : Nat → Option Line
  text : String
  cursor : Nat × Nat
  cursorVisible : Bool
  blinkingCursor : Bool
  reverseVideo : Bool
  active : BufferKind

def picture (t : Terminal) : Picture where
  window := t.window
  cell row column := t.visibleCell column row
  line := t.visibleLine?
  text := t.screenText
  cursor := t.cursorPosition
  cursorVisible := t.cursorVisible
  blinkingCursor := t.blinkingCursor
  reverseVideo := t.cursor.reverseVideo
  active := t.active

-- What a picture is made of. The page is no part of it: a window shows as many
-- columns as it has, however wide the page is.
structure Unseen (t u : Terminal) : Prop where
  window : u.window = t.window
  normal : u.normal = t.normal
  alternate : u.alternate = t.alternate
  active : u.active = t.active
  row : u.cursor.row = t.cursor.row
  column : u.cursor.column = t.cursor.column
  reverseVideo : u.cursor.reverseVideo = t.cursor.reverseVideo
  cursorVisible : u.cursorVisible = t.cursorVisible
  blinkingCursor : u.blinkingCursor = t.blinkingCursor

-- Either the flag is up at the end, or it is as it was and nothing in sight has
-- changed.
inductive Notes (t u : Terminal) : Prop where
  | raised (up : u.changed = true)
  | quiet (flag : u.changed = t.changed) (unseen : Unseen t u)

variable {t u v : Terminal}

theorem Unseen.refl (t : Terminal) : Unseen t t := ⟨rfl, rfl, rfl, rfl, rfl, rfl, rfl, rfl, rfl⟩

theorem Unseen.trans (one : Unseen t u) (two : Unseen u v) : Unseen t v where
  window := two.window.trans one.window
  normal := two.normal.trans one.normal
  alternate := two.alternate.trans one.alternate
  active := two.active.trans one.active
  row := two.row.trans one.row
  column := two.column.trans one.column
  reverseVideo := two.reverseVideo.trans one.reverseVideo
  cursorVisible := two.cursorVisible.trans one.cursorVisible
  blinkingCursor := two.blinkingCursor.trans one.blinkingCursor

theorem Unseen.buffer (unseen : Unseen t u) : u.buffer = t.buffer := by
  unfold Terminal.buffer
  rw [unseen.active, unseen.normal, unseen.alternate]

theorem Unseen.picture (unseen : Unseen t u) : u.picture = t.picture := by
  have cell : ∀ column row, u.visibleCell column row = t.visibleCell column row := by
    intro column row
    unfold visibleCell
    rw [unseen.buffer]
  have line : ∀ row, u.visibleLine? row = t.visibleLine? row := by
    intro row
    unfold visibleLine?
    rw [unseen.buffer]
  have text : u.screenText = t.screenText := by
    unfold screenText screenRows visibleChars visibleChar
    simp only [cell, unseen.window]
  have cursor : u.cursorPosition = t.cursorPosition := by
    unfold cursorPosition
    rw [unseen.row, unseen.column, unseen.window]
  unfold Terminal.picture
  rw [text, cursor, unseen.window, unseen.cursorVisible, unseen.blinkingCursor,
    unseen.reverseVideo, unseen.active]
  congr 1
  · funext row column
    exact cell column row
  · funext row
    exact line row

theorem Notes.refl (t : Terminal) : Notes t t := .quiet rfl (.refl t)

theorem Notes.keeps (notes : Notes t u) (up : t.changed = true) : u.changed = true := by
  cases notes with
  | raised up => exact up
  | quiet flag => exact flag.trans up

theorem Notes.trans (one : Notes t u) (two : Notes u v) : Notes t v := by
  cases two with
  | raised up => exact .raised up
  | quiet flag unseen =>
    cases one with
    | raised up => exact .raised (flag.trans up)
    | quiet before still => exact .quiet (flag.trans before) (still.trans unseen)

theorem raise_notes (t : Terminal) (event : Event) : Notes t (t.raise event) := by
  unfold raise
  rw [raiseAll_eq]
  exact .quiet rfl ⟨rfl, rfl, rfl, rfl, rfl, rfl, rfl, rfl, rfl⟩

theorem foldl_notes {α : Type} {step : Terminal → α → Terminal}
    (notes : ∀ u item, Notes u (step u item)) (items : List α) (t : Terminal) :
    Notes t (items.foldl step t) := by
  induction items generalizing t with
  | nil => exact .refl t
  | cons item rest ih => exact (notes t item).trans (ih _)

theorem repeat_notes {step : Terminal → Terminal} (notes : ∀ u, Notes u (step u)) (count : Nat)
    (t : Terminal) : Notes t (Nat.repeat step count t) := by
  induction count with
  | zero => exact .refl t
  | succ count ih => exact ih.trans (notes _)

theorem eraseRow_notes (t : Terminal) (row : Nat) : Notes t (t.eraseRow row) := .raised rfl

theorem eraseRows_notes (t : Terminal) (first count : Nat) : Notes t (t.eraseRows first count) :=
  foldl_notes eraseRow_notes ..

theorem eraseRows_raised (t : Terminal) (first : Nat) {count : Nat} (some : 0 < count) :
    (t.eraseRows first count).changed = true := by
  obtain ⟨more, rfl⟩ := Nat.exists_eq_succ_of_ne_zero (Nat.ne_of_gt some)
  unfold eraseRows
  rw [List.range'_succ]
  exact (foldl_notes eraseRow_notes _ (t.eraseRow first)).keeps rfl

theorem advanceRow_raised (t : Terminal) : t.advanceRow.changed = true := by
  unfold advanceRow
  split
  · split <;> rfl
  · split <;> rfl

theorem restoreCursor_notes (t : Terminal) : Notes t t.restoreCursor := by
  unfold restoreCursor
  split
  · exact .refl t
  · exact .raised rfl

theorem putCell_raised (t : Terminal) (cell : Cell) : (t.putCell cell).changed = true := by
  unfold putCell
  dsimp only
  split <;> rfl

theorem reverseIndex_raised (t : Terminal) : t.reverseIndex.changed = true := by
  unfold reverseIndex
  split <;> rfl

theorem setLineSize_raised (t : Terminal) (size : LineSize) :
    (t.setLineSize size).changed = true := by
  cases size <;> rfl

theorem setScrollRegion_notes (t : Terminal) (top bottom : Nat) :
    Notes t (t.setScrollRegion top bottom) := by
  rcases setScrollRegion_cases t top bottom with same | ⟨cursor, same⟩ <;> rw [same]
  · exact .refl t
  · exact .raised rfl

theorem betweenMargins_notes (t : Terminal) (edit : Buffer → Buffer) (count : Nat) :
    Notes t (t.betweenMargins edit count) := by
  unfold betweenMargins
  dsimp only
  split
  · exact .refl t
  · exact .raised rfl

theorem tab_notes (t : Terminal) : Notes t t.tab := by
  unfold tab
  split
  · exact .refl t
  · exact .raised rfl

theorem restoreMode_notes (t : Terminal) (mode : SavableMode) : Notes t (t.restoreMode mode) := by
  unfold restoreMode
  split
  · exact .refl t
  · cases mode with
    | normalBuffer => exact .raised rfl
    | _ => exact .quiet rfl ⟨rfl, rfl, rfl, rfl, rfl, rfl, rfl, rfl, rfl⟩

-- Selecting a page width moves the cursor without raising the flag itself. The
-- rows it has erased by then raised it, so a window without rows is left out.
theorem perform_notes (tall : 0 < t.window.rows) (operation : Operation) :
    Notes t (t.perform operation) := by
  cases operation with
  | newLine | verticalTab | formFeed | index | nextLine => exact .raised (advanceRow_raised _)
  | reverseIndex => exact .raised (reverseIndex_raised t)
  | restoreCursor => exact restoreCursor_notes t
  | putChar c => exact .raised (putCell_raised ..)
  | bell | reportPrimaryAttributes | reportSecondaryAttributes | reportStatus | reportCursor =>
    exact raise_notes ..
  | setTitle title =>
    have titled : Notes t { t with title } :=
      .quiet rfl ⟨rfl, rfl, rfl, rfl, rfl, rfl, rfl, rfl, rfl⟩
    exact titled.trans (raise_notes ..)
  | setLineSize size => exact .raised (setLineSize_raised t size)
  | setScrollRegion top bottom => exact setScrollRegion_notes t top bottom
  | scrollUp count => exact repeat_notes (fun _ => .raised rfl) ..
  | scrollDown count => exact repeat_notes (fun _ => .raised rfl) ..
  | eraseBelow =>
    have rest : Notes t t.eraseToEndOfLine := .raised rfl
    exact rest.trans (eraseRows_notes ..)
  | eraseAll => exact eraseRows_notes ..
  | deleteLines | insertLines => exact betweenMargins_notes ..
  | tab => exact tab_notes t
  | set132Columns on => exact .raised (eraseRows_raised _ 0 tall)
  | restoreMode mode => exact restoreMode_notes t mode
  | moveCursor | setCursorPosition | setCursorColumn | setCursorRow | carriageReturn | backspace
  | screenAlignmentTest | useAlternateBuffer | useNormalBuffer | clearScrollRegion
  | eraseToEndOfLine | eraseToStartOfLine | eraseLine | eraseAbove | eraseCharacters
  | deleteCharacters | insertBlanks | setReverseVideo | setOriginMode | setBlinkingCursor
  | showCursor | fullReset => exact .raised rfl
  | _ => exact .quiet rfl ⟨rfl, rfl, rfl, rfl, rfl, rfl, rfl, rfl, rfl⟩

theorem performAll_notes (grid : InGrid t) (operations : List Operation) :
    Notes t (t.performAll operations) := by
  induction operations generalizing t with
  | nil => exact .refl t
  | cons operation rest ih =>
    exact (perform_notes grid.tall operation).trans (ih (perform_inGrid grid operation))

theorem feed_unseen (grid : InGrid t) (bytes : List UInt8)
    (unchanged : (t.feed bytes).1 = false) : Unseen t (t.feed bytes).2 := by
  have lowered : Unseen t { t with unread := [], changed := false } :=
    ⟨rfl, rfl, rfl, rfl, rfl, rfl, rfl, rfl, rfl⟩
  have notes := performAll_notes (inGrid_stable.input t [] false grid) (t.askedBy (.feed bytes))
  have applied := apply_asked { t with unread := [], changed := false } (t.unread ++ bytes)
  unfold feed at unchanged ⊢
  rw [applied] at unchanged ⊢
  cases notes with
  | raised up => exact absurd (unchanged.symm.trans up) Bool.false_ne_true
  | quiet flag unseen =>
    have whole := lowered.trans unseen
    exact ⟨whole.window, whole.normal, whole.alternate, whole.active, whole.row, whole.column,
      whole.reverseVideo, whole.cursorVisible, whole.blinkingCursor⟩

theorem feed_keeps_picture (reached : Reached t) (bytes : List UInt8)
    (unchanged : (t.feed bytes).1 = false) : (t.feed bytes).2.picture = t.picture := by
  have unseen := feed_unseen reached.inGrid bytes unchanged
  exact unseen.picture

theorem feed_keeps_picture_reporting :
    let t : Terminal := (new ⟨2, 2⟩ {} true).act (.perform (.putChar 'x'))
    let bytes := Utf8.encodeString "\x1b[6n\x1b[2;1r\x1b[31m\x1b[2"
    (t.feed bytes).1 = false ∧ (t.feed bytes).2.picture = t.picture := by
  intro t bytes
  have reached : Reached t := .act _ (.new ⟨2, 2⟩ {} true)
  have unchanged : (t.feed bytes).1 = false := by decide +kernel
  exact ⟨unchanged, feed_keeps_picture reached bytes unchanged⟩

end VideoTerminal.Terminal

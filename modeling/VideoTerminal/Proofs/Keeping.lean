import VideoTerminal.Proofs.Drawing
import VideoTerminal.Terminal.Feed

-- One pass over the operations for all that may hold of the two buffers: what the edits
-- of a line, the moves of rows and the moves of the window keep, every operation keeps.
namespace VideoTerminal

-- The edits of a line, on a page of so many columns. Glyphs other than spaces come in
-- where a cell is written and where the whole line is.
inductive LineEdit (columns : Nat) (glyphs : Char → Prop) : (Line → Line) → Prop where
  | erase (first last : Nat) (rendition : Rendition) :
      LineEdit columns glyphs fun l => (l.fill first last (.blank rendition)).trim columns
  | delete (column count : Nat) :
      LineEdit columns glyphs fun l => (l.removeMany column count).trim columns
  | spread (column count : Nat) (rendition : Rendition) :
      LineEdit columns glyphs fun l => (l.insertMany column count (.blank rendition)).trim columns
  | insert (column : Nat) {cell : Cell} (shown : glyphs cell.glyph) :
      LineEdit columns glyphs fun l => (l.insert column cell).trim columns
  | set (column : Nat) {cell : Cell} (shown : glyphs cell.glyph) :
      LineEdit columns glyphs fun l => (l.set column cell).trim columns
  | align {cell : Cell} (shown : glyphs cell.glyph) :
      LineEdit columns glyphs fun _ => Line.filled cell columns
  | rescale {f : Line → Line} (same : ∀ l, (f l).cells = l.cells) : LineEdit columns glyphs f

-- Holds of a buffer as before after any of these. Rows are counted from the window, and
-- only a reset puts the window behind what is stored.
structure Buffer.Closed (edits : (Line → Line) → Prop) (resets : Prop) (B : Buffer → Prop) :
    Prop where
  edit : ∀ b row f, edits f → B b → B (b.modifyLine (b.topRow + row) f)
  replace : ∀ b gone fresh, B b → B ((b.remove (b.topRow + gone)).insert (b.topRow + fresh) {})
  scroll : ∀ b top bottom, top ≤ bottom → B b →
    B ((b.insert (b.topRow + bottom + 1) {}).remove (b.topRow + top))
  advance : ∀ b rows, B b → B { b with topRow := b.topRow + rows }
  clear : ∀ b, resets → B b → B { b with topRow := b.length }

namespace Terminal

structure Both (B : BufferKind → Buffer → Prop) (columns : Nat) (t : Terminal) : Prop where
  normal : B .normal t.normal
  alternate : B .alternate t.alternate
  page : t.page.columns = columns

def brought (t : Terminal) : Operation → Char → Prop
  | .putChar c => fun glyph => glyph = t.charsets.glyph c
  | .screenAlignmentTest | .setLineSize .screenAlignmentTest => fun glyph => glyph = 'E'
  | _ => fun _ => False

def nextColumns (t : Terminal) : Operation → Nat
  | .set132Columns on => if on then 132 else t.window.columns
  | .fullReset => t.window.columns
  | _ => t.page.columns

variable {B : BufferKind → Buffer → Prop} {columns : Nat} {glyphs : Char → Prop} {resets : Prop}
  {t u : Terminal}

theorem Both.of_same (both : Both B columns t) (normal : u.normal = t.normal)
    (alternate : u.alternate = t.alternate) (page : u.page = t.page) : Both B columns u :=
  ⟨normal ▸ both.normal, alternate ▸ both.alternate, page ▸ both.page⟩

theorem Both.move (both : Both B columns t) (cursor : Cursor) :
    Both B columns { t with cursor } := both.of_same rfl rfl rfl

theorem Both.marked (both : Both B columns t) : Both B columns t.marked :=
  both.of_same rfl rfl rfl

theorem Both.mapBuffer (both : Both B columns t) {edit : Buffer → Buffer}
    (edits : ∀ kind b, B kind b → B kind (edit b)) : Both B columns (t.mapBuffer edit) := by
  unfold Terminal.mapBuffer
  cases t.active with
  | normal => exact ⟨edits _ _ both.normal, both.alternate, both.page⟩
  | alternate => exact ⟨both.normal, edits _ _ both.alternate, both.page⟩

theorem Both.raiseAll (both : Both B columns t) (events : List Event) :
    Both B columns (t.raiseAll events) := by
  rw [raiseAll_eq]
  exact both.of_same rfl rfl rfl

theorem Both.reportCells (both : Both B columns t) (row first last : Nat) :
    Both B columns (t.reportCells row first last) := by
  unfold Terminal.reportCells
  split
  · exact both.raiseAll _
  · exact both

theorem Both.foldl {α : Type} {step : Terminal → α → Terminal}
    (steps : ∀ u item, Both B columns u → Both B columns (step u item)) (items : List α)
    (both : Both B columns t) : Both B columns (items.foldl step t) := by
  induction items generalizing t with
  | nil => exact both
  | cons item rest ih => exact ih (steps t item both)

theorem Both.repeat {step : Terminal → Terminal}
    (steps : ∀ u, Both B columns u → Both B columns (step u)) (count : Nat)
    (both : Both B columns t) : Both B columns (Nat.repeat step count t) := by
  induction count with
  | zero => exact both
  | succ count ih => exact steps _ ih

section Closed

variable (closed : ∀ kind, Buffer.Closed (LineEdit columns glyphs) resets (B kind))

include closed

theorem Both.editLine (both : Both B columns t) (row : Nat) {f : Line → Line}
    (edit : LineEdit t.page.columns glyphs f) : Both B columns (t.editLine row f) :=
  both.mapBuffer fun kind b => (closed kind).edit b row f (both.page ▸ edit)

theorem Both.eraseCells (both : Both B columns t) (row first last : Nat) :
    Both B columns (t.eraseCells row first last) :=
  ((both.editLine closed row (.erase ..)).reportCells ..).marked

theorem Both.eraseRows (both : Both B columns t) (first count : Nat) :
    Both B columns (t.eraseRows first count) :=
  both.foldl (fun _ _ both => both.eraseCells closed ..) _

theorem Both.scrollRegionUp (both : Both B columns t) {top bottom : Nat} (order : top ≤ bottom) :
    Both B columns (t.scrollRegionUp top bottom) :=
  ((both.mapBuffer fun kind b => (closed kind).scroll b top bottom order).raiseAll _).marked

theorem Both.scrollRegionDown (both : Both B columns t) (top bottom : Nat) :
    Both B columns (t.scrollRegionDown top bottom) :=
  ((both.mapBuffer fun kind b => (closed kind).replace b bottom top).raiseAll _).marked

theorem Both.advanceRow (both : Both B columns t) : Both B columns t.advanceRow := by
  unfold Terminal.advanceRow
  split
  · split
    · exact ((both.scrollRegionUp closed t.margins_ordered).move _).marked
    · exact (both.move _).marked
  · split
    · exact (both.move _).marked
    · have scrolled := (both.move { t.cursor with row := t.window.rows - 1 }).mapBuffer
        fun kind b => (closed kind).advance b 1
      exact (scrolled.raiseAll _).marked

theorem Both.newLine (both : Both B columns t) : Both B columns t.newLine := by
  unfold Terminal.newLine
  split
  · exact (both.move _).advanceRow closed
  · exact both.advanceRow closed

theorem Both.reverseIndex (both : Both B columns t) : Both B columns t.reverseIndex := by
  unfold Terminal.reverseIndex
  split
  · exact ((both.scrollRegionDown closed ..).move _).marked
  · exact (both.move _).marked

theorem Both.wrapped (both : Both B columns t) : Both B columns t.wrapped := by
  unfold Terminal.wrapped
  split
  · exact both
  · split
    · exact (both.move _).newLine closed
    · exact both.move _

theorem Both.putCell (both : Both B columns t) {cell : Cell} (shown : glyphs cell.glyph) :
    Both B columns (t.putCell cell) := by
  unfold Terminal.putCell
  dsimp only
  split
  · exact (((both.editLine closed _ (.insert _ shown)).move _).reportCells ..).marked
  · exact (((both.editLine closed _ (.set _ shown)).move _).raiseAll _).marked

theorem Both.screenAlignmentTest (both : Both B columns t) (shown : glyphs 'E') :
    Both B columns t.screenAlignmentTest := by
  have aligns : ∀ (u : Terminal) (row : Nat), Both B columns u → Both B columns (u.alignRow row) :=
    fun u row both => (both.editLine closed row (.align shown)).reportCells ..
  have aligned := (both.move { t.cursor with region := {} }).foldl aligns
    (List.range t.window.rows)
  exact (aligned.move _).marked

end Closed

theorem Both.betweenMargins (both : Both B columns t) {edit : Buffer → Buffer}
    (edits : ∀ kind b, B kind b → B kind (edit b)) (count : Nat) :
    Both B columns (t.betweenMargins edit count) := by
  unfold Terminal.betweenMargins
  dsimp only
  split
  · exact both
  · have repeated : ∀ kind b, B kind b →
        B kind (Nat.repeat edit (min count (t.bottomMargin - t.cursor.row + 1)) b) := by
      intro kind b held
      induction min count (t.bottomMargin - t.cursor.row + 1) with
      | zero => exact held
      | succ count ih => exact edits kind _ ih
    exact (((both.mapBuffer repeated).move _).raiseAll _).marked

theorem Both.useBuffer (both : Both B columns t) (kind : BufferKind) :
    Both B columns (t.useBuffer kind) := by
  have switched : Both B columns { t with active := kind } := both.of_same rfl rfl rfl
  exact (switched.raiseAll _).marked

theorem Both.restoreCursor (both : Both B columns t) : Both B columns t.restoreCursor := by
  unfold Terminal.restoreCursor
  split
  · exact both
  · exact (both.move _).marked

theorem Both.setScrollRegion (both : Both B columns t) (top bottom : Nat) :
    Both B columns (t.setScrollRegion top bottom) := by
  rcases setScrollRegion_cases t top bottom with same | ⟨cursor, same⟩ <;> rw [same]
  · exact both
  · exact both.of_same rfl rfl rfl

theorem Both.tab (both : Both B columns t) : Both B columns t.tab := by
  unfold Terminal.tab
  split
  · exact both
  · exact (both.move _).marked

theorem Both.restoreMode (both : Both B columns t) (mode : SavableMode) :
    Both B columns (t.restoreMode mode) := by
  unfold Terminal.restoreMode
  split
  · exact both
  · cases mode with
    | normalBuffer => exact both.useBuffer _
    | _ => exact both.of_same rfl rfl rfl

theorem Both.setLineSize (both : Both B columns t) {size : LineSize}
    (closed : ∀ kind, Buffer.Closed (LineEdit columns (t.brought (.setLineSize size))) resets
      (B kind)) : Both B columns (t.setLineSize size) := by
  cases size with
  | screenAlignmentTest => exact both.screenAlignmentTest closed rfl
  | _ =>
    refine (both.editLine closed t.cursor.row (.rescale ?_)).marked
    exact fun _ => rfl

theorem fullReset_both (t : Terminal)
    (clear : ∀ kind b, B kind b → B kind { b with topRow := b.length })
    (normal : B .normal t.normal) (alternate : B .alternate t.alternate) :
    Both B t.window.columns t.fullReset := by
  unfold fullReset
  refine Both.marked (Both.raiseAll ?_ _)
  exact ⟨clear _ _ normal, clear _ _ alternate, rfl⟩

theorem perform_both {operation : Operation}
    (closed : ∀ kind, Buffer.Closed (LineEdit (t.nextColumns operation) (t.brought operation))
      (operation = .fullReset) (B kind))
    (normal : B .normal t.normal) (alternate : B .alternate t.alternate) :
    Both B (t.nextColumns operation) (t.perform operation) := by
  have both : Both B t.page.columns t := ⟨normal, alternate, rfl⟩
  have order := margins_ordered t
  cases operation with
  | newLine | verticalTab | formFeed => exact both.newLine closed
  | index => exact both.advanceRow closed
  | nextLine => exact (both.move _).advanceRow closed
  | reverseIndex => exact both.reverseIndex closed
  | restoreCursor => exact both.restoreCursor
  | putChar c => exact (both.wrapped closed).putCell closed rfl
  | bell | reportPrimaryAttributes | reportSecondaryAttributes | reportStatus | reportCursor =>
    exact both.raiseAll _
  | setTitle title =>
    have titled : Both B t.page.columns { t with title } := both.of_same rfl rfl rfl
    exact titled.raiseAll _
  | setLineSize size => exact both.setLineSize closed
  | screenAlignmentTest => exact both.screenAlignmentTest closed rfl
  | useAlternateBuffer | useNormalBuffer => exact both.useBuffer _
  | setScrollRegion top bottom => exact both.setScrollRegion top bottom
  | scrollUp count => exact both.repeat (fun _ both => both.scrollRegionUp closed order) _
  | scrollDown count => exact both.repeat (fun _ both => both.scrollRegionDown closed ..) _
  | eraseToEndOfLine | eraseToStartOfLine | eraseLine | eraseCharacters =>
    exact both.eraseCells closed ..
  | eraseBelow => exact (both.eraseCells closed ..).eraseRows closed ..
  | eraseAbove => exact (both.eraseRows closed ..).eraseCells closed ..
  | eraseAll => exact both.eraseRows closed ..
  | deleteCharacters count =>
    exact ((both.editLine closed t.cursor.row (.delete ..)).reportCells ..).marked
  | insertBlanks count =>
    exact ((both.editLine closed t.cursor.row (.spread ..)).reportCells ..).marked
  | deleteLines count =>
    exact both.betweenMargins (fun kind b => (closed kind).replace b _ _) count
  | insertLines count =>
    exact both.betweenMargins (fun kind b => (closed kind).replace b _ _) count
  | tab => exact both.tab
  | set132Columns on =>
    have turned : Both B (t.nextColumns (.set132Columns on))
        { t with page := { t.page with columns := if on then 132 else t.window.columns } } :=
      ⟨normal, alternate, rfl⟩
    exact (turned.eraseRows closed ..).move _
  | restoreMode mode => exact both.restoreMode mode
  | fullReset => exact fullReset_both t (fun kind b => (closed kind).clear b rfl) normal alternate
  | _ => exact both.of_same rfl rfl rfl

theorem resize_both (t : Terminal) (size : Extent)
    (advance : ∀ kind b rows, B kind b → B kind { b with topRow := b.topRow + rows })
    (normal : B .normal t.normal) (alternate : B .alternate t.alternate) :
    Both B size.atLeastOne.columns (t.resize size) := by
  have both : Both B t.page.columns t := ⟨normal, alternate, rfl⟩
  have moved := both.mapBuffer fun kind b => advance kind b
    (t.cursor.row - min t.cursor.row (size.atLeastOne.rows - 1))
  unfold resize
  refine Both.marked (Both.raiseAll ?_ _)
  exact ⟨moved.normal, moved.alternate, rfl⟩

end Terminal

end VideoTerminal

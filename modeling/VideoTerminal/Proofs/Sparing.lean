import VideoTerminal.Proofs.Drawing
import VideoTerminal.Proofs.Run

-- Steps that draw and move the cursor, and steps that stay on their screen. The first
-- touch no register but the cursor. The second may change modes as well; the saved
-- cursor, the other buffer and both sizes are as before.
namespace VideoTerminal

namespace Operation

def travels : Operation → Bool
  | .saveCursor | .setTitle _ | .shiftIn | .shiftOut | .designate .. | .selectEncodingLatin1
  | .selectEncodingUtf8 | .useAlternateBuffer | .useNormalBuffer | .setAutomaticNewLine _
  | .setKeypad _ | .set132Columns _ | .setBlinkingCursor _ | .showCursor _ | .setHostMode ..
  | .saveMode _ | .restoreMode _ | .fullReset => false
  | _ => true

-- What moves the program to another screen, overwrites the saved cursor or
-- changes the page. Restoring other modes and the cursor is allowed.
def leavesScreen : Operation → Bool
  | .useAlternateBuffer | .useNormalBuffer | .restoreMode .normalBuffer | .saveCursor | .fullReset
  | .set132Columns _ => true
  | _ => false

end Operation

namespace Terminal
open Sequence

def Travels (t u : Terminal) : Prop := ∃ cursor, Draws { t with cursor } u

-- Both terminals use the same buffer and have the same in the other one and in
-- the saved cursor. Cursor, modes and the buffer in use may differ.
structure Spares (t u : Terminal) : Prop where
  active : u.active = t.active
  other : u.otherBuffer = t.otherBuffer
  saved : u.savedCursor = t.savedCursor
  window : u.window = t.window
  page : u.page = t.page

variable {t u v : Terminal}

theorem Draws.travels (drawn : Draws t u) : Travels t u := ⟨t.cursor, drawn⟩

theorem Travels.refl (t : Terminal) : Travels t t := (Draws.refl t).travels

theorem Travels.move (travels : Travels t u) (cursor : Cursor) : Travels t { u with cursor } := by
  obtain ⟨before, drawn⟩ := travels
  exact ⟨cursor, drawn.move cursor⟩

theorem Travels.trans (one : Travels t u) (two : Travels u v) : Travels t v := by
  obtain ⟨before, drawn⟩ := one
  obtain ⟨cursor, drawnAgain⟩ := two
  exact ⟨cursor, (drawn.move cursor).trans drawnAgain⟩

theorem Travels.marked (travels : Travels t u) : Travels t u.marked :=
  travels.trans (marked_draws u).travels

theorem move_travels (t : Terminal) (cursor : Cursor) : Travels t { t with cursor } :=
  (Travels.refl t).move cursor

theorem advanceRow_travels (t : Terminal) : Travels t t.advanceRow := by
  unfold advanceRow
  split
  · split
    · exact ((scrollRegionUp_draws ..).travels.move _).marked
    · exact (move_travels ..).marked
  · split
    · exact (move_travels ..).marked
    · exact ((move_travels ..).trans (scrollWindow_draws _).travels).marked

theorem newLine_travels (t : Terminal) : Travels t t.newLine := by
  unfold newLine
  split
  · exact (move_travels ..).trans (advanceRow_travels _)
  · exact advanceRow_travels t

theorem reverseIndex_travels (t : Terminal) : Travels t t.reverseIndex := by
  unfold reverseIndex
  split
  · exact ((scrollRegionDown_draws ..).travels.move _).marked
  · exact (move_travels ..).marked

theorem restoreCursor_travels (t : Terminal) : Travels t t.restoreCursor := by
  unfold restoreCursor
  split
  · exact .refl t
  · exact (move_travels ..).marked

theorem wrapped_travels (t : Terminal) : Travels t t.wrapped := by
  unfold wrapped
  split
  · exact .refl t
  · split
    · exact (move_travels ..).trans (newLine_travels _)
    · exact move_travels ..

theorem putCell_travels (t : Terminal) (cell : Cell) : Travels t (t.putCell cell) :=
  (move_travels ..).trans (putCell_draws t cell).travels

theorem screenAlignmentTest_travels (t : Terminal) : Travels t t.screenAlignmentTest := by
  have filled := (foldl_draws alignRow_draws (List.range t.window.rows)
    { t with cursor := { t.cursor with region := {} } }).travels
  exact (((move_travels ..).trans filled).move _).marked

theorem setLineSize_travels (t : Terminal) (size : LineSize) : Travels t (t.setLineSize size) := by
  cases size with
  | screenAlignmentTest => exact screenAlignmentTest_travels t
  | _ => exact (editLine_draws ..).travels.marked

theorem setScrollRegion_travels (t : Terminal) (top bottom : Nat) :
    Travels t (t.setScrollRegion top bottom) := by
  rcases setScrollRegion_cases t top bottom with same | ⟨cursor, same⟩ <;> rw [same]
  · exact .refl t
  · exact (move_travels ..).marked

theorem betweenMargins_travels (t : Terminal) (edit : Buffer → Buffer) (count : Nat) :
    Travels t (t.betweenMargins edit count) := by
  unfold betweenMargins
  dsimp only
  split
  · exact .refl t
  · exact (((mapBuffer_draws ..).travels.move _).trans (reportRows_draws ..).travels).marked

theorem tab_travels (t : Terminal) : Travels t t.tab := by
  unfold tab
  split
  · exact .refl t
  · exact (move_travels ..).marked

theorem perform_travels (t : Terminal) {operation : Operation}
    (travels : operation.travels = true) : Travels t (t.perform operation) := by
  cases operation with
  | newLine | verticalTab | formFeed => exact newLine_travels t
  | index => exact advanceRow_travels t
  | nextLine => exact (move_travels ..).trans (advanceRow_travels _)
  | reverseIndex => exact reverseIndex_travels t
  | restoreCursor => exact restoreCursor_travels t
  | putChar c => exact (wrapped_travels t).trans (putCell_travels ..)
  | bell | reportPrimaryAttributes | reportSecondaryAttributes | reportStatus | reportCursor =>
    exact (raise_draws ..).travels
  | setLineSize size => exact setLineSize_travels t size
  | screenAlignmentTest => exact screenAlignmentTest_travels t
  | setScrollRegion top bottom => exact setScrollRegion_travels t top bottom
  | scrollUp count => exact (scrollUp_draws t count).travels
  | scrollDown count => exact (scrollDown_draws t count).travels
  | eraseToEndOfLine | eraseToStartOfLine | eraseLine | eraseCharacters =>
    exact (eraseCells_draws ..).travels
  | eraseBelow => exact (eraseBelow_draws t).travels
  | eraseAbove => exact (eraseAbove_draws t).travels
  | eraseAll => exact (eraseAll_draws t).travels
  | deleteCharacters count => exact (deleteCharacters_draws t count).travels
  | insertBlanks count => exact (insertBlanks_draws t count).travels
  | deleteLines | insertLines => exact betweenMargins_travels ..
  | tab => exact tab_travels t
  | moveCursor | setCursorPosition | setCursorColumn | setCursorRow | carriageReturn | backspace
  | clearScrollRegion | setReverseVideo | setOriginMode => exact (move_travels ..).marked
  | selectRendition | setTab | clearAllTabs | clearTab | setInsertMode
  | setApplicationCursorKeys | setWrapAround => exact move_travels ..
  | _ => cases travels

theorem Spares.refl (t : Terminal) : Spares t t := ⟨rfl, rfl, rfl, rfl, rfl⟩

theorem Spares.trans (one : Spares t u) (two : Spares u v) : Spares t v :=
  ⟨two.active.trans one.active, two.other.trans one.other, two.saved.trans one.saved,
    two.window.trans one.window, two.page.trans one.page⟩

theorem Draws.spares (drawn : Draws t u) : Spares t u :=
  ⟨drawn.active, drawn.otherBuffer, drawn.savedCursor, drawn.window, drawn.page⟩

theorem Travels.spares (travels : Travels t u) : Spares t u := by
  obtain ⟨cursor, drawn⟩ := travels
  have spared := drawn.spares
  exact ⟨spared.active, spared.other, spared.saved, spared.window, spared.page⟩

theorem restoreMode_spares (t : Terminal) {mode : SavableMode} (other : mode ≠ .normalBuffer) :
    Spares t (t.restoreMode mode) := by
  unfold restoreMode
  split
  · exact .refl t
  · cases mode with
    | normalBuffer => exact absurd rfl other
    | _ => exact ⟨rfl, rfl, rfl, rfl, rfl⟩

theorem perform_spares (t : Terminal) {operation : Operation}
    (stays : operation.leavesScreen = false) : Spares t (t.perform operation) := by
  cases kind : operation.travels with
  | true => exact (perform_travels t kind).spares
  | false =>
    cases operation with
    | useAlternateBuffer | useNormalBuffer | saveCursor | fullReset | set132Columns => cases stays
    | setTitle title =>
      have titled : Spares t { t with title } := ⟨rfl, rfl, rfl, rfl, rfl⟩
      exact titled.trans (raise_draws ..).spares
    | restoreMode mode =>
      exact restoreMode_spares t fun same => by rw [same] at stays; cases stays
    | shiftIn | shiftOut | designate | selectEncodingLatin1 | selectEncodingUtf8
    | setAutomaticNewLine | setKeypad | setBlinkingCursor | showCursor | setHostMode | saveMode =>
      exact ⟨rfl, rfl, rfl, rfl, rfl⟩
    | _ => cases kind

theorem spares_stable (t : Terminal) :
    StableUnder (fun operation => operation.leavesScreen = false) (Spares t) where
  input _ _ _ spared := ⟨spared.active, spared.other, spared.saved, spared.window, spared.page⟩
  perform u _ stays spared := spared.trans (perform_spares u stays)

theorem feed_spares (t : Terminal) {bytes : List UInt8}
    (stays : ∀ operation ∈ t.askedBy (.feed bytes), operation.leavesScreen = false) :
    Spares t (t.feed bytes).2 :=
  (spares_stable t).feed (.refl t) stays

end Terminal

end VideoTerminal

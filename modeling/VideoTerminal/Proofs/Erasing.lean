import VideoTerminal.Proofs.Grid
import VideoTerminal.Proofs.LineEdits

-- What erasing blanks is an area of the window, and areas erased one after the other
-- are one area. The cell that the cursor is shown on lies in it unless the operation
-- starts at the cursor and the cursor stands behind the last column.
namespace VideoTerminal

abbrev Area := Nat → Nat → Prop

namespace Terminal

structure Erased (area : Area) (t u : Terminal) : Prop where
  draws : Draws t u
  topRow : u.buffer.topRow = t.buffer.topRow
  stored : t.buffer.length ≤ u.buffer.length
  inside : ∀ row column, row < t.window.rows → column < t.page.columns → area row column →
    u.view row column = .blank t.cursor.rendition
  outside : ∀ row column, row < t.window.rows → column < t.page.columns → ¬area row column →
    u.view row column = t.view row column
  sizes : ∀ i, u.buffer.lineAt i =
    { t.buffer.lineAt i with cells := (u.buffer.lineAt i).cells }
  offscreen : ∀ i, i < t.buffer.topRow ∨ t.buffer.topRow + t.window.rows ≤ i →
    u.buffer.lineAt i = t.buffer.lineAt i

variable {t u v : Terminal} {first second : Area}

theorem Erased.none (t : Terminal) : Erased (fun _ _ => False) t t :=
  ⟨.refl t, rfl, Nat.le_refl _, fun _ _ _ _ absurd => absurd.elim, fun _ _ _ _ _ => rfl,
    fun _ => rfl, fun _ _ => rfl⟩

theorem Erased.trans (one : Erased first t u) (two : Erased second u v) :
    Erased (fun row column => first row column ∨ second row column) t v := by
  have window := one.draws.window
  have page := one.draws.page
  have rendition : u.cursor.rendition = t.cursor.rendition :=
    congrArg Cursor.rendition one.draws.cursor
  refine ⟨one.draws.trans two.draws, two.topRow.trans one.topRow,
    Nat.le_trans one.stored two.stored, fun row column tall wide erased => ?_,
    fun row column tall wide kept => ?_, fun i => ?_, fun i off => ?_⟩
  · by_cases later : second row column
    · rw [two.inside row column (window ▸ tall) (page ▸ wide) later, rendition]
    · rw [two.outside row column (window ▸ tall) (page ▸ wide) later]
      exact one.inside row column tall wide (erased.resolve_right later)
  · obtain ⟨before, after⟩ := not_or.mp kept
    rw [two.outside row column (window ▸ tall) (page ▸ wide) after]
    exact one.outside row column tall wide before
  · rw [two.sizes i, one.sizes i]
  · rw [two.offscreen i (by rw [one.topRow, window]; exact off), one.offscreen i off]

theorem Erased.congr (erased : Erased first t u)
    (same : ∀ row column, row < t.window.rows → column < t.page.columns →
      (first row column ↔ second row column)) : Erased second t u :=
  { erased with
    inside := fun row column tall wide named =>
      erased.inside row column tall wide ((same row column tall wide).mpr named)
    outside := fun row column tall wide kept =>
      erased.outside row column tall wide (mt (same row column tall wide).mp kept) }

theorem eraseCells_erased {row : Nat} (visible : row < t.window.rows) (first last : Nat) :
    Erased (fun r column => r = row ∧ first ≤ column ∧ column < last) t
      (t.eraseCells row first last) := by
  have edited := eraseCells_edited t row first last
  refine ⟨edited.draws, edited.topRow, edited.stored, ?_, ?_, fun i => ?_, fun i off => ?_⟩
  · rintro r column _ wide ⟨rfl, range⟩
    rw [edited.cells column wide, if_pos range]
  · intro r column _ wide kept
    by_cases here : r = row
    · subst here
      rw [edited.cells column wide, if_neg fun range => kept ⟨rfl, range⟩]
    · show Line.cellAt (Buffer.lineAt _ _) column = _
      rw [edited.topRow, edited.others _ (by omega)]
      rfl
  · by_cases here : i = t.buffer.topRow + row
    · rw [here]
      exact edited.size
    · rw [edited.others i here]
  · exact edited.others i (by omega)

theorem eraseRows_erased {first count : Nat} (visible : first + count ≤ t.window.rows) :
    Erased (fun row _ => first ≤ row ∧ row < first + count) t (t.eraseRows first count) := by
  induction count generalizing t first with
  | zero => exact (Erased.none t).congr fun row column _ _ => ⟨False.elim, fun range => by omega⟩
  | succ count ih =>
    have one : Erased _ t (t.eraseRow first) :=
      eraseCells_erased (by omega : first < t.window.rows) 0 t.page.columns
    have rest : Erased _ (t.eraseRow first) (t.eraseRows first (count + 1)) :=
      ih (by rw [one.draws.window]; omega : first + 1 + count ≤ (t.eraseRow first).window.rows)
    exact (one.trans rest).congr fun row column _ wide => by omega

end Terminal

namespace Operation

def erases : Operation → Bool
  | .eraseToEndOfLine | .eraseToStartOfLine | .eraseLine | .eraseBelow | .eraseAbove | .eraseAll
  | .eraseCharacters _ => true
  | _ => false

def erasesOnward : Operation → Bool
  | .eraseToEndOfLine | .eraseBelow | .eraseCharacters _ => true
  | _ => false

-- The area that it names, with the column of the cursor as it stands: behind the last
-- one it may be the first that is not erased.
def area (cursor : Cursor) : Operation → Area
  | .eraseToEndOfLine => fun row column => row = cursor.row ∧ cursor.column ≤ column
  | .eraseToStartOfLine => fun row column => row = cursor.row ∧ column ≤ cursor.column
  | .eraseLine => fun row _ => row = cursor.row
  | .eraseBelow => fun row column =>
    (row = cursor.row ∧ cursor.column ≤ column) ∨ cursor.row < row
  | .eraseAbove => fun row column =>
    row < cursor.row ∨ (row = cursor.row ∧ column ≤ cursor.column)
  | .eraseAll => fun _ _ => True
  | .eraseCharacters count => fun row column =>
    row = cursor.row ∧ cursor.column ≤ column ∧ column < cursor.column + count
  | _ => fun _ _ => False

end Operation

namespace Terminal

variable {t : Terminal}

theorem eraseToEndOfLine_erased (grid : InGrid t) :
    Erased (Operation.eraseToEndOfLine.area t.cursor) t t.eraseToEndOfLine :=
  (eraseCells_erased grid.row ..).congr fun row column _ wide => by
    simp only [Operation.area]; omega

theorem eraseToStartOfLine_erased (grid : InGrid t) :
    Erased (Operation.eraseToStartOfLine.area t.cursor) t t.eraseToStartOfLine :=
  (eraseCells_erased grid.row ..).congr fun row column _ wide => by
    simp only [Operation.area, lastColumn]; omega

theorem eraseLine_erased (grid : InGrid t) :
    Erased (Operation.eraseLine.area t.cursor) t t.eraseLine :=
  (eraseCells_erased grid.row ..).congr fun row column _ wide => by
    simp only [Operation.area]; omega

theorem eraseBelow_erased (grid : InGrid t) :
    Erased (Operation.eraseBelow.area t.cursor) t t.eraseBelow := by
  have row := grid.row
  have line := eraseToEndOfLine_erased grid
  have within : t.cursor.row + 1 + (t.window.rows - (t.cursor.row + 1)) ≤
      t.eraseToEndOfLine.window.rows := by
    rw [line.draws.window]
    omega
  have rows := eraseRows_erased within
  refine (line.trans rows).congr fun row column tall _ => ?_
  simp only [Operation.area]
  omega

-- The rows above come first here, and leave the cursor where it is.
theorem eraseAbove_erased (grid : InGrid t) :
    Erased (Operation.eraseAbove.area t.cursor) t t.eraseAbove := by
  have row := grid.row
  have rows := eraseRows_erased (by omega : 0 + t.cursor.row ≤ t.window.rows)
  have line := eraseToStartOfLine_erased (grid.draws rows.draws)
  refine (rows.trans line).congr fun row column _ _ => ?_
  simp only [Operation.area, rows.draws.cursor]
  omega

theorem eraseAll_erased (t : Terminal) :
    Erased (Operation.eraseAll.area t.cursor) t t.eraseAll :=
  (eraseRows_erased (Nat.le_of_eq (Nat.zero_add _))).congr fun _ _ tall _ =>
    ⟨fun _ => trivial, fun _ => ⟨Nat.zero_le _, (Nat.zero_add _).symm ▸ tall⟩⟩

theorem eraseCharacters_erased (grid : InGrid t) (count : Nat) :
    Erased ((Operation.eraseCharacters count).area t.cursor) t (t.eraseCharacters count) :=
  eraseCells_erased grid.row ..

theorem perform_erased (grid : InGrid t) {operation : Operation}
    (erases : operation.erases = true) :
    Erased (operation.area t.cursor) t (t.perform operation) := by
  cases operation with
  | eraseToEndOfLine => exact eraseToEndOfLine_erased grid
  | eraseToStartOfLine => exact eraseToStartOfLine_erased grid
  | eraseLine => exact eraseLine_erased grid
  | eraseBelow => exact eraseBelow_erased grid
  | eraseAbove => exact eraseAbove_erased grid
  | eraseAll => exact eraseAll_erased t
  | eraseCharacters count => exact eraseCharacters_erased grid count
  | _ => cases erases

theorem erases_area_only {operation : Operation} (reached : Reached t)
    (erases : operation.erases = true) :
    Erased (operation.area t.cursor) t (t.perform operation) :=
  perform_erased reached.inGrid erases

theorem erases_area_only_below :
    let t : Terminal :=
      (new ⟨2, 2⟩ {} false).act (.feed (Utf8.encodeString "ab\x1b[41m"))
    let u := t.perform .eraseBelow
    Erased (fun row column => (row = 0 ∧ 2 ≤ column) ∨ 0 < row) t u ∧
      u.view 0 1 = ⟨'b', {}⟩ ∧ u.view 1 0 = .blank { background := .red } := by
  intro t u
  have reached : Reached t := .act _ (.new ⟨2, 2⟩ {} false)
  have row : t.cursor.row = 0 := by decide +kernel
  have column : t.cursor.column = 2 := by decide +kernel
  have erased : Erased (Operation.eraseBelow.area t.cursor) t u := erases_area_only reached rfl
  simp only [Operation.area, row, column] at erased
  exact ⟨erased, by decide +kernel, by decide +kernel⟩

def underCursor (t : Terminal) : Cell := t.view t.cursor.row t.pageColumn

theorem area_underCursor {operation : Operation} (wide : 0 < t.page.columns)
    (erases : operation.erases = true) (some : operation ≠ .eraseCharacters 0) :
    operation.area t.cursor t.cursor.row t.pageColumn ↔
      operation.erasesOnward = false ∨ t.cursor.column < t.page.columns := by
  have shown : t.cursor.column ≤ t.pageColumn ↔ t.cursor.column < t.page.columns := by
    unfold pageColumn lastColumn
    omega
  have before : t.pageColumn ≤ t.cursor.column := Nat.min_le_left ..
  cases operation with
  | eraseToEndOfLine | eraseBelow => simp [Operation.area, Operation.erasesOnward, shown]
  | eraseToStartOfLine | eraseLine | eraseAbove | eraseAll =>
    simp [Operation.area, Operation.erasesOnward, before]
  | eraseCharacters count =>
    have several : count ≠ 0 := fun none => some (congrArg _ none)
    have ends : t.pageColumn < t.cursor.column + count := by omega
    simp [Operation.area, Operation.erasesOnward, shown, ends]
  | _ => cases erases

-- Exact for every terminal that can be reached: behind the last column, what erases
-- from the cursor on leaves the cell that the cursor is shown on as it was, while the
-- other operations take the cursor to be on the last column.
theorem erased_under_cursor_iff {operation : Operation} (reached : Reached t)
    (erases : operation.erases = true) (some : operation ≠ .eraseCharacters 0) :
    (t.perform operation).underCursor = .blank t.cursor.rendition ↔
      operation.erasesOnward = false ∨ t.cursor.column < t.page.columns ∨
        t.underCursor = .blank t.cursor.rendition := by
  have grid := reached.inGrid
  have wide := grid.page_wide
  have onPage : t.pageColumn < t.page.columns :=
    Nat.lt_of_le_of_lt (Nat.min_le_right ..) grid.lastColumn_le
  have erased := perform_erased grid erases
  have same : (t.perform operation).underCursor =
      (t.perform operation).view t.cursor.row t.pageColumn := by
    unfold underCursor pageColumn lastColumn
    rw [erased.draws.cursor, erased.draws.page]
  have area := area_underCursor wide erases some
  rw [same, ← or_assoc, ← area]
  by_cases named : operation.area t.cursor t.cursor.row t.pageColumn
  · rw [erased.inside _ _ grid.row onPage named]
    exact ⟨fun _ => .inl named, fun _ => rfl⟩
  · rw [erased.outside _ _ grid.row onPage named]
    exact ⟨.inr, fun blank => blank.resolve_left named⟩

theorem erased_under_cursor_pending :
    let t : Terminal := (new ⟨1, 1⟩ {} false).act (.feed (Utf8.encodeString "x"))
    t.cursor.column = t.page.columns ∧
      (t.perform .eraseToStartOfLine).underCursor = .blank t.cursor.rendition ∧
      (t.perform .eraseToEndOfLine).underCursor ≠ .blank t.cursor.rendition := by
  intro t
  have reached : Reached t := .act _ (.new ⟨1, 1⟩ {} false)
  have pending : t.cursor.column = t.page.columns := by decide +kernel
  refine ⟨pending, ?_, fun erased => ?_⟩
  · exact (erased_under_cursor_iff reached rfl (by decide)).mpr (.inl rfl)
  · have kept : t.underCursor ≠ .blank t.cursor.rendition := by decide +kernel
    rcases (erased_under_cursor_iff reached rfl (by decide)).mp erased with onward | inside | blank
    · cases onward
    · exact Nat.ne_of_lt inside pending
    · exact kept blank

theorem pending_cell_kept :
    let t : Terminal := (new ⟨1, 1⟩ {} false).act (.feed (Utf8.encodeString "x"))
    ∀ typed ∈ ["\x1b[K", "\x1b[J", "\x1b[X"],
      (t.feed (Utf8.encodeString typed)).2.underCursor = ⟨'x', {}⟩ := by
  decide +kernel

end Terminal

end VideoTerminal

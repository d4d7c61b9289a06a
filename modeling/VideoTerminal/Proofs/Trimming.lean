import VideoTerminal.Proofs.LineWidths

-- Every edit cuts the lines it writes to at the page, however long they were before, and
-- writes to no others. Hence nothing that is stored is longer than the widest page so far.
namespace VideoTerminal

theorem Buffer.NarrowTo.stored {b : Buffer} {columns : Nat} (narrow : b.NarrowTo columns)
    {line : Line} (stored : line ∈ b.lines) : line.length ≤ columns := by
  obtain ⟨i, inside, rfl⟩ := List.mem_iff_getElem.mp stored
  have read : b.lineAt i = b.lines[i] := by
    rw [Buffer.lineAt, Padded.read_eq, List.getElem?_eq_getElem inside, Option.getD_some]
  rw [← read]
  exact narrow i

namespace Terminal

-- What is left when rows of the window have been written to, in any order and each any
-- number of times. A line counts with all its cells, also those behind the page.
structure Trimmed (rows : List Nat) (t u : Terminal) : Prop where
  page : u.page = t.page
  topRow : u.buffer.topRow = t.buffer.topRow
  within : ∀ row ∈ rows, (u.buffer.lineAt (t.buffer.topRow + row)).length ≤ u.page.columns
  others : ∀ i, (∀ row ∈ rows, i ≠ t.buffer.topRow + row) → u.buffer.lineAt i = t.buffer.lineAt i

variable {t u v : Terminal} {row : Nat} {rows first second : List Nat}

theorem Trimmed.none (t : Terminal) : Trimmed [] t t :=
  ⟨rfl, rfl, fun _ written => absurd written List.not_mem_nil, fun _ _ => rfl⟩

-- What only the first of the two wrote to, the second one has left as short as it was.
theorem Trimmed.trans (one : Trimmed first t u) (two : Trimmed second u v) :
    Trimmed (first ++ second) t v := by
  have top := one.topRow
  refine ⟨two.page.trans one.page, two.topRow.trans top, fun row written => ?_, fun i apart => ?_⟩
  · by_cases again : row ∈ second
    · rw [← top]
      exact two.within row again
    · have before : row ∈ first := (List.mem_append.mp written).resolve_right again
      have kept := two.others (t.buffer.topRow + row) fun other later same => by
        have here : row = other := by omega
        exact again (here ▸ later)
      rw [kept, two.page]
      exact one.within row before
  · have later := two.others i fun row written => by
      rw [top]
      exact apart row (List.mem_append_right _ written)
    have earlier := one.others i fun row written => apart row (List.mem_append_left _ written)
    exact later.trans earlier

theorem Trimmed.move (trimmed : Trimmed rows t u) (before after : Cursor) :
    Trimmed rows { t with cursor := before } { u with cursor := after } :=
  ⟨trimmed.page, trimmed.topRow, trimmed.within, trimmed.others⟩

theorem Trimmed.marked (trimmed : Trimmed rows t u) : Trimmed rows t u.marked :=
  ⟨trimmed.page, trimmed.topRow, trimmed.within, trimmed.others⟩

theorem Edited.trimmed {cells : Nat → Cell} (edited : Edited t u row cells) :
    Trimmed [row] t u := by
  refine ⟨edited.draws.page, edited.topRow, fun r written => ?_, fun i apart => ?_⟩
  · rw [List.mem_singleton.mp written, edited.draws.page]
    exact edited.width
  · exact edited.others i (apart row (List.mem_singleton.mpr rfl))

theorem alignRow_trimmed (t : Terminal) (row : Nat) : Trimmed [row] t (t.alignRow row) := by
  have buffer : (t.alignRow row).buffer = t.buffer.modifyLine (t.buffer.topRow + row) fun _ =>
      Line.filled ⟨'E', {}⟩ t.page.columns :=
    (reportCells_buffer ..).trans (mapBuffer_buffer ..)
  have page : (t.alignRow row).page = t.page := (alignRow_draws t row).page
  refine ⟨page, by rw [buffer]; rfl, fun r written => ?_, fun i apart => ?_⟩
  · rw [List.mem_singleton.mp written, buffer, Buffer.lineAt_modifyLine, if_pos rfl, page]
    exact Nat.le_of_eq List.length_replicate
  · rw [buffer, Buffer.lineAt_modifyLine, if_neg (apart row (List.mem_singleton.mpr rfl))]

theorem foldl_trimmed {write : Terminal → Nat → Terminal}
    (trimmed : ∀ t row, Trimmed [row] t (write t row)) (rows : List Nat) (t : Terminal) :
    Trimmed rows t (rows.foldl write t) := by
  induction rows generalizing t with
  | nil => exact .none t
  | cons row rest ih => exact (trimmed t row).trans (ih (write t row))

theorem eraseRows_trimmed (t : Terminal) (first count : Nat) :
    Trimmed (List.range' first count) t (t.eraseRows first count) :=
  foldl_trimmed (fun u row => (eraseCells_edited u row 0 u.page.columns).trimmed) _ t

theorem eraseBelow_trimmed (t : Terminal) :
    Trimmed (t.cursor.row :: List.range' (t.cursor.row + 1) (t.window.rows - (t.cursor.row + 1)))
      t t.eraseBelow :=
  (eraseCells_edited ..).trimmed.trans (eraseRows_trimmed t.eraseToEndOfLine ..)

theorem eraseAbove_trimmed (t : Terminal) :
    Trimmed (List.range (t.cursor.row + 1)) t t.eraseAbove := by
  have rows := eraseRows_trimmed t 0 t.cursor.row
  have cursor : (t.eraseRows 0 t.cursor.row).cursor = t.cursor := (eraseRows_draws ..).cursor
  have line : Trimmed [(t.eraseRows 0 t.cursor.row).cursor.row] (t.eraseRows 0 t.cursor.row)
      t.eraseAbove := (eraseCells_edited ..).trimmed
  rw [cursor] at line
  rw [List.range_succ, List.range_eq_range']
  exact rows.trans line

theorem eraseAll_trimmed (t : Terminal) : Trimmed (List.range t.window.rows) t t.eraseAll := by
  rw [List.range_eq_range']
  exact eraseRows_trimmed t 0 t.window.rows

theorem screenAlignmentTest_trimmed (t : Terminal) :
    Trimmed (List.range t.window.rows) t t.screenAlignmentTest :=
  ((foldl_trimmed alignRow_trimmed (List.range t.window.rows)
    { t with cursor := { t.cursor with region := {} } }).move t.cursor _).marked

theorem putCell_trimmed (t : Terminal) (cell : Cell) :
    Trimmed [t.cursor.row] t (t.putCell cell) :=
  (putCell_edited t cell).trimmed.move t.cursor (t.putCell cell).cursor

def rowsWritten? (t : Terminal) : Operation → Option (List Nat)
  | .putChar _ => some [t.wrapped.cursor.row]
  | .eraseToEndOfLine | .eraseToStartOfLine | .eraseLine | .eraseCharacters _
  | .deleteCharacters _ | .insertBlanks _ => some [t.cursor.row]
  | .eraseBelow =>
    some (t.cursor.row :: List.range' (t.cursor.row + 1) (t.window.rows - (t.cursor.row + 1)))
  | .eraseAbove => some (List.range (t.cursor.row + 1))
  | .eraseAll | .set132Columns _ | .screenAlignmentTest | .setLineSize .screenAlignmentTest =>
    some (List.range t.window.rows)
  | _ => none

def poised (t : Terminal) : Operation → Terminal
  | .putChar _ => t.wrapped
  | .set132Columns on =>
    { t with page := { t.page with columns := if on then 132 else t.window.columns } }
  | _ => t

theorem perform_trimmed {operation : Operation} (writes : t.rowsWritten? operation = some rows) :
    Trimmed rows (t.poised operation) (t.perform operation) := by
  cases operation with
  | putChar c =>
    cases writes
    exact putCell_trimmed t.wrapped _
  | eraseToEndOfLine | eraseToStartOfLine | eraseLine | eraseCharacters =>
    cases writes
    exact (eraseCells_edited ..).trimmed
  | deleteCharacters count =>
    cases writes
    exact (deleteCharacters_edited t count).trimmed
  | insertBlanks count =>
    cases writes
    exact (insertBlanks_edited t count).trimmed
  | eraseBelow =>
    cases writes
    exact eraseBelow_trimmed t
  | eraseAbove =>
    cases writes
    exact eraseAbove_trimmed t
  | eraseAll =>
    cases writes
    exact eraseAll_trimmed t
  | set132Columns on =>
    cases writes
    let u := t.poised (.set132Columns on)
    exact (eraseAll_trimmed u).move u.cursor u.eraseAll.home.cursor
  | screenAlignmentTest =>
    cases writes
    exact screenAlignmentTest_trimmed t
  | setLineSize size =>
    cases size with
    | screenAlignmentTest =>
      cases writes
      exact screenAlignmentTest_trimmed t
    | _ => cases writes
  | _ => cases writes

theorem edits_trim_lines :
    (∀ size identity listening actions,
      let start := new size identity listening
      let t := start.run actions
      ∀ line ∈ t.normal.lines ++ t.alternate.lines, line.length ≤ start.widest actions) ∧
    ∀ (t : Terminal) operation rows, t.rowsWritten? operation = some rows →
      Trimmed rows (t.poised operation) (t.perform operation) := by
  refine ⟨?_, fun _ _ _ writes => perform_trimmed writes⟩
  intro size identity listening actions start t line stored
  have narrow : Narrow (start.widest actions) t := (new_narrow ..).run (Nat.le_refl _)
  rcases List.mem_append.mp stored with inNormal | inAlternate
  · exact narrow.normal.stored inNormal
  · exact narrow.alternate.stored inAlternate

example :
    let t := (new ⟨4, 1⟩ {} false).run [.feed (Utf8.encodeString "abcd"), .resize ⟨2, 1⟩]
    t.rowsWritten? (.deleteCharacters 0) = some [0] ∧ (t.buffer.lineAt 0).length = 4 ∧
      ((t.perform (.deleteCharacters 0)).buffer.lineAt 0).length = 2 := by
  decide +kernel

end Terminal

end VideoTerminal

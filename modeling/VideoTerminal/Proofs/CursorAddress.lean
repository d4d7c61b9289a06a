import VideoTerminal.Proofs.Margins
import VideoTerminal.Proofs.NumberText

-- The place that a report names is the place that the same numbers address. Rows
-- count from the origin both times, and between the margins no row is moved.
namespace VideoTerminal.Terminal
open Sequence

-- A terminal whose remote only ever sent bytes: its window was never resized. The
-- host may listen, take events and lower the flag at any time.
inductive FedOnly (size : Extent) : Terminal → Prop where
  | new (identity : Identity) (listening : Bool) : FedOnly size (new size identity listening)
  | feed {t : Terminal} (bytes : List UInt8) : FedOnly size t → FedOnly size (t.feed bytes).2
  | listen {t : Terminal} : FedOnly size t → FedOnly size { t with listening := true }
  | takeEvents {t : Terminal} : FedOnly size t → FedOnly size t.takeEvents.2
  | clearChanged {t : Terminal} : FedOnly size t → FedOnly size t.clearChanged

variable {t u : Terminal} {size : Extent}

structure Unresized (size : Extent) (t : Terminal) : Prop
    extends Walled size.atLeastOne.rows size.atLeastOne.rows t where
  window : t.window = size.atLeastOne

theorem unresized_stable (size : Extent) : Stable (Unresized size) := by
  have tall : 0 < size.atLeastOne.rows := Nat.le_max_left ..
  have walls := walled_stable tall (Nat.le_succ _)
  refine ⟨fun t unread changed held => ?_, fun t operation held => ?_⟩
  · exact ⟨walls.input t unread changed held.toWalled, held.window⟩
  · exact ⟨walls.perform t operation held.toWalled,
      (perform_steers t operation).window.trans held.window⟩

theorem Unresized.alike (held : Unresized size t) (window : u.window = t.window)
    (page : u.page = t.page) (cursor : u.cursor = t.cursor)
    (saved : u.savedCursor = t.savedCursor) : Unresized size u := by
  have row := held.row
  have column := held.column
  refine ⟨⟨⟨held.move window page (cursor ▸ row) (cursor ▸ column), ?_, ?_⟩, ?_, ?_, ?_, ?_⟩, ?_⟩
  · rw [cursor]; exact held.live
  · rw [saved]; exact held.saved
  · rw [window]; exact held.lowest
  · rw [window]; exact held.highest
  · rw [cursor]; exact held.above.live
  · rw [saved]; exact held.above.saved
  · rw [window]; exact held.window

theorem FedOnly.unresized (fed : FedOnly size t) : Unresized size t := by
  induction fed with
  | new identity listening =>
    exact ⟨new_walled (Nat.le_max_left ..) (Nat.le_refl _) (Nat.le_refl _) identity listening, rfl⟩
  | feed bytes _ held => exact (unresized_stable size).feed held bytes
  | listen _ held => exact held.alike rfl rfl rfl rfl
  | takeEvents _ held => exact held.alike rfl rfl rfl rfl
  | clearChanged _ held => exact held.alike rfl rfl rfl rfl

def reportedRow (t : Terminal) : Nat := t.cursor.row - t.originRow + 1

def reportedColumn (t : Terminal) : Nat := min t.cursor.column t.lastColumn + 1

theorem cursorReport_eq (t : Terminal) :
    t.cursorReport = csiBytes none [t.reportedRow, t.reportedColumn] 0x52 := by
  have opening : Utf8.encodeString "\x1b[" = [0x1b, 0x5b] := by decide
  have separator : Utf8.encodeString ";" = [0x3b] := by decide
  have final : Utf8.encodeString "R" = [0x52] := by decide
  simp only [cursorReport, csiBytes, opening, separator, final]
  simp [reportedRow, reportedColumn]

theorem Unresized.addressedRow (held : Unresized size t) :
    t.addressedRow t.reportedRow = t.cursor.row := by
  have top := held.above.live.top
  have first := held.topMargin
  have last := held.row_le
  have origin : t.originRow ≤ t.cursor.row := by
    unfold originRow
    split
    · exact top
    · exact Nat.zero_le _
  unfold Terminal.addressedRow reportedRow clamp
  omega

theorem addressedColumn_reported (t : Terminal) :
    t.addressedColumn t.reportedColumn = min t.cursor.column t.lastColumn := by
  unfold addressedColumn reportedColumn
  omega

theorem Unresized.numbers_fit (held : Unresized size t) (wide : size.columns < 2 ^ 32)
    (tall : size.rows < 2 ^ 32) : t.reportedRow ≤ maxParam ∧ t.reportedColumn ≤ maxParam := by
  have row := held.row
  have column := held.lastColumn_le
  have page := held.pageColumns
  have rows : t.window.rows = max 1 size.rows := by rw [held.window]; rfl
  have columns : t.window.columns = max 1 size.columns := by rw [held.window]; rfl
  unfold reportedRow reportedColumn maxParam
  omega

def askCursor : List UInt8 := Utf8.encodeString "\x1b[6n"

theorem feed_askCursor (settled : t.unread = []) (listening : t.listening = true) :
    t.feed askCursor = (false, { t with outbox := t.outbox.push (.sendData t.cursorReport) }) := by
  have scanned (encoding : Encoding) :
      scan encoding askCursor = .unit (.csi (numberedCsi none [6] 0x6e) []) [] := by
    cases encoding <;> rfl
  have sent : { t with unread := [], changed := false }.dispatch
      (.csi (numberedCsi none [6] 0x6e) []) =
      { t with
        unread := []
        changed := false
        outbox := t.outbox.push (.sendData t.cursorReport) } := by
    show { t with unread := [], changed := false }.send t.cursorReport = _
    rw [send, raise, raiseAll, if_pos listening]
    rfl
  rw [feed_alone settled (scanned _), sent]
  simp only [Bool.or_false]
  rw [← settled]

theorem operations_address {row column : Nat} (rowSome : 0 < row) (columnSome : 0 < column) :
    (Sequence.csi (numberedCsi none [row, column] 0x48) []).operations =
      [.setCursorPosition column row] := by
  obtain ⟨row, rfl⟩ := Nat.exists_eq_succ_of_ne_zero (Nat.ne_of_gt rowSome)
  obtain ⟨column, rfl⟩ := Nat.exists_eq_succ_of_ne_zero (Nat.ne_of_gt columnSome)
  rfl

theorem feed_address (settled : t.unread = []) (row column : Nat) (rowSome : 0 < row)
    (columnSome : 0 < column) (rowFits : row ≤ maxParam) (columnFits : column ≤ maxParam) :
    t.feed (csiBytes none [row, column] 0x48) = (true, t.setCursorPosition column row) := by
  have ends : 0x40 ≤ (0x48 : UInt8) ∧ (0x48 : UInt8) ≤ 0x7e := by decide
  have scanned := scan_numbers none [row, column] ends t.encoding []
  simp only [List.append_nil, List.map_cons, List.map_nil, Nat.min_eq_left rowFits,
    Nat.min_eq_left columnFits] at scanned
  have placed : { t with unread := [], changed := false }.dispatch
      (.csi (numberedCsi none [row, column] 0x48) []) =
      { t with unread := [], changed := false }.setCursorPosition column row := by
    rw [dispatch, operations_address rowSome columnSome]
    rfl
  rw [feed_alone settled scanned, placed]
  simp only [setCursorPosition, marked, Bool.or_true]
  rw [← settled]
  rfl

-- The report goes out alone and nothing else changes; fed back with the final byte
-- of an address, its numbers bring the cursor to its own row. Only the column past
-- the end of a full line is lost. Sizes have 16 bits, parameters 32.
theorem report_addresses_cursor (wide : size.columns < 2 ^ 32) (tall : size.rows < 2 ^ 32)
    (fed : FedOnly size t) (settled : t.unread = []) (listening : t.listening = true) :
    let numbers := [t.reportedRow, t.reportedColumn]
    let reported :=
      { t with outbox := t.outbox.push (.sendData (csiBytes none numbers 0x52)) }
    t.feed askCursor = (false, reported) ∧
      reported.feed (csiBytes none numbers 0x48) =
        (true, { reported with
          cursor := { t.cursor with column := min t.cursor.column t.lastColumn }
          changed := true }) := by
  intro numbers reported
  have held := fed.unresized
  obtain ⟨rowFits, columnFits⟩ := held.numbers_fit wide tall
  have row : reported.addressedRow t.reportedRow = t.cursor.row := held.addressedRow
  have column : reported.addressedColumn t.reportedColumn = min t.cursor.column t.lastColumn :=
    addressedColumn_reported t
  constructor
  · rw [feed_askCursor settled listening, cursorReport_eq]
  · have addressed := feed_address (t := reported) settled t.reportedRow t.reportedColumn
      (Nat.succ_pos _) (Nat.succ_pos _) rowFits columnFits
    rw [addressed, setCursorPosition, row, column]
    rfl

theorem report_addresses_cursor_in_region :
    let typed := Utf8.encodeString "\x1b[2;3r\x1b[?6h\x1b[2;4Hx"
    let t := ((new ⟨4, 5⟩ {} true).feed typed).2
    t.originRow = 1 ∧ t.cursor.row = 2 ∧ t.cursor.column = 4 ∧
      let reported := { t with
        outbox := t.outbox.push (.sendData (Utf8.encodeString "\x1b[2;4R")) }
      t.feed askCursor = (false, reported) ∧
        reported.feed (Utf8.encodeString "\x1b[2;4H") =
          (true, { reported with
            cursor := { t.cursor with column := 3 }
            changed := true }) := by
  intro typed t
  have reached : FedOnly ⟨4, 5⟩ t := .feed typed (.new {} true)
  have settled : t.unread = [] := by decide +kernel
  have listening : t.listening = true := by decide +kernel
  have numbers : t.reportedRow = 2 ∧ t.reportedColumn = 4 := by decide +kernel
  have column : min t.cursor.column t.lastColumn = 3 := by decide +kernel
  have report : csiBytes none [2, 4] 0x52 = Utf8.encodeString "\x1b[2;4R" := by decide +kernel
  have address : csiBytes none [2, 4] 0x48 = Utf8.encodeString "\x1b[2;4H" := by decide +kernel
  have inverse := report_addresses_cursor (by decide) (by decide) reached settled listening
  simp only [numbers, column, report, address] at inverse
  exact ⟨by decide +kernel, by decide +kernel, by decide +kernel, inverse⟩

end VideoTerminal.Terminal

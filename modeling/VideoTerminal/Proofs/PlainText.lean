import VideoTerminal.Proofs.Decoding
import VideoTerminal.Proofs.Drawing
import VideoTerminal.Proofs.RuleChoice
import VideoTerminal.Proofs.Run

-- Plain text lies in the buffer of a fresh terminal as it was written: one line
-- after the other, each cut where the window ends, with the last ones visible.
namespace VideoTerminal
open Text (isControl)

namespace Sequence
open Dispatch

theorem operations_printable {c : Char} (plain : isControl c = false) :
    (character c).operations = [.putChar c] := by
  have found : (character c).rule? = some catchAll := by
    rcases candidates_character c with alone | ⟨_, -, -, -, control, -⟩
    · rw [rule?_eq, alone]
      rfl
    · rw [isControl, decide_eq_true (.inl control)] at plain
      cases plain
  simp [operations, ownOperations, singles, found, catchAll, Dispatch.character, printable, plain]

end Sequence

-- The text at the start of the line in cells of the default rendition, and
-- nothing behind it.
def Line.ofText (text : List Char) : Line := { cells := text.map fun c => ⟨c, {}⟩ }

namespace Layout

def rowAt (columns : Nat) (segment : List Char) (row : Nat) : List Char :=
  (segment.drop (row * columns)).take columns

def cut (columns : Nat) (segment : List Char) : List (List Char) :=
  (List.range (max 1 ((segment.length + columns - 1) / columns))).map (rowAt columns segment)

def lastRow (columns : Nat) (segment : List Char) : Nat := (segment.length - 1) / columns

def fullRows (columns : Nat) (segment : List Char) : List (List Char) :=
  (List.range (lastRow columns segment)).map (rowAt columns segment)

def lastText (columns : Nat) (segment : List Char) : List Char :=
  rowAt columns segment (lastRow columns segment)

variable {columns : Nat}

theorem cut_eq (wide : 0 < columns) (segment : List Char) :
    cut columns segment = fullRows columns segment ++ [lastText columns segment] := by
  have count : max 1 ((segment.length + columns - 1) / columns) = lastRow columns segment + 1 := by
    unfold lastRow
    rcases Nat.eq_zero_or_pos segment.length with empty | positive
    · rw [empty, Nat.zero_add, Nat.zero_sub, Nat.zero_div, Nat.div_eq_of_lt (by omega)]
      rfl
    · rw [show segment.length + columns - 1 = segment.length - 1 + columns by omega,
        Nat.add_div_right _ wide]
      exact Nat.max_eq_right (Nat.succ_le_succ (Nat.zero_le _))
  rw [cut, count, List.range_succ, List.map_append]
  rfl

theorem fullRows_nil (columns : Nat) : fullRows columns [] = [] := by simp [fullRows, lastRow]

theorem lastText_nil (columns : Nat) : lastText columns [] = [] := by simp [lastText, rowAt]

theorem length_between (wide : 0 < columns) (segment : List Char) :
    lastRow columns segment * columns ≤ segment.length ∧
      segment.length ≤ lastRow columns segment * columns + columns := by
  have least := Nat.div_mul_le_self (segment.length - 1) columns
  have most := Nat.lt_div_mul_add (a := segment.length - 1) wide
  unfold lastRow
  omega

theorem length_lastText (wide : 0 < columns) (segment : List Char) :
    (lastText columns segment).length = segment.length - lastRow columns segment * columns := by
  have between := length_between wide segment
  rw [lastText, rowAt, List.length_take, List.length_drop]
  omega

theorem flatten_rows (columns : Nat) (segment : List Char) (count : Nat) :
    ((List.range count).map (rowAt columns segment)).flatten = segment.take (count * columns) := by
  induction count with
  | zero => simp
  | succ count ih =>
    rw [List.range_succ, List.map_append, List.flatten_append, ih, Nat.succ_mul, List.take_add]
    simp [rowAt]

theorem flatten_cut (wide : 0 < columns) (segment : List Char) :
    (cut columns segment).flatten = segment := by
  have between := length_between wide segment
  have rows := flatten_rows columns segment (lastRow columns segment + 1)
  rw [List.range_succ, List.map_append] at rows
  rw [cut_eq wide]
  refine rows.trans (List.take_of_length_le ?_)
  rw [Nat.succ_mul]
  exact between.2

theorem flatten_cuts (wide : 0 < columns) (segments : List (List Char)) :
    (segments.flatMap (cut columns)).flatten = segments.flatten := by
  induction segments with
  | nil => rfl
  | cons segment later ih =>
    rw [List.flatMap_cons, List.flatten_append, flatten_cut wide, ih, List.flatten_cons]

theorem length_of_mem_cut {segment row : List Char} (found : row ∈ cut columns segment) :
    row.length ≤ columns := by
  obtain ⟨_, -, rfl⟩ := List.mem_map.mp found
  exact List.length_take_le ..

theorem rowAt_append (segment more : List Char) {row : Nat}
    (full : (row + 1) * columns ≤ segment.length) :
    rowAt columns (segment ++ more) row = rowAt columns segment row := by
  rw [Nat.succ_mul] at full
  unfold rowAt
  rw [List.drop_append_of_le_length (by omega), List.take_append_of_le_length]
  rw [List.length_drop]
  omega

theorem rows_append (segment more : List Char) {count : Nat}
    (full : count * columns ≤ segment.length) :
    (List.range count).map (rowAt columns (segment ++ more)) =
      (List.range count).map (rowAt columns segment) := by
  apply List.map_congr_left
  intro row inside
  apply rowAt_append
  have below := Nat.succ_le_of_lt (List.mem_range.mp inside)
  exact Nat.le_trans (Nat.mul_le_mul_right columns below) full

theorem lastRow_append (segment : List Char) (c : Char) {row : Nat}
    (least : row * columns ≤ segment.length) (most : segment.length < (row + 1) * columns) :
    lastRow columns (segment ++ [c]) = row := by
  rw [lastRow, List.length_append, List.length_singleton, Nat.add_sub_cancel]
  exact Nat.div_eq_of_lt_le least most

theorem append_with_room (wide : 0 < columns) (segment : List Char) (c : Char)
    (room : (lastText columns segment).length < columns) :
    fullRows columns (segment ++ [c]) = fullRows columns segment ∧
      lastText columns (segment ++ [c]) = lastText columns segment ++ [c] := by
  obtain ⟨least, -⟩ := length_between wide segment
  rw [length_lastText wide] at room
  have same : lastRow columns (segment ++ [c]) = lastRow columns segment := by
    refine lastRow_append segment c least ?_
    rw [Nat.succ_mul]
    omega
  unfold fullRows lastText
  rw [same]
  refine ⟨rows_append segment [c] least, ?_⟩
  have left : (segment.drop (lastRow columns segment * columns)).length < columns := by
    rw [List.length_drop]
    exact room
  rw [rowAt, rowAt, List.drop_append_of_le_length least, List.take_of_length_le,
    List.take_of_length_le (Nat.le_of_lt left)]
  rw [List.length_append]
  exact left

theorem append_without_room (wide : 0 < columns) (segment : List Char) (c : Char)
    (full : (lastText columns segment).length = columns) :
    fullRows columns (segment ++ [c]) =
        fullRows columns segment ++ [lastText columns segment] ∧
      lastText columns (segment ++ [c]) = [c] := by
  obtain ⟨least, most⟩ := length_between wide segment
  rw [length_lastText wide] at full
  have reached : (lastRow columns segment + 1) * columns = segment.length := by
    rw [Nat.succ_mul]
    omega
  have next : lastRow columns (segment ++ [c]) = lastRow columns segment + 1 := by
    refine lastRow_append segment c (Nat.le_of_eq reached) ?_
    rw [Nat.succ_mul, reached]
    omega
  unfold fullRows lastText
  rw [next]
  constructor
  · rw [rows_append segment [c] (Nat.le_of_eq reached), List.range_succ, List.map_append]
    rfl
  · rw [rowAt, reached, List.drop_left]
    exact List.take_of_length_le wide

end Layout

theorem Padded.modify_end {α : Type} (filler : α) (f : α → α) (items : List α) :
    modify filler items.length f items = items ++ [f filler] := by
  rw [modify, pad, Nat.add_sub_cancel_left]
  induction items with
  | nil => rfl
  | cons item rest ih => exact congrArg (item :: ·) ih

theorem Line.set_ofText {columns : Nat} (text : List Char) (c : Char)
    (room : text.length < columns) :
    ((ofText text).set text.length ⟨c, {}⟩).trim columns = ofText (text ++ [c]) := by
  have stored : text.length = (ofText text).cells.length := (List.length_map _).symm
  have grown := Padded.modify_end {} (fun _ => ⟨c, {}⟩) (ofText text).cells
  rw [← stored] at grown
  unfold set modify trim
  dsimp only
  rw [grown, List.take_of_length_le]
  · simp [ofText]
  · rw [List.length_append, ← stored]
    exact room

namespace Terminal

variable {size : Extent} {identity : Identity} {listening : Bool}
variable {above : List (List Char)} {current : List Char} {column : Nat} {t u : Terminal}

-- A terminal whose buffer holds the lines above the cursor and the one it is on.
-- But for what is drawn it is as fresh as it was made. The cursor is on the last
-- row of the window as soon as there are lines enough.
structure Laid (size : Extent) (identity : Identity) (listening : Bool)
    (above : List (List Char)) (current : List Char) (column : Nat) (t : Terminal) : Prop where
  wide : 0 < size.columns
  tall : 0 < size.rows
  drawn : Draws
    { new size identity listening with
      cursor := { column, row := min above.length (size.rows - 1) } } t
  top : t.normal.topRow = above.length + 1 - size.rows
  lines : ∀ row, t.normal.lineAt row = .ofText ((above ++ [current])[row]?.getD [])

theorem new_laid (wide : 0 < size.columns) (tall : 0 < size.rows) :
    Laid size identity listening [] [] 0 (new size identity listening) := by
  refine ⟨wide, tall, ?_, ?_, ?_⟩
  · rw [List.length_nil, Nat.zero_min]
    exact .refl _
  · exact (Nat.sub_eq_zero_of_le tall).symm
  · intro row
    cases row <;> rfl

section Fresh

variable (laid : Laid size identity listening above current column t)
include laid

theorem Laid.active : t.active = .normal := laid.drawn.active

theorem Laid.cursor :
    t.cursor = { column, row := min above.length (size.rows - 1) } := laid.drawn.cursor

theorem Laid.pageColumns : t.page.columns = size.columns := by
  rw [laid.drawn.page]
  exact Nat.max_eq_right laid.wide

theorem Laid.windowRows : t.window.rows = size.rows := by
  rw [laid.drawn.window]
  exact Nat.max_eq_right laid.tall

theorem Laid.automaticNewLine : t.automaticNewLine = false :=
  (congrArg Terminal.automaticNewLine laid.drawn :)

theorem Laid.encoding : t.encoding = .utf8 := (congrArg Terminal.encoding laid.drawn :)

theorem Laid.charsets : t.charsets = {} := (congrArg Terminal.charsets laid.drawn :)

theorem Laid.place : t.normal.topRow + t.cursor.row = above.length := by
  have tall := laid.tall
  rw [laid.top, laid.cursor]
  show above.length + 1 - size.rows + min above.length (size.rows - 1) = above.length
  omega

theorem Laid.withColumn (target : Nat) :
    Laid size identity listening above current target (t.withColumn target) :=
  ⟨laid.wide, laid.tall, laid.drawn.withColumn target, laid.top, laid.lines⟩

theorem Laid.marked : Laid size identity listening above current column t.marked :=
  ⟨laid.wide, laid.tall, laid.drawn.trans (marked_draws t), laid.top, laid.lines⟩

end Fresh

theorem line_read (above : List (List Char)) (current : List Char) (row : Nat) :
    (above ++ [current])[row]?.getD [] =
      if row = above.length then current else above[row]?.getD [] := by
  by_cases last : row = above.length
  · rw [if_pos last, last, List.getElem?_concat_length]
    rfl
  · rw [if_neg last]
    rcases Nat.lt_or_gt_of_ne last with before | behind
    · rw [List.getElem?_append_left before]
    · rw [List.getElem?_eq_none (by rw [List.length_append]; exact behind),
        List.getElem?_eq_none (Nat.le_of_lt behind)]

theorem line_read_empty (above : List (List Char)) (row : Nat) :
    (above ++ [[]])[row]?.getD [] = above[row]?.getD [] := by
  rw [line_read]
  split
  · rename_i last
    rw [List.getElem?_eq_none (Nat.le_of_eq last.symm)]
    rfl
  · rfl

theorem putCell_normal (normal : t.active = .normal) (replaces : t.cursor.insertMode = false)
    (cell : Cell) :
    (t.putCell cell).normal = t.normal.modifyLine (t.normal.topRow + t.cursor.row) fun l =>
      (l.set t.cursor.column cell).trim t.page.columns := by
  unfold Terminal.putCell
  simp only [replaces]
  rw [raise, raiseAll_eq]
  show (t.editLine _ _).normal = _
  unfold editLine mapBuffer
  rw [normal]

theorem Laid.putCell (laid : Laid size identity listening above current current.length t)
    (room : current.length < size.columns) (c : Char) :
    Laid size identity listening above (current ++ [c]) (current.length + 1)
      (t.putCell ⟨c, {}⟩) := by
  have cursor := laid.cursor
  have drawn := putCell_draws t ⟨c, {}⟩
  have written := putCell_normal laid.active (by rw [cursor]) ⟨c, {}⟩
  rw [laid.place, laid.pageColumns] at written
  rw [cursor] at drawn written
  refine ⟨laid.wide, laid.tall, (laid.drawn.withColumn _).trans drawn, ?_, fun row => ?_⟩
  · rw [written]
    exact laid.top
  · rw [written, Buffer.lineAt_modifyLine, line_read, laid.lines, line_read, laid.lines, line_read]
    split
    · rw [if_pos rfl]
      exact Line.set_ofText current c room
    · rfl

theorem scrollWindow_normal (normal : t.active = .normal) :
    t.scrollWindow.normal = { t.normal with topRow := t.normal.topRow + 1 } := by
  unfold scrollWindow reportWindow reportRows
  rw [raise, raiseAll_eq]
  show (t.mapBuffer _).normal = _
  unfold mapBuffer
  rw [normal]

-- The cursor goes down as long as there is a row below it, then the window does.
theorem Laid.advanceRow (laid : Laid size identity listening above current 0 t) :
    Laid size identity listening (above ++ [current]) [] 0 t.advanceRow := by
  have tall := laid.tall
  have top := laid.top
  have cursor := laid.cursor
  have rows := laid.windowRows
  have length : (above ++ [current]).length = above.length + 1 := List.length_append
  have empty : ∀ row, t.normal.lineAt row =
      .ofText ((above ++ [current] ++ [[]])[row]?.getD []) := by
    intro row
    rw [laid.lines, line_read_empty]
  have unset : t.cursor.region.isSet = false := by rw [cursor]; rfl
  unfold Terminal.advanceRow
  rw [unset, rows, cursor]
  simp only [Bool.false_eq_true, if_false]
  split
  · rename_i room
    refine ⟨laid.wide, tall, ?_, ?_, empty⟩
    · rw [length, show min (above.length + 1) (size.rows - 1) =
        min above.length (size.rows - 1) + 1 by omega]
      exact (laid.drawn.move _).trans (marked_draws _)
    · rw [length]
      exact top.trans (by omega)
  · rename_i full
    have scrolled := scrollWindow_normal
      (t := { t with cursor := { column := 0, row := size.rows - 1 } }) laid.active
    refine ⟨laid.wide, tall, ?_, ?_, fun row => ?_⟩
    · rw [length, show min (above.length + 1) (size.rows - 1) = size.rows - 1 by omega]
      exact ((laid.drawn.move _).trans (scrollWindow_draws _)).trans (marked_draws _)
    · refine (congrArg Buffer.topRow scrolled).trans ?_
      rw [length]
      show t.normal.topRow + 1 = _
      omega
    · refine (congrArg (fun b : Buffer => b.lineAt row) scrolled).trans ?_
      exact empty row

def Typed (size : Extent) (identity : Identity) (listening : Bool) (before : List (List Char))
    (typed : List Char) (t : Terminal) : Prop :=
  Laid size identity listening (before ++ Layout.fullRows size.columns typed)
    (Layout.lastText size.columns typed) (Layout.lastText size.columns typed).length t

variable {before : List (List Char)} {typed segment : List Char}

theorem Typed.putChar (typing : Typed size identity listening before typed t) (c : Char) :
    Typed size identity listening before (typed ++ [c]) (t.putChar c) := by
  have laid : Laid size identity listening _ _ _ t := typing
  have wide := laid.wide
  have cell : (⟨t.charsets.glyph c, t.cursor.rendition⟩ : Cell) = ⟨c, {}⟩ := by
    rw [laid.charsets, laid.cursor]
    rfl
  have column : t.cursor.column = (Layout.lastText size.columns typed).length := by
    rw [laid.cursor]
  unfold Terminal.putChar Typed
  rw [cell, wrapped, laid.pageColumns, column]
  split
  · rename_i room
    obtain ⟨same, more⟩ := Layout.append_with_room wide typed c room
    rw [same, more, List.length_append]
    exact laid.putCell room c
  · rename_i full
    have length := Layout.length_lastText wide typed
    have between := Layout.length_between wide typed
    obtain ⟨grown, alone⟩ := Layout.append_without_room wide typed c (by omega)
    have wraps : t.cursor.wordWrap = true := by rw [laid.cursor]
    have next := (laid.withColumn 0).advanceRow
    rw [if_pos wraps, newLine, (laid.withColumn 0).automaticNewLine, grown, alone,
      ← List.append_assoc]
    exact next.putCell wide c

theorem Typed.break (typing : Typed size identity listening before typed t) :
    Typed size identity listening (before ++ Layout.cut size.columns typed) []
      t.carriageReturn.newLine := by
  have laid : Laid size identity listening _ _ _ t := typing
  have start := (laid.withColumn 0).marked
  have next := start.advanceRow
  rw [List.append_assoc, ← Layout.cut_eq laid.wide] at next
  have stays : t.carriageReturn.automaticNewLine = false := start.automaticNewLine
  rw [newLine, stays, Typed, Layout.fullRows_nil, Layout.lastText_nil, List.append_nil]
  exact next

theorem apply_character {c : Char} (utf8 : t.encoding = .utf8) (plain : c.toNat ≠ 0x1b)
    (rest : List UInt8) :
    t.apply (String.utf8EncodeChar c ++ rest) = (t.dispatch (.character c)).apply rest :=
  apply_unit (by rw [utf8]; exact Sequence.scan_character plain rest)

theorem Typed.encoding (typing : Typed size identity listening before typed t) :
    t.encoding = .utf8 :=
  Laid.encoding typing

theorem Typed.apply (typing : Typed size identity listening before typed t)
    (plain : ∀ c ∈ segment, isControl c = false) (rest : List UInt8) :
    ∃ u, Typed size identity listening before (typed ++ segment) u ∧
      t.apply (Utf8.encode segment ++ rest) = u.apply rest := by
  induction segment generalizing t typed with
  | nil => exact ⟨t, by rw [List.append_nil]; exact typing, rfl⟩
  | cons c segment ih =>
    have printable := plain c List.mem_cons_self
    have noEscape : c.toNat ≠ 0x1b := by
      simp [isControl] at printable
      omega
    obtain ⟨u, after, applied⟩ := ih (typing.putChar c)
      fun d later => plain d (List.mem_cons_of_mem _ later)
    refine ⟨u, by rw [List.append_cons]; exact after, ?_⟩
    have one := apply_character typing.encoding noEscape (Utf8.encode segment ++ rest)
    rw [Terminal.dispatch, Sequence.operations_printable printable] at one
    rw [Utf8.encode, List.flatMap_cons, List.append_assoc]
    exact one.trans applied

theorem Typed.apply_break (typing : Typed size identity listening before typed t)
    (rest : List UInt8) :
    ∃ u, Typed size identity listening (before ++ Layout.cut size.columns typed) [] u ∧
      t.apply (Utf8.encode ['\r', '\n'] ++ rest) = u.apply rest := by
  refine ⟨_, typing.break, ?_⟩
  have returned : t.carriageReturn.encoding = .utf8 := typing.encoding
  have first := apply_character typing.encoding (c := '\r') (by decide)
    (String.utf8EncodeChar '\n' ++ rest)
  have second := apply_character returned (c := '\n') (by decide) rest
  exact first.trans second

theorem Typed.applyAll (typing : Typed size identity listening before [] t)
    {segments : List (List Char)} (nonempty : segments ≠ [])
    (plain : ∀ segment ∈ segments, ∀ c ∈ segment, isControl c = false) :
    ∃ front last u, segments = front ++ [last] ∧
      Typed size identity listening (before ++ front.flatMap (Layout.cut size.columns)) last u ∧
      t.apply (Utf8.encode (['\r', '\n'].intercalate segments)) = { u with unread := [] } := by
  induction segments generalizing t before with
  | nil => exact absurd rfl nonempty
  | cons segment later ih =>
    have printable := plain segment List.mem_cons_self
    cases later with
    | nil =>
      obtain ⟨u, after, applied⟩ := typing.apply printable []
      refine ⟨[], segment, u, rfl, ?_, ?_⟩
      · simpa using after
      · rw [List.append_nil, apply_nil] at applied
        simpa using applied
    | cons next more =>
      obtain ⟨u, after, applied⟩ := typing.apply printable
        (Utf8.encode ['\r', '\n'] ++ Utf8.encode (['\r', '\n'].intercalate (next :: more)))
      obtain ⟨v, fresh, broken⟩ := after.apply_break
        (Utf8.encode (['\r', '\n'].intercalate (next :: more)))
      obtain ⟨front, last, w, split, done, finished⟩ := ih fresh nofun
        fun s inside => plain s (List.mem_cons_of_mem _ inside)
      refine ⟨segment :: front, last, w, by rw [split]; rfl, ?_, ?_⟩
      · rw [List.flatMap_cons, ← List.append_assoc]
        exact done
      · rw [List.intercalate_cons_cons, List.append_assoc, Utf8.encode, List.flatMap_append,
          List.flatMap_append]
        exact (applied.trans broken).trans finished

theorem plain_text_laid_out (size : Extent) (identity : Identity) (listening : Bool)
    (wide : 0 < size.columns) (tall : 0 < size.rows) (segments : List (List Char))
    (nonempty : segments ≠ [])
    (plain : ∀ segment ∈ segments, ∀ c ∈ segment, isControl c = false) :
    let text := ['\r', '\n'].intercalate segments
    let t := ((new size identity listening).feed (Utf8.encode text)).2
    let lines := segments.flatMap (Layout.cut size.columns)
    (∀ row, t.normal.lineAt row = .ofText (lines[row]?.getD [])) ∧
      lines.flatten = segments.flatten ∧ (∀ line ∈ lines, line.length ≤ size.columns) ∧
      t.normal.topRow = lines.length - size.rows ∧
      t.cursor.row = lines.length - 1 - t.normal.topRow ∧
      t.cursor.column = (lines.getLastD []).length ∧ t.active = .normal ∧ t.unread = [] := by
  intro text t lines
  have fresh : Typed size identity listening [] []
      { new size identity listening with unread := [], changed := false } := by
    rw [Typed, Layout.fullRows_nil, Layout.lastText_nil]
    exact new_laid wide tall
  obtain ⟨front, last, u, split, done, applied⟩ := fresh.applyAll nonempty plain
  have laid : Laid size identity listening _ _ _ u := done
  rw [List.nil_append] at laid
  have whole : lines = front.flatMap (Layout.cut size.columns) ++
      Layout.fullRows size.columns last ++ [Layout.lastText size.columns last] := by
    rw [List.append_assoc, ← Layout.cut_eq wide]
    show segments.flatMap _ = _
    rw [split, List.flatMap_append, List.flatMap_singleton]
  have normal : t.normal = u.normal := (congrArg Terminal.normal applied :)
  have cursor : t.cursor = u.cursor := (congrArg Terminal.cursor applied :)
  have count : lines.length = (front.flatMap (Layout.cut size.columns) ++
      Layout.fullRows size.columns last).length + 1 := by
    rw [whole, List.length_append]
    rfl
  have top : t.normal.topRow = lines.length - size.rows := by
    rw [normal, laid.top, count]
  refine ⟨fun row => ?_, Layout.flatten_cuts wide segments, fun line found => ?_, top, ?_, ?_, ?_,
    ?_⟩
  · rw [normal, laid.lines, whole]
  · obtain ⟨segment, -, inside⟩ := List.mem_flatMap.mp found
    exact Layout.length_of_mem_cut inside
  · rw [top, cursor, laid.cursor]
    show min _ (size.rows - 1) = _
    omega
  · rw [cursor, laid.cursor, whole, List.getLastD_concat]
  · exact (congrArg Terminal.active applied).trans laid.active
  · exact (congrArg Terminal.unread applied :)

theorem plain_text_laid_out_wrapping :
    let t := ((new ⟨2, 2⟩ {} true).feed (Utf8.encode "abc\r\n\r\né".toList)).2
    t.normal.lineAt 0 = .ofText ['a', 'b'] ∧ t.normal.lineAt 1 = .ofText ['c'] ∧
      t.normal.lineAt 2 = .ofText [] ∧ t.normal.lineAt 3 = .ofText ['é'] ∧
      t.normal.topRow = 2 ∧ t.cursor.row = 1 ∧ t.cursor.column = 1 := by
  intro t
  obtain ⟨lines, -, -, top, row, column, -⟩ := plain_text_laid_out ⟨2, 2⟩ {} true (by decide)
    (by decide) [['a', 'b', 'c'], [], ['é']] (by decide) (by simp [isControl])
  exact ⟨lines 0, lines 1, lines 2, lines 3, top, row.trans (by rw [top]; rfl), column⟩

end Terminal

end VideoTerminal

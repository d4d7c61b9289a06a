import Mathlib.Data.Stream.Init
import VideoTerminal.Buffer

-- Lines and buffers as what they stand for: sequences without end, on which every
-- edit is a single cut. Where the stored part ends makes no difference to any edit,
-- nor to what is read.
namespace VideoTerminal

namespace Endless

variable {α : Type}

def ofList (filler : α) (items : List α) : Stream' α := items ++ₛ Stream'.const filler

def change (i : Nat) (f : α → α) (s : Stream' α) : Stream' α :=
  s.take i ++ₛ .cons (f (s.get i)) (s.drop (i + 1))

def insert (i : Nat) (item : α) (s : Stream' α) : Stream' α := s.take i ++ₛ .cons item (s.drop i)

def remove (i : Nat) (s : Stream' α) : Stream' α := s.take i ++ₛ s.drop (i + 1)

def cut (filler : α) (i : Nat) (s : Stream' α) : Stream' α := s.take i ++ₛ Stream'.const filler

theorem get_append (items : List α) (s : Stream' α) (j : Nat) :
    (items ++ₛ s).get j = items[j]?.getD (s.get (j - items.length)) := by
  by_cases stored : j < items.length
  · rw [Stream'.get_append_left j items s stored, List.getElem?_eq_getElem stored, Option.getD_some]
  · obtain ⟨beyond, rfl⟩ := Nat.exists_eq_add_of_le (Nat.le_of_not_lt stored)
    rw [Stream'.get_append_right, List.getElem?_eq_none (Nat.le_add_right ..), Option.getD_none,
      Nat.add_sub_cancel_left]

theorem get_take_append (s t : Stream' α) (i j : Nat) :
    (s.take i ++ₛ t).get j = if j < i then s.get j else t.get (j - i) := by
  rw [get_append, Stream'.length_take]
  by_cases before : j < i
  · rw [if_pos before, Stream'.getElem?_take before, Option.getD_some]
  · have past : (s.take i).length ≤ j := by rw [Stream'.length_take]; omega
    rw [if_neg before, List.getElem?_eq_none past, Option.getD_none]

theorem get_cons (item : α) (s : Stream' α) (j : Nat) :
    (Stream'.cons item s).get j = if j = 0 then item else s.get (j - 1) := by
  cases j <;> rfl

theorem get_ofList (filler : α) (items : List α) (j : Nat) :
    (ofList filler items).get j = Padded.read filler items j := by
  rw [ofList, get_append, Stream'.get_const, Padded.read_eq]

variable {filler : α} {items : List α}

theorem ofList_modify (i : Nat) (f : α → α) :
    ofList filler (Padded.modify filler i f items) = change i f (ofList filler items) := by
  ext j
  rw [get_ofList, Padded.read_modify, change, get_take_append, get_cons, Stream'.get_drop]
  simp only [get_ofList]
  by_cases before : j < i
  · rw [if_pos before, if_neg (by omega)]
  · by_cases here : j = i
    · rw [if_pos here, if_neg before, if_pos (by omega)]
    · rw [if_neg here, if_neg before, if_neg (by omega), show i + 1 + (j - i - 1) = j by omega]

theorem ofList_insert (i : Nat) (item : α) :
    ofList filler (Padded.insert filler i item items) = insert i item (ofList filler items) := by
  ext j
  rw [get_ofList, Padded.read_insert, insert, get_take_append, get_cons, Stream'.get_drop]
  simp only [get_ofList]
  by_cases before : j < i
  · rw [if_pos before, if_pos before]
  · by_cases here : j = i
    · rw [if_neg before, if_neg before, if_pos here, if_pos (by omega)]
    · rw [if_neg before, if_neg before, if_neg here, if_neg (by omega),
        show i + (j - i - 1) = j - 1 by omega]

theorem ofList_remove (i : Nat) :
    ofList filler (Padded.remove i items) = remove i (ofList filler items) := by
  ext j
  rw [get_ofList, Padded.read_remove, remove, get_take_append, Stream'.get_drop]
  simp only [get_ofList]
  by_cases before : j < i
  · rw [if_pos before, if_pos before]
  · rw [if_neg before, if_neg before, show i + 1 + (j - i) = j + 1 by omega]

theorem ofList_take (i : Nat) :
    ofList filler (items.take i) = cut filler i (ofList filler items) := by
  ext j
  rw [get_ofList, Padded.read_take, cut, get_take_append, get_ofList, Stream'.get_const]

theorem ofList_modify_id (i : Nat) :
    ofList filler (Padded.modify filler i id items) = ofList filler items := by
  ext j
  rw [get_ofList, get_ofList, Padded.read_modify]
  split
  · rename_i here
    rw [here, id]
  · rfl

end Endless

namespace Line

-- What may be done to a line. A cell can be reached to be changed in place, and then
-- nothing or anything may happen to it.
inductive Edit where
  | reach (column : Nat)
  | change (column : Nat) (f : Cell → Cell)
  | set (column : Nat) (cell : Cell)
  | insert (column : Nat) (cell : Cell)
  | remove (column : Nat)
  | trim (columns : Nat)

def edit (l : Line) : Edit → Line
  | .reach column => l.modify column id
  | .change column f => l.modify column f
  | .set column cell => l.set column cell
  | .insert column cell => l.insert column cell
  | .remove column => l.remove column
  | .trim columns => l.trim columns

def Edit.apply (cells : Stream' Cell) : Edit → Stream' Cell
  | .reach _ => cells
  | .change column f => Endless.change column f cells
  | .set column cell => Endless.change column (fun _ => cell) cells
  | .insert column cell => Endless.insert column cell cells
  | .remove column => Endless.remove column cells
  | .trim columns => Endless.cut {} columns cells

def endless (l : Line) : Stream' Cell := Endless.ofList {} l.cells

theorem get_endless (l : Line) (column : Nat) : l.endless.get column = l.cellAt column :=
  Endless.get_ofList ..

theorem endless_edit (l : Line) (edit : Edit) : (l.edit edit).endless = edit.apply l.endless := by
  cases edit with
  | reach column => exact Endless.ofList_modify_id column
  | change column f => exact Endless.ofList_modify column f
  | set column cell => exact Endless.ofList_modify column fun _ => cell
  | insert column cell => exact Endless.ofList_insert column cell
  | remove column => exact Endless.ofList_remove column
  | trim columns => exact Endless.ofList_take columns

theorem endless_edits (l : Line) (edits : List Edit) :
    (edits.foldl edit l).endless = edits.foldl Edit.apply l.endless :=
  (List.foldl_hom endless fun l edit => (endless_edit l edit).symm).symm

end Line

structure EndlessBuffer where
  lines : Stream' Line
  topRow : Nat

namespace Buffer

inductive Edit where
  | reach (row : Nat)
  | change (row : Nat) (f : Line → Line)
  | insert (row : Nat) (line : Line)
  | remove (row : Nat)
  | scroll (topRow : Nat)

def edit (b : Buffer) : Edit → Buffer
  | .reach row => b.modifyLine row id
  | .change row f => b.modifyLine row f
  | .insert row line => b.insert row line
  | .remove row => b.remove row
  | .scroll topRow => { b with topRow }

def Edit.apply (b : EndlessBuffer) : Edit → EndlessBuffer
  | .reach _ => b
  | .change row f => { b with lines := Endless.change row f b.lines }
  | .insert row line => { b with lines := Endless.insert row line b.lines }
  | .remove row => { b with lines := Endless.remove row b.lines }
  | .scroll topRow => { b with topRow }

def endless (b : Buffer) : EndlessBuffer where
  lines := Endless.ofList {} b.lines
  topRow := b.topRow

theorem get_endless (b : Buffer) (row : Nat) : b.endless.lines.get row = b.lineAt row :=
  Endless.get_ofList ..

theorem endless_edit (b : Buffer) (edit : Edit) :
    (b.edit edit).endless = edit.apply b.endless := by
  have same {c : Buffer} {lines : Stream' Line} (read : Endless.ofList {} c.lines = lines)
      (topRow : c.topRow = b.topRow) : c.endless = { b.endless with lines } := by
    rw [endless, read, topRow]
    rfl
  cases edit with
  | reach row => exact same (Endless.ofList_modify_id row) rfl
  | change row f => exact same (Endless.ofList_modify row f) rfl
  | insert row line => exact same (Endless.ofList_insert row line) rfl
  | remove row => exact same (Endless.ofList_remove row) rfl
  | scroll topRow => rfl

theorem endless_edits (b : Buffer) (edits : List Edit) :
    (edits.foldl edit b).endless = edits.foldl Edit.apply b.endless :=
  (List.foldl_hom endless fun b edit => (endless_edit b edit).symm).symm

end Buffer

theorem edits_read_endless (l : Line) (cellEdits : List Line.Edit) (b : Buffer)
    (lineEdits : List Buffer.Edit) :
    let line := cellEdits.foldl Line.edit l
    let cells := cellEdits.foldl Line.Edit.apply l.endless
    let buffer := lineEdits.foldl Buffer.edit b
    let lines := lineEdits.foldl Buffer.Edit.apply b.endless
    (line.endless = cells ∧ ∀ column,
      (line.cell? column).getD {} = cells.get column ∧
      line.charAt column = (cells.get column).glyph) ∧
    buffer.endless = lines ∧ ∀ row,
      (buffer.line? row).getD {} = lines.lines.get row ∧
      (buffer.visibleLine? row).getD {} = lines.lines.get (lines.topRow + row) := by
  intro line cells buffer lines
  have sameCells : line.endless = cells := Line.endless_edits l cellEdits
  have sameLines : buffer.endless = lines := Buffer.endless_edits b lineEdits
  refine ⟨⟨sameCells, fun column => ?_⟩, sameLines, fun row => ?_⟩
  · rw [← sameCells, Line.get_endless]
    exact ⟨(Padded.read_eq ..).symm, rfl⟩
  · rw [← sameLines, Buffer.get_endless, Buffer.get_endless]
    exact ⟨(Padded.read_eq ..).symm, Buffer.visibleLine?_getD buffer row⟩

end VideoTerminal

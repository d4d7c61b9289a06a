import VideoTerminal.Proofs.Keeping
import VideoTerminal.Proofs.Run

-- All that operations do to the two buffers, step after step, with the characters
-- that they bring in. Rows are counted from the window, so what is above it stays.
namespace VideoTerminal

def Line.Brings (glyphs : Char → Prop) (f : Line → Line) : Prop :=
  ∀ l column, (∃ old, (f l).cellAt column = l.cellAt old) ∨
    (f l).charAt column = ' ' ∨ glyphs ((f l).charAt column)

namespace Line

variable {glyphs : Char → Prop} {f : Line → Line}

theorem brings_of_same (same : ∀ l, (f l).cells = l.cells) : Brings glyphs f := by
  refine fun l column => .inl ⟨column, ?_⟩
  rw [cellAt, same]
  rfl

theorem Brings.trim (brings : Brings glyphs f) (columns : Nat) :
    Brings glyphs fun l => (f l).trim columns := by
  intro l column
  by_cases kept : column < columns
  · have same : ((f l).trim columns).cellAt column = (f l).cellAt column := by
      rw [cellAt_trim, if_pos kept]
    simp only [charAt, same]
    exact brings l column
  · refine .inr (.inl ?_)
    simp only [charAt, cellAt_trim, if_neg kept]

theorem brings_fill {cell : Cell} (blank : cell.glyph = ' ') (first last : Nat) :
    Brings glyphs fun l => l.fill first last cell := by
  intro l column
  simp only [charAt, cellAt_fill]
  split
  · exact .inr (.inl blank)
  · exact .inl ⟨column, rfl⟩

theorem brings_insertMany {cell : Cell} (blank : cell.glyph = ' ') (column count : Nat) :
    Brings glyphs fun l => l.insertMany column count cell := by
  intro l place
  simp only [charAt, cellAt_insertMany]
  split
  · exact .inl ⟨place, rfl⟩
  · split
    · exact .inr (.inl blank)
    · exact .inl ⟨place - count, rfl⟩

theorem brings_removeMany (column count : Nat) :
    Brings glyphs fun l => l.removeMany column count := by
  intro l place
  rw [cellAt_removeMany]
  split
  · exact .inl ⟨place, rfl⟩
  · exact .inl ⟨place + count, rfl⟩

theorem brings_insert {cell : Cell} (shown : glyphs cell.glyph) (column : Nat) :
    Brings glyphs fun l => l.insert column cell := by
  intro l place
  simp only [charAt, cellAt_insert]
  split
  · exact .inl ⟨place, rfl⟩
  · split
    · exact .inr (.inr shown)
    · exact .inl ⟨place - 1, rfl⟩

theorem brings_set {cell : Cell} (shown : glyphs cell.glyph) (column : Nat) :
    Brings glyphs fun l => l.set column cell := by
  intro l place
  simp only [charAt, cellAt_set]
  split
  · exact .inr (.inr shown)
  · exact .inl ⟨place, rfl⟩

theorem brings_filled {cell : Cell} (shown : glyphs cell.glyph) (columns : Nat) :
    Brings glyphs fun _ => Line.filled cell columns := by
  intro l place
  simp only [charAt, cellAt, filled, Padded.read_eq, List.getElem?_replicate]
  split
  · exact .inr (.inr shown)
  · exact .inr (.inl rfl)

end Line

theorem LineEdit.brings {columns : Nat} {glyphs : Char → Prop} {f : Line → Line}
    (edit : LineEdit columns glyphs f) : Line.Brings glyphs f := by
  cases edit with
  | erase first last rendition => exact (Line.brings_fill rfl first last).trim columns
  | delete column count => exact (Line.brings_removeMany column count).trim columns
  | spread column count rendition => exact (Line.brings_insertMany rfl column count).trim columns
  | insert column shown => exact (Line.brings_insert shown column).trim columns
  | set column shown => exact (Line.brings_set shown column).trim columns
  | align shown => exact Line.brings_filled shown columns
  | rescale same => exact Line.brings_of_same same

namespace Buffer

-- The order of insertion and removal differs between the two directions of
-- scrolling, which matters where fewer lines are stored than the region has rows.
-- Only a reset clears: the window then starts behind what is stored.
inductive Worked (glyphs : Char → Prop) (resets : Prop) (b : Buffer) : Buffer → Prop where
  | refl : Worked glyphs resets b b
  | edit {c : Buffer} (row : Nat) {f : Line → Line} (brings : Line.Brings glyphs f) :
      Worked glyphs resets b c → Worked glyphs resets b (c.modifyLine (c.topRow + row) f)
  | replace {c : Buffer} (gone fresh : Nat) : Worked glyphs resets b c →
      Worked glyphs resets b ((c.remove (c.topRow + gone)).insert (c.topRow + fresh) {})
  | scroll {c : Buffer} {top bottom : Nat} (order : top ≤ bottom) : Worked glyphs resets b c →
      Worked glyphs resets b ((c.insert (c.topRow + bottom + 1) {}).remove (c.topRow + top))
  | advance {c : Buffer} (rows : Nat) :
      Worked glyphs resets b c → Worked glyphs resets b { c with topRow := c.topRow + rows }
  | clear {c : Buffer} (reset : resets) :
      Worked glyphs resets b c → Worked glyphs resets b { c with topRow := c.length }

theorem worked_closed (columns : Nat) (glyphs : Char → Prop) (resets : Prop) (b : Buffer) :
    Closed (LineEdit columns glyphs) resets (Worked glyphs resets b) where
  edit _ row _ edit worked := worked.edit row edit.brings
  replace _ gone fresh worked := worked.replace gone fresh
  scroll _ _ _ order worked := worked.scroll order
  advance _ rows worked := worked.advance rows
  clear _ reset worked := worked.clear reset

end Buffer

namespace Terminal

structure Works (glyphs : Char → Prop) (resets : Prop) (t u : Terminal) : Prop where
  normal : t.normal.Worked glyphs resets u.normal
  alternate : t.alternate.Worked glyphs resets u.alternate

def worked (glyphs : Char → Prop) (resets : Prop) (t : Terminal) : BufferKind → Buffer → Prop
  | .normal => t.normal.Worked glyphs resets
  | .alternate => t.alternate.Worked glyphs resets

theorem worked_closed (columns : Nat) (glyphs : Char → Prop) (resets : Prop) (t : Terminal)
    (kind : BufferKind) :
    Buffer.Closed (LineEdit columns glyphs) resets (t.worked glyphs resets kind) := by
  cases kind <;> exact Buffer.worked_closed ..

theorem perform_works (t : Terminal) (operation : Operation) :
    Works (t.brought operation) (operation = .fullReset) t (t.perform operation) := by
  have performed := perform_both (t.worked_closed _ (t.brought operation) _) .refl .refl
  exact ⟨performed.normal, performed.alternate⟩

theorem resize_works {glyphs : Char → Prop} {resets : Prop} (t : Terminal) (size : Extent) :
    Works glyphs resets t (t.resize size) := by
  have moves := t.worked_closed 0 glyphs resets
  have resized := resize_both t size (fun kind => (moves kind).advance) .refl .refl
  exact ⟨resized.normal, resized.alternate⟩

end Terminal

end VideoTerminal

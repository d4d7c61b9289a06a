import VideoTerminal.Proofs.Editing

-- What has left the window at its top stays as it is. Operations name rows of
-- the window only, and whatever takes a stored line away brings a fresh one in.
namespace VideoTerminal

namespace Padded

variable {α : Type} {filler : α} {items : List α} {i j : Nat}

theorem getElem?_pad (stored : j < items.length) : (pad filler i items)[j]? = items[j]? :=
  List.getElem?_append_left stored

theorem getElem?_modify_before (f : α → α) (before : j < i) (stored : j < items.length) :
    (modify filler i f items)[j]? = items[j]? := by
  rw [modify, List.getElem?_modify, getElem?_pad stored]
  simp [show i ≠ j by omega]

theorem getElem?_insert_before (item : α) (before : j < i) (stored : j < items.length) :
    (insert filler i item items)[j]? = items[j]? := by
  rw [insert, List.getElem?_insertIdx, if_pos before, getElem?_pad stored]

theorem getElem?_remove_before (before : j < i) : (remove i items)[j]? = items[j]? := by
  rw [remove, List.getElem?_eraseIdx, if_pos before]

theorem length_modify (f : α → α) :
    (modify filler i f items).length = max items.length (i + 1) := by
  rw [modify, List.length_modify, length_pad]

theorem length_insert (item : α) :
    (insert filler i item items).length = max items.length i + 1 := by
  have room : i ≤ (pad filler i items).length := by rw [length_pad]; omega
  rw [insert, List.length_insertIdx, if_pos room, length_pad]

theorem length_remove :
    (remove i items).length = if i < items.length then items.length - 1 else items.length := by
  rw [remove, List.length_eraseIdx]

end Padded

namespace Buffer

-- All that operations do to a buffer, step after step. The order of insertion
-- and removal differs between the two directions of scrolling, which matters
-- where fewer lines are stored than the region has rows.
inductive Reworked (b : Buffer) : Buffer → Prop where
  | refl : Reworked b b
  | edit {c : Buffer} (row : Nat) (f : Line → Line) :
      Reworked b c → Reworked b (c.modifyLine (c.topRow + row) f)
  | replace {c : Buffer} (gone fresh : Nat) :
      Reworked b c → Reworked b ((c.remove (c.topRow + gone)).insert (c.topRow + fresh) {})
  | scroll {c : Buffer} {top bottom : Nat} (order : top ≤ bottom) :
      Reworked b c → Reworked b ((c.insert (c.topRow + bottom + 1) {}).remove (c.topRow + top))
  | advance {c : Buffer} (rows : Nat) :
      Reworked b c → Reworked b { c with topRow := c.topRow + rows }
  | clear {c : Buffer} : Reworked b c → Reworked b { c with topRow := c.length }

variable {b c d : Buffer}

theorem Reworked.trans (one : Reworked b c) (two : Reworked c d) : Reworked b d := by
  induction two with
  | refl => exact one
  | edit row f _ ih => exact ih.edit row f
  | replace gone fresh _ ih => exact ih.replace gone fresh
  | scroll order _ ih => exact ih.scroll order
  | advance rows _ ih => exact ih.advance rows
  | clear _ ih => exact ih.clear

theorem Worked.reworked {glyphs : Char → Prop} {resets : Prop}
    (worked : Worked glyphs resets b c) : Reworked b c := by
  induction worked with
  | refl => exact .refl
  | edit row _ _ ih => exact ih.edit row _
  | replace gone fresh _ ih => exact ih.replace gone fresh
  | scroll order _ ih => exact ih.scroll order
  | advance rows _ ih => exact ih.advance rows
  | clear _ _ ih => exact ih.clear

structure Keeps (b c : Buffer) : Prop where
  above : ∀ row line, row < b.topRow → b.line? row = some line →
    c.line? row = some line ∧ row < c.topRow
  length : b.length ≤ c.length

theorem Keeps.refl (b : Buffer) : Keeps b b :=
  ⟨fun _ _ above found => ⟨found, above⟩, Nat.le_refl _⟩

theorem Keeps.trans (one : Keeps b c) (two : Keeps c d) : Keeps b d := by
  refine ⟨fun row line above found => ?_, Nat.le_trans one.length two.length⟩
  obtain ⟨still, stillAbove⟩ := one.above row line above found
  exact two.above row line stillAbove still

theorem line?_stored {row : Nat} {line : Line} (found : b.line? row = some line) :
    row < b.length := by
  obtain ⟨stored, -⟩ := List.getElem?_eq_some_iff.mp found
  exact stored

section Above

variable {row edited : Nat} {line : Line}

theorem line?_modifyLine_before (f : Line → Line) (before : row < edited)
    (found : b.line? row = some line) : (b.modifyLine edited f).line? row = some line :=
  (Padded.getElem?_modify_before f before (line?_stored found)).trans found

theorem line?_insert_before (fresh : Line) (before : row < edited)
    (found : b.line? row = some line) : (b.insert edited fresh).line? row = some line :=
  (Padded.getElem?_insert_before fresh before (line?_stored found)).trans found

theorem line?_remove_before (before : row < edited) (found : b.line? row = some line) :
    (b.remove edited).line? row = some line :=
  (Padded.getElem?_remove_before before).trans found

theorem length_modifyLine (b : Buffer) (row : Nat) (f : Line → Line) :
    (b.modifyLine row f).length = max b.length (row + 1) := Padded.length_modify f

theorem length_insert (b : Buffer) (row : Nat) (line : Line) :
    (b.insert row line).length = max b.length row + 1 := Padded.length_insert line

theorem length_remove (b : Buffer) (row : Nat) :
    (b.remove row).length = if row < b.length then b.length - 1 else b.length :=
  Padded.length_remove

end Above

theorem edit_keeps (b : Buffer) (row : Nat) (f : Line → Line) :
    Keeps b (b.modifyLine (b.topRow + row) f) := by
  refine ⟨fun _ _ above found => ⟨line?_modifyLine_before f (by omega) found, above⟩, ?_⟩
  rw [length_modifyLine]
  exact Nat.le_max_left ..

theorem replace_keeps (b : Buffer) (gone fresh : Nat) :
    Keeps b ((b.remove (b.topRow + gone)).insert (b.topRow + fresh) {}) := by
  refine ⟨fun row line above found => ⟨?_, above⟩, ?_⟩
  · have taken : (b.remove (b.topRow + gone)).line? row = some line :=
      line?_remove_before (by omega) found
    exact line?_insert_before {} (by omega) taken
  · rw [length_insert, length_remove]
    split <;> omega

-- The insertion reaches down to the row that is removed, so a stored line goes.
theorem scroll_keeps (b : Buffer) {top bottom : Nat} (order : top ≤ bottom) :
    Keeps b ((b.insert (b.topRow + bottom + 1) {}).remove (b.topRow + top)) := by
  refine ⟨fun row line above found => ⟨?_, above⟩, ?_⟩
  · have brought : (b.insert (b.topRow + bottom + 1) {}).line? row = some line :=
      line?_insert_before {} (by omega) found
    exact line?_remove_before (by omega) brought
  · rw [length_remove, length_insert]
    split <;> omega

theorem advance_keeps (b : Buffer) (rows : Nat) :
    Keeps b { b with topRow := b.topRow + rows } :=
  ⟨fun _ _ above found => ⟨found, Nat.lt_of_lt_of_le above (Nat.le_add_right ..)⟩, Nat.le_refl _⟩

theorem clear_keeps (b : Buffer) : Keeps b { b with topRow := b.length } :=
  ⟨fun _ _ _ found => ⟨found, line?_stored found⟩, Nat.le_refl _⟩

theorem Reworked.keeps (reworked : Reworked b c) : Keeps b c := by
  induction reworked with
  | refl => exact .refl b
  | edit row f _ ih => exact ih.trans (edit_keeps _ row f)
  | replace gone fresh _ ih => exact ih.trans (replace_keeps _ gone fresh)
  | scroll order _ ih => exact ih.trans (scroll_keeps _ order)
  | advance rows _ ih => exact ih.trans (advance_keeps _ rows)
  | clear _ ih => exact ih.trans (clear_keeps _)

end Buffer

namespace Terminal

structure Reworks (t u : Terminal) : Prop where
  normal : t.normal.Reworked u.normal
  alternate : t.alternate.Reworked u.alternate

variable {t u v : Terminal}

theorem Reworks.refl (t : Terminal) : Reworks t t := ⟨.refl, .refl⟩

theorem Reworks.trans (one : Reworks t u) (two : Reworks u v) : Reworks t v :=
  ⟨one.normal.trans two.normal, one.alternate.trans two.alternate⟩

theorem Works.reworks {glyphs : Char → Prop} {resets : Prop} (works : Works glyphs resets t u) :
    Reworks t u :=
  ⟨works.normal.reworked, works.alternate.reworked⟩

theorem perform_reworks (t : Terminal) (operation : Operation) :
    Reworks t (t.perform operation) :=
  (perform_works t operation).reworks

theorem resize_reworks (t : Terminal) (size : Extent) : Reworks t (t.resize size) := by
  have works : Works (fun _ => False) False t (t.resize size) := resize_works t size
  exact works.reworks

theorem reworks_stable (t : Terminal) : Stable (Reworks t) where
  input _ _ _ reworks := ⟨reworks.normal, reworks.alternate⟩
  perform u operation reworks := reworks.trans (perform_reworks u operation)

theorem run_reworks (t : Terminal) (actions : List Action) : Reworks t (t.run actions) :=
  (reworks_stable t).run (fun u size _ reworks => reworks.trans (resize_reworks u size)) (.refl t)

theorem run_keeps_scrollback (t : Terminal) (actions : List Action) :
    t.normal.Keeps (t.run actions).normal ∧ t.alternate.Keeps (t.run actions).alternate := by
  have reworks := run_reworks t actions
  exact ⟨reworks.normal.keeps, reworks.alternate.keeps⟩

end Terminal

end VideoTerminal

import VideoTerminal.Proofs.Repaint
import VideoTerminal.Screen.Draw
import VideoTerminal.Screen.Paragraph

-- What a drawing of the terminal depends on: its picture, and of its title the
-- glyphs that have a column.
namespace VideoTerminal.Screen

def columns (glyphs : List Glyph) : List (Option Glyph) :=
  glyphs.flatMap fun g => some g :: List.replicate (g.width - 1) none

def totalWidth : List Glyph → Nat
  | [] => 0
  | g :: rest => g.width + totalWidth rest

def titlePicture (title : String) : List Glyph :=
  (titleSpan title).glyphs.filter fun g => 0 < g.width

theorem lineUp_filter (room left : Nat) (glyphs : List Glyph) :
    lineUp room left (glyphs.filter fun g => 0 < g.width) = lineUp room left glyphs := by
  induction glyphs generalizing left with
  | nil => rfl
  | cons g rest ih =>
    by_cases thin : g.width = 0
    · simp [lineUp, thin, ih]
    · have filled : 0 < g.width := by omega
      simp [lineUp, filled, thin, ih]

theorem lineUp_room (room left : Nat) {glyphs : List Glyph} (filled : ∀ g ∈ glyphs, 0 < g.width)
    (enough : totalWidth glyphs ≤ left) (inside : left ≤ room) :
    lineUp room left glyphs = columns glyphs := by
  induction glyphs generalizing left with
  | nil => rfl
  | cons g rest ih =>
    obtain ⟨first, later⟩ := List.forall_mem_cons.mp filled
    have needed : g.width + totalWidth rest ≤ left := enough
    have tail := ih (left - g.width) later (by omega) (by omega)
    have fits : ¬(g.width = 0 ∨ room < g.width) := by omega
    rw [lineUp, if_neg fits, if_neg (by omega), tail]
    rfl

theorem columns_length {glyphs : List Glyph} (filled : ∀ g ∈ glyphs, 0 < g.width) :
    (columns glyphs).length = totalWidth glyphs := by
  induction glyphs with
  | nil => rfl
  | cons g rest ih =>
    obtain ⟨first, later⟩ := List.forall_mem_cons.mp filled
    have tail := ih later
    simp only [columns, totalWidth, List.flatMap_cons, List.length_append, List.length_cons,
      List.length_replicate] at tail ⊢
    omega

def drawnRow (columns : List (Option Glyph)) (empty : Nat) : List Glyph :=
  columns.map (fun column => column.getD ({} : Glyph)) ++ List.replicate empty ({} : Glyph)

theorem overwrite_blank (room : Nat) (columns : List (Option Glyph))
    (enough : columns.length ≤ room) :
    overwrite (List.replicate room ({} : Glyph)) 0 columns =
      drawnRow columns (room - columns.length) := by
  refine List.ext_getElem ?_ fun i inside _ => ?_
  · simp [overwrite, drawnRow, enough]
  · have alone (g : Glyph) : g.onto {} = g := by
      rw [Glyph.onto, Style.onto_default]
    simp only [overwrite, drawnRow, List.getElem_mapIdx, List.getElem_replicate, Nat.zero_le,
      if_true, Nat.sub_zero, List.getElem_append, List.length_map]
    split
    · rename_i stored
      rw [List.getElem?_eq_getElem stored, List.getElem_map]
      cases columns[i] with
      | none => rfl
      | some g => exact alone g
    · rename_i past
      rw [List.getElem?_eq_none (Nat.le_of_not_lt past)]
      rfl

theorem drawnRow_cons (g : Glyph) (rest : List Glyph) (empty : Nat) :
    drawnRow (columns (g :: rest)) empty =
      g :: (List.replicate (g.width - 1) ({} : Glyph) ++ drawnRow (columns rest) empty) := by
  simp [drawnRow, columns]

theorem drawnRow_injective {one two : List Glyph} {m n : Nat}
    (styled : ∀ g ∈ one ++ two, g.style ≠ ({} : Style))
    (same : drawnRow (columns one) m = drawnRow (columns two) n) : one = two := by
  have placed : ∀ {g : Glyph} {row : List Glyph} {empty : Nat}, g.style ≠ ({} : Style) →
      g :: row ≠ drawnRow (columns []) empty := by
    intro g row empty unlike same
    have found : g ∈ List.replicate empty ({} : Glyph) := by
      rw [show List.replicate empty ({} : Glyph) = g :: row from same.symm]
      exact List.mem_cons_self
    exact unlike (congrArg Glyph.style (List.eq_of_mem_replicate found))
  induction one generalizing two with
  | nil =>
    cases two with
    | nil => rfl
    | cons h two =>
      rw [drawnRow_cons] at same
      exact absurd same.symm (placed (styled h (by simp)))
  | cons g one ih =>
    cases two with
    | nil =>
      rw [drawnRow_cons] at same
      exact absurd same (placed (styled g (by simp)))
    | cons h two =>
      rw [drawnRow_cons, drawnRow_cons] at same
      obtain ⟨rfl, later⟩ := List.cons_eq_cons.mp same
      have rest : ∀ other ∈ one ++ two, other.style ≠ ({} : Style) := by
        intro other found
        refine styled other ?_
        rcases List.mem_append.mp found with left | right
        · exact List.mem_append_left _ (List.mem_cons_of_mem _ left)
        · exact List.mem_append_right _ (List.mem_cons_of_mem _ right)
      rw [ih rest (List.append_cancel_left later)]

theorem titlePicture_styled {title : String} {g : Glyph} (found : g ∈ titlePicture title) :
    g.style ≠ ({} : Style) := by
  obtain ⟨cluster, -, rfl⟩ := List.mem_map.mp (List.mem_filter.mp found).1
  exact of_decide_eq_true rfl

theorem drawTitle_blank {room : Nat} {title : String}
    (enough : totalWidth (titlePicture title) ≤ room) :
    (drawTitle .standard (Canvas.blank room 1) ⟨0, 0, room, 1⟩ title).rows =
      [drawnRow (columns (titlePicture title)) (room - totalWidth (titlePicture title))] := by
  have filled : ∀ g ∈ titlePicture title, 0 < g.width := by
    intro g found
    simpa using (List.mem_filter.mp found).2
  have length := columns_length filled
  have written : lineUp room room (titleSpan title).glyphs = columns (titlePicture title) := by
    rw [← lineUp_filter]
    exact lineUp_room room room filled enough (Nat.le_refl room)
  have row := overwrite_blank room (columns (titlePicture title)) (by omega)
  rw [length] at row
  simp [drawTitle, Toolkit.standard, writeLines, writeLine, Canvas.blank, written, row]

theorem drawTitle_iff (one two : String) :
    (∀ c area, drawTitle .standard c area one = drawTitle .standard c area two) ↔
      titlePicture one = titlePicture two := by
  constructor
  · intro alike
    let room := totalWidth (titlePicture one) + totalWidth (titlePicture two)
    have drawn := congrArg Canvas.rows (alike (Canvas.blank room 1) ⟨0, 0, room, 1⟩)
    rw [drawTitle_blank (Nat.le_add_right ..), drawTitle_blank (Nat.le_add_left ..)] at drawn
    refine drawnRow_injective ?_ (List.singleton_inj.mp drawn)
    intro g found
    rcases List.mem_append.mp found with left | right
    · exact titlePicture_styled left
    · exact titlePicture_styled right
  · intro same c area
    have lined : ∀ room left, lineUp room left (titleSpan one).glyphs =
        lineUp room left (titleSpan two).glyphs := by
      intro room left
      rw [← lineUp_filter, ← lineUp_filter room left (titleSpan two).glyphs]
      exact congrArg _ same
    have written : ∀ area, writeLine area [titleSpan one] = writeLine area [titleSpan two] := by
      intro area
      funext row
      simp only [writeLine, List.flatMap_singleton, lined]
    refine Canvas.mk.injEq .. |>.mpr ⟨List.mapIdx_eq_mapIdx_iff.mpr fun y inside => ?_, rfl⟩
    cases y - ((Toolkit.standard.splitFirst area).1).y <;> simp [written]

variable {t u : Terminal} {kit : Toolkit}

theorem windowLines_picture (same : u.picture = t.picture) (columns rows : Nat) :
    windowLines u columns rows = windowLines t columns rows := by
  have window : u.window = t.window := congrArg Terminal.Picture.window same
  have cell : ∀ row column, u.visibleCell column row = t.visibleCell column row := by
    intro row column
    exact congrFun (congrFun (congrArg Terminal.Picture.cell same) row) column
  have reverse : u.cursor.reverseVideo = t.cursor.reverseVideo :=
    congrArg Terminal.Picture.reverseVideo same
  have spans : rowSpans u columns = rowSpans t columns := by
    funext row
    simp only [rowSpans, cell, window, reverse]
  simp only [windowLines, spans, window]

theorem placeCursor_picture (same : u.picture = t.picture) (c : Canvas) (area : Area) :
    placeCursor c area u = placeCursor c area t := by
  have position : u.cursorPosition = t.cursorPosition := congrArg Terminal.Picture.cursor same
  have visible : u.cursorVisible = t.cursorVisible :=
    congrArg Terminal.Picture.cursorVisible same
  simp only [placeCursor, position, visible]

theorem draw_untitled (kit : Toolkit) (same : u.picture = t.picture) (c : Canvas) (area : Area) :
    draw kit c area u false = draw kit c area t false := by
  simp only [draw, Bool.false_eq_true, if_false, windowLines_picture same,
    placeCursor_picture same]

theorem draw_title (lawful : kit.Lawful) (c : Canvas) {area : Area} (t : Terminal)
    (low : area.height ≤ 1) : draw kit c area t true = drawTitle kit c area t.title := by
  have flat : (contentArea kit area true).height = 0 := by
    rw [contentArea, if_pos rfl, lawful.splitFirst]
    exact Nat.sub_eq_zero_of_le low
  have unplaced (d : Canvas) : placeCursor d (contentArea kit area true) t = d :=
    if_neg fun shown => Nat.not_lt_zero _ (flat ▸ shown.2.2)
  rw [draw, if_pos rfl, lawful.paragraph_flat _ _ flat, unplaced]

theorem draw_titled_iff (lawful : kit.Lawful) (same : u.picture = t.picture) :
    (∀ c area, draw kit c area u true = draw kit c area t true) ↔
      ∀ c area, drawTitle kit c area u.title = drawTitle kit c area t.title := by
  constructor
  · intro drawn c area
    let first : Area := { area with height := min 1 area.height }
    have low : first.height ≤ 1 := Nat.min_le_left ..
    have cut : (kit.splitFirst first).1 = (kit.splitFirst area).1 := by
      rw [lawful.splitFirst, lawful.splitFirst, ← Nat.min_assoc, Nat.min_self]
    have single := drawn c first
    rw [draw_title lawful c u low, draw_title lawful c t low, drawTitle, drawTitle, cut] at single
    exact single
  · intro titled c area
    simp only [draw, if_true, titled, windowLines_picture same, placeCursor_picture same]

end VideoTerminal.Screen

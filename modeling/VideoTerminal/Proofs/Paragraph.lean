import VideoTerminal.Screen.Paragraph

-- Lines of clusters do what is relied on: they keep to their area, and characters of
-- one column each stand side by side.
namespace VideoTerminal.Screen
open Text (isControl)

theorem lineUp_length_le (room left : Nat) (glyphs : List Glyph) :
    (lineUp room left glyphs).length ≤ left := by
  induction glyphs generalizing left with
  | nil => exact Nat.zero_le _
  | cons g rest ih =>
    rw [lineUp]
    split
    · exact ih left
    · split
      · exact Nat.zero_le _
      · have later := ih (left - g.width)
        simp only [List.cons_append, List.length_cons, List.length_append, List.length_replicate]
        omega

theorem lineUp_single (room left : Nat) {glyphs : List Glyph} (single : ∀ g ∈ glyphs, g.width = 1)
    (inside : left ≤ room) : lineUp room left glyphs = (glyphs.take left).map some := by
  induction glyphs generalizing left with
  | nil => rw [List.take_nil]; rfl
  | cons g rest ih =>
    obtain ⟨first, later⟩ := List.forall_mem_cons.mp single
    rw [lineUp, first]
    cases left with
    | zero =>
      split
      · exact ih 0 later inside
      · rfl
    | succ left =>
      have tail := ih left later (Nat.le_of_succ_le inside)
      rw [if_neg (by omega), if_neg (by omega), Nat.add_sub_cancel, tail]
      rfl

theorem overwrite_get? (row : List Glyph) (x : Nat) (columns : List (Option Glyph)) (i : Nat) :
    (overwrite row x columns)[i]? = row[i]?.map fun old =>
      if x ≤ i then (columns[i - x]?.join).elim old (·.onto old) else old :=
  List.getElem?_mapIdx

theorem writeLine_get?_outside (area : Area) (line : List Span) (row : List Glyph) {x : Nat}
    (outside : x < area.x ∨ area.x + area.width ≤ x) : (writeLine area line row)[x]? = row[x]? := by
  have length := lineUp_length_le (min area.width (row.length - area.x))
    (min area.width (row.length - area.x)) (line.flatMap Span.glyphs)
  rw [writeLine, overwrite_get?]
  split
  · have past := Nat.le_trans length (Nat.min_le_left ..)
    rw [List.getElem?_eq_none (by omega)]
    exact congrFun Option.map_id_fun' _
  · exact congrFun Option.map_id_fun' _

theorem glyphs_single {span : Span} (single : Toolkit.standard.Single span) :
    span.glyphs = [span.glyph] ∧ span.glyph.width = 1 := by
  obtain ⟨c, text, columns⟩ := single
  have shown : isControl c = false := by
    cases control : isControl c with
    | false => rfl
    | true => simp [Toolkit.standard, control] at columns
  refine ⟨?_, ?_⟩
  · simp [Span.glyphs, Span.glyph, text, Text.clusters, Text.clustersAfter, shown]
  · rw [Glyph.width, Span.glyph, text, Text.width_singleton]
    simpa [Toolkit.standard, shown] using columns

theorem line_glyphs_single {spans : List Span}
    (single : ∀ span ∈ spans, Toolkit.standard.Single span) :
    spans.flatMap Span.glyphs = spans.map Span.glyph := by
  have each : spans.map Span.glyphs = spans.map fun span => [span.glyph] :=
    List.map_congr_left fun span found => (glyphs_single (single span found)).1
  rw [List.flatMap_def, each, ← List.flatMap_def, ← List.map_eq_flatMap]

theorem writeLine_get?_single {area : Area} {spans : List Span} {row : List Glyph} {x : Nat}
    (single : ∀ span ∈ spans, Toolkit.standard.Single span) (left : area.x ≤ x)
    (right : x < area.x + area.width) :
    (writeLine area spans row)[x]? =
      row[x]?.map fun old => (spans[x - area.x]?).elim old (·.glyph.onto old) := by
  have widths : ∀ g ∈ spans.map Span.glyph, g.width = 1 := by
    intro g found
    obtain ⟨span, listed, rfl⟩ := List.mem_map.mp found
    exact (glyphs_single (single span listed)).2
  rw [writeLine, overwrite_get?, line_glyphs_single single,
    lineUp_single _ _ widths (Nat.le_refl _)]
  cases stored : row[x]? with
  | none => rfl
  | some old =>
    obtain ⟨inside, -⟩ := List.getElem?_eq_some_iff.mp stored
    have room : x - area.x < min area.width (row.length - area.x) := by omega
    rw [Option.map_some, Option.map_some, if_pos left, List.getElem?_map,
      List.getElem?_take_of_lt room, List.getElem?_map]
    cases spans[x - area.x]? <;> rfl

theorem writeLines_at? (c : Canvas) (area : Area) (lines : List (List Span)) (x y : Nat) :
    (writeLines c area lines).at? x y = c.rows[y]?.bind fun row =>
      (if area.y ≤ y ∧ y < area.y + area.height then
        (lines[y - area.y]?).elim row (writeLine area · row)
      else row)[x]? := by
  rw [Canvas.at?, writeLines, List.getElem?_mapIdx, Option.bind_map]
  rfl

theorem writeLines_confined (c : Canvas) (area : Area) (lines : List (List Span)) {x y : Nat}
    (outside : ¬area.Has x y) : (writeLines c area lines).at? x y = c.at? x y := by
  rw [writeLines_at?, Canvas.at?]
  refine Option.bind_congr fun row _ => ?_
  split
  · rename_i level
    cases lines[y - area.y]? with
    | none => rfl
    | some line =>
      refine writeLine_get?_outside area line row ?_
      have missed : ¬(area.x ≤ x ∧ x < area.x + area.width) :=
        fun held => outside ⟨held.1, held.2, level.1, level.2⟩
      omega
  · rfl

theorem writeLine_length (area : Area) (line : List Span) (row : List Glyph) :
    (writeLine area line row).length = row.length :=
  List.length_mapIdx

theorem writeLines_lengths (c : Canvas) (area : Area) (lines : List (List Span)) :
    (writeLines c area lines).rows.map List.length = c.rows.map List.length := by
  refine List.ext_getElem? fun y => ?_
  rw [writeLines, List.getElem?_map, List.getElem?_mapIdx, List.getElem?_map, Option.map_map]
  refine congrFun (congrArg Option.map (funext fun row => ?_)) _
  dsimp only [Function.comp]
  split
  · cases lines[y - area.y]? with
    | none => rfl
    | some line => exact writeLine_length area line row
  · rfl

theorem writeLines_single (c : Canvas) {area : Area} {lines : List (List Span)}
    (single : ∀ line ∈ lines, ∀ span ∈ line, Toolkit.standard.Single span) {x y : Nat}
    (has : area.Has x y) :
    (writeLines c area lines).at? x y = (c.at? x y).map fun old =>
      (lines[y - area.y]?.bind fun spans => spans[x - area.x]?).elim old (·.glyph.onto old) := by
  rw [writeLines_at?, Canvas.at?, Option.map_bind]
  refine Option.bind_congr fun row _ => ?_
  rw [if_pos ⟨has.top, has.low⟩]
  cases found : lines[y - area.y]? with
  | none => exact (congrFun Option.map_id_fun' _).symm
  | some line =>
    exact writeLine_get?_single (single line (List.mem_of_getElem? found)) has.left has.right

theorem Toolkit.standard_lawful : Toolkit.standard.Lawful where
  splitFirst _ := rfl
  confined c area lines _ _ := writeLines_confined c area lines
  lengths := writeLines_lengths
  cursor _ _ _ := rfl
  singles _ _ single _ _ := writeLines_single _ single

end VideoTerminal.Screen

import VideoTerminal.Proofs.Grid

-- A region over all rows of the window is none. Setting one clears the region that was
-- set, but in a window of a single row nothing is set at all.
namespace VideoTerminal.Terminal

variable {t : Terminal} {top bottom : Nat}

structure AsksAll (t : Terminal) (top bottom : Nat) : Prop where
  first : top ≤ 1
  last : bottom = 0 ∨ t.window.rows ≤ bottom

theorem clearScrollRegion_eq (t : Terminal) : t.clearScrollRegion =
    { t with cursor := { t.cursor with region := {}, row := 0, column := 0 }, changed := true } := by
  have origin : ({ t with cursor := { t.cursor with region := {} } } : Terminal).originRow = 0 :=
    ite_self 0
  have first : ({ t with cursor := { t.cursor with region := {} } } : Terminal).topMargin = 0 :=
    Nat.zero_min _
  unfold clearScrollRegion home
  rw [origin, first, clamp, Nat.zero_min, Nat.max_self]
  rfl

theorem AsksAll.setScrollRegion_eq (all : AsksAll t top bottom) (shown : 0 < t.window.rows) :
    t.setScrollRegion top bottom = if t.window.rows = 1 then t else t.clearScrollRegion := by
  have first : top - 1 = 0 := Nat.sub_eq_zero_of_le all.first
  have last : (if bottom = 0 then t.window.rows - 1 else min (bottom - 1) (t.window.rows - 1)) =
      t.window.rows - 1 := by
    have given := all.last
    split <;> omega
  unfold setScrollRegion
  dsimp only
  rw [first, last]
  by_cases single : t.window.rows = 1
  · have small : t.window.rows - 1 ≤ 0 := by omega
    rw [if_pos single, if_pos small]
  · have proper : ¬t.window.rows - 1 ≤ 0 := by omega
    rw [if_neg single, if_neg proper, if_neg (Nat.lt_irrefl _)]
    rfl

theorem clearScrollRegion_fixes_iff (top : t.cursor.row = 0) : t = t.clearScrollRegion ↔
    t.cursor.region = {} ∧ t.cursor.column = 0 ∧ t.changed = true := by
  rw [clearScrollRegion_eq]
  constructor
  · intro kept
    rw [kept]
    exact ⟨rfl, rfl, rfl⟩
  · rintro ⟨region, column, changed⟩
    calc t = { t with
        cursor := { t.cursor with region := t.cursor.region, row := t.cursor.row,
                                  column := t.cursor.column }
        changed := t.changed } := rfl
      _ = _ := by rw [region, top, column, changed]

theorem whole_region_clears_iff (reached : Reached t) (all : AsksAll t top bottom) :
    t.setScrollRegion top bottom = (if t.window.rows = 1 then t else t.clearScrollRegion) ∧
    t.clearScrollRegion =
      { t with cursor := { t.cursor with region := {}, row := 0, column := 0 }
               changed := true } ∧
    ((∀ actions, (t.setScrollRegion top bottom).run actions = t.clearScrollRegion.run actions) ↔
      t.window.rows ≠ 1 ∨
        (t.cursor.region = {} ∧ t.cursor.column = 0 ∧ t.changed = true)) := by
  have shown := reached.inGrid.row
  have asked := all.setScrollRegion_eq (Nat.zero_lt_of_lt shown)
  refine ⟨asked, clearScrollRegion_eq t, ?_⟩
  rw [asked]
  by_cases single : t.window.rows = 1
  · have first : t.cursor.row = 0 := by omega
    rw [if_pos single, ← clearScrollRegion_fixes_iff first]
    constructor
    -- No action is needed to tell the two apart.
    · exact fun alike => .inr (alike [])
    · rintro (several | same) actions
      · exact absurd single several
      · rw [← same]
  · rw [if_neg single]
    exact ⟨fun _ => .inl single, fun _ _ => rfl⟩

theorem whole_region_clears_origin :
    let t := (new ⟨2, 4⟩ {} false).act (.feed (Utf8.encodeString "\x1b[2;3r\x1b[?6h"))
    t.cursor.originMode = true ∧ t.topMargin = 1 ∧ t.bottomMargin = 2 ∧ AsksAll t 0 9 ∧
      ∀ actions, (t.setScrollRegion 0 9).run actions = t.clearScrollRegion.run actions := by
  intro t
  have reached : Reached t := .act _ (.new ⟨2, 4⟩ {} false)
  have all : AsksAll t 0 9 := ⟨by decide, .inr (by decide +kernel)⟩
  have several : t.window.rows ≠ 1 := by decide +kernel
  exact ⟨by decide +kernel, by decide +kernel, by decide +kernel, all,
    (whole_region_clears_iff reached all).2.2.mpr (.inl several)⟩

theorem single_row_not_homed :
    let t := (new ⟨2, 1⟩ {} false).act (.feed (Utf8.encodeString "a"))
    (t.feed (Utf8.encodeString "\x1b[1;1r")).2.cursor.column = 1 ∧
      (t.feed (Utf8.encodeString "\x1b[r")).2.cursor.column = 0 ∧
      t.setScrollRegion 1 1 ≠ t.clearScrollRegion := by
  intro t
  have moved : (t.setScrollRegion 1 1).cursor.column ≠ t.clearScrollRegion.cursor.column := by
    decide +kernel
  exact ⟨by decide +kernel, by decide +kernel, fun alike => moved (alike ▸ rfl)⟩

end VideoTerminal.Terminal

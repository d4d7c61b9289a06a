import VideoTerminal.Proofs.Grid

-- The cursor row and the margins. No operation takes the row below the bottom
-- margin. Above the top margin it can only get through a cursor that was saved
-- in a taller window: restoring it fits the row into the window of now, but not
-- the region, which a later resize then makes room for.
namespace VideoTerminal

structure ScrollRegion.SetIn (rows : Nat) (r : ScrollRegion) : Prop where
  top : r.top + 1 < rows
  bottom : ∀ bottom, r.bottom = some bottom → r.top < bottom ∧ bottom + 1 < rows

namespace Terminal

variable {t u v : Terminal}

structure Level (t u : Terminal) : Prop where
  window : u.window = t.window
  row : u.cursor.row = t.cursor.row
  region : u.cursor.region = t.cursor.region
  saved : u.savedCursor = t.savedCursor

theorem Draws.level (drawn : Draws t u) : Level t u :=
  ⟨drawn.window, by rw [drawn.cursor], by rw [drawn.cursor], drawn.savedCursor⟩

theorem Level.trans (one : Level t u) (two : Level u v) : Level t v :=
  ⟨two.window.trans one.window, two.row.trans one.row, two.region.trans one.region,
    two.saved.trans one.saved⟩

theorem Level.topMargin (level : Level t u) : u.topMargin = t.topMargin := by
  rw [Terminal.topMargin, level.region, level.window]; rfl

theorem Level.bottomMargin (level : Level t u) : u.bottomMargin = t.bottomMargin := by
  rw [Terminal.bottomMargin, level.region, level.window]; rfl

-- All that an operation may do with the row and the region. The row moves
-- towards the margins or between them, the region is cleared, a new one is set
-- around the row, or the saved row and region come back.
inductive Steered (t : Terminal) (c : Cursor) : Prop where
  | within (region : c.region = t.cursor.region) (least : min t.cursor.row t.topMargin ≤ c.row)
      (most : c.row ≤ max t.cursor.row t.bottomMargin)
  | cleared (region : c.region = {})
  | confined (room : c.region.SetIn t.window.rows) (least : c.region.top ≤ c.row)
      (most : c.row ≤ c.region.bottomIn t.window.rows)
  | restored (saved : Cursor) (found : t.savedCursor = some saved)
      (region : c.region = saved.region) (row : c.row = min saved.row (t.window.rows - 1))

structure Steers (t u : Terminal) : Prop where
  window : u.window = t.window
  cursor : Steered t u.cursor
  saved : ∀ saved, u.savedCursor = some saved →
    t.savedCursor = some saved ∨ saved.row = t.cursor.row ∧ saved.region = t.cursor.region

theorem Level.steers (level : Level t u) : Steers t u := by
  refine ⟨level.window, .within level.region ?_ ?_, fun _ found => .inl (level.saved ▸ found)⟩
  · rw [level.row]; exact Nat.min_le_left ..
  · rw [level.row]; exact Nat.le_max_left ..

theorem Steers.refl (t : Terminal) : Steers t t := Level.steers ⟨rfl, rfl, rfl, rfl⟩

theorem Steers.after (level : Level t u) (steers : Steers u v) : Steers t v := by
  refine ⟨steers.window.trans level.window, ?_, fun saved found => ?_⟩
  · cases steers.cursor with
    | within region least most =>
      rw [level.row, level.topMargin] at least
      rw [level.row, level.bottomMargin] at most
      exact .within (region.trans level.region) least most
    | cleared region => exact .cleared region
    | confined room least most =>
      rw [level.window] at room most
      exact .confined room least most
    | restored saved found region row =>
      rw [level.window] at row
      exact .restored saved (level.saved ▸ found) region row
  · rcases steers.saved saved found with earlier | ⟨row, region⟩
    · exact .inl (level.saved ▸ earlier)
    · exact .inr ⟨row.trans level.row, region.trans level.region⟩

theorem Steers.level (steers : Steers t u) (level : Level u v) : Steers t v := by
  refine ⟨level.window.trans steers.window, ?_, fun saved found => ?_⟩
  · cases steers.cursor with
    | within region least most =>
      exact .within (level.region.trans region) (level.row ▸ least) (level.row ▸ most)
    | cleared region => exact .cleared (level.region.trans region)
    | confined room least most =>
      refine .confined ?_ ?_ ?_ <;> rw [level.region]
      · exact room
      · rw [level.row]; exact least
      · rw [level.row]; exact most
    | restored saved found region row =>
      exact .restored saved found (level.region.trans region) (level.row.trans row)
  · exact steers.saved saved (level.saved ▸ found)

theorem steers_within (window : u.window = t.window) (region : u.cursor.region = t.cursor.region)
    (saved : u.savedCursor = t.savedCursor) (least : min t.cursor.row t.topMargin ≤ u.cursor.row)
    (most : u.cursor.row ≤ max t.cursor.row t.bottomMargin) : Steers t u :=
  ⟨window, .within region least most, fun _ found => .inl (saved ▸ found)⟩

theorem le_clamp {value least most : Nat} : least ≤ clamp value least most := Nat.le_max_left ..

theorem clamped_steers {row : Nat} (window : u.window = t.window)
    (region : u.cursor.region = t.cursor.region) (saved : u.savedCursor = t.savedCursor)
    (clamped : u.cursor.row = clamp row t.topMargin t.bottomMargin) : Steers t u := by
  refine steers_within window region saved ?_ ?_ <;> rw [clamped]
  · exact Nat.le_trans (Nat.min_le_right ..) le_clamp
  · exact Nat.le_trans (clamp_le (margins_ordered t)) (Nat.le_max_right ..)

theorem cleared_steers (window : u.window = t.window) (region : u.cursor.region = {})
    (saved : u.savedCursor = t.savedCursor) : Steers t u :=
  ⟨window, .cleared region, fun _ found => .inl (saved ▸ found)⟩

theorem home_steers (t : Terminal) : Steers t t.home := clamped_steers rfl rfl rfl rfl

theorem advanceRow_steers (t : Terminal) : Steers t t.advanceRow := by
  have order := margins_ordered t
  unfold advanceRow
  split
  · split
    · have drawn := scrollRegionUp_draws t t.topMargin t.bottomMargin
      exact steers_within drawn.window rfl drawn.savedCursor
        (Nat.le_trans (Nat.min_le_right ..) order) (Nat.le_max_right ..)
    · exact steers_within rfl rfl rfl
        (show min t.cursor.row t.topMargin ≤ t.cursor.row + 1 by omega)
        (show t.cursor.row + 1 ≤ max t.cursor.row t.bottomMargin by omega)
  · -- Without a region the margins are the edges of the window.
    rename_i unset
    have whole : t.cursor.region = {} := by
      cases region : t.cursor.region with
      | mk top bottom => cases top <;> cases bottom <;> simp_all [ScrollRegion.isSet]
    split
    · exact cleared_steers rfl whole rfl
    · have drawn := (scrollWindow_draws
        { t with cursor := { t.cursor with row := t.window.rows - 1 } }).trans (marked_draws _)
      exact cleared_steers drawn.window ((congrArg Cursor.region drawn.cursor).trans whole)
        drawn.savedCursor

theorem withColumn_level (t : Terminal) (column : Nat) : Level t (t.withColumn column) :=
  ⟨rfl, rfl, rfl, rfl⟩

theorem newLine_steers (t : Terminal) : Steers t t.newLine := by
  unfold newLine
  split
  · exact .after (withColumn_level t 0) (advanceRow_steers _)
  · exact advanceRow_steers t

theorem reverseIndex_steers (t : Terminal) : Steers t t.reverseIndex := by
  have order := margins_ordered t
  unfold reverseIndex
  split
  · have drawn := scrollRegionDown_draws t t.topMargin t.bottomMargin
    exact steers_within drawn.window rfl drawn.savedCursor (Nat.min_le_right ..)
      (Nat.le_trans order (Nat.le_max_right ..))
  · exact steers_within rfl rfl rfl
      (show min t.cursor.row t.topMargin ≤ t.cursor.row - 1 by omega)
      (show t.cursor.row - 1 ≤ max t.cursor.row t.bottomMargin by omega)

theorem restoreCursor_steers (t : Terminal) : Steers t t.restoreCursor := by
  unfold restoreCursor
  split
  · exact .refl t
  · rename_i saved found
    exact ⟨rfl, .restored saved found rfl rfl, fun _ still => .inl still⟩

theorem putCell_level (t : Terminal) (cell : Cell) : Level t (t.putCell cell) :=
  (withColumn_level ..).trans (putCell_draws t cell).level

theorem putChar_steers (t : Terminal) (c : Char) : Steers t (t.putChar c) := by
  refine Steers.level ?_ (putCell_level ..)
  unfold wrapped
  split
  · exact .refl t
  · split
    · exact .after (withColumn_level t 0) (newLine_steers _)
    · exact (withColumn_level ..).steers

theorem screenAlignmentTest_steers (t : Terminal) : Steers t t.screenAlignmentTest := by
  have drawn := foldl_draws alignRow_draws (List.range t.window.rows)
    { t with cursor := { t.cursor with region := {} } }
  exact cleared_steers drawn.window (congrArg Cursor.region drawn.cursor) drawn.savedCursor

theorem setLineSize_steers (t : Terminal) (size : LineSize) : Steers t (t.setLineSize size) := by
  cases size with
  | screenAlignmentTest => exact screenAlignmentTest_steers t
  | _ => exact ((editLine_draws ..).trans (marked_draws _)).level.steers

theorem useBuffer_level (t : Terminal) (kind : BufferKind) : Level t (t.useBuffer kind) := by
  have switched : Level t { t with active := kind } := ⟨rfl, rfl, rfl, rfl⟩
  exact switched.trans ((reportWindow_draws _).trans (marked_draws _)).level

theorem setScrollRegion_steers (t : Terminal) (top bottom : Nat) :
    Steers t (t.setScrollRegion top bottom) := by
  unfold setScrollRegion
  dsimp only
  generalize chosen : (if bottom = 0 then t.window.rows - 1
    else min (bottom - 1) (t.window.rows - 1)) = low
  have visible : low ≤ t.window.rows - 1 := by split at chosen <;> omega
  split
  · exact .refl t
  · rename_i proper
    generalize settled : (⟨top - 1, if low < t.window.rows - 1 then some low else none⟩ :
      ScrollRegion) = region
    have first : region.top = top - 1 := by rw [← settled]
    have last : region.bottomIn t.window.rows = low := by
      rw [← settled]
      by_cases inside : low < t.window.rows - 1
      · rw [if_pos inside]
        exact Nat.min_eq_left visible
      · rw [if_neg inside]
        show t.window.rows - 1 = low
        omega
    have start : region.topIn t.window.rows = top - 1 := by
      unfold ScrollRegion.topIn
      omega
    refine ⟨rfl, .confined ⟨?_, fun bottom lowest => ?_⟩ ?_ ?_, fun _ found => .inl found⟩
    · show region.top + 1 < t.window.rows
      omega
    · replace lowest : region.bottom = some bottom := lowest
      simp only [← settled, Option.ite_none_right_eq_some, Option.some.injEq] at lowest
      show region.top < bottom ∧ bottom + 1 < t.window.rows
      omega
    · refine Nat.le_trans (Nat.le_of_eq ?_) le_clamp
      exact first.trans start.symm
    · exact clamp_le (ScrollRegion.topIn_le_bottomIn ..)

theorem betweenMargins_steers (t : Terminal) (edit : Buffer → Buffer) (count : Nat) :
    Steers t (t.betweenMargins edit count) := by
  unfold betweenMargins
  dsimp only
  split
  · exact .refl t
  · refine Steers.level ?_ ((reportRows_draws ..).trans (marked_draws _)).level
    exact ((mapBuffer_draws ..).level.trans (withColumn_level ..)).steers

theorem tab_steers (t : Terminal) : Steers t t.tab := by
  unfold tab
  split
  · exact .refl t
  · exact Level.steers ⟨rfl, rfl, rfl, rfl⟩

theorem set132Columns_steers (t : Terminal) (on : Bool) : Steers t (t.set132Columns on) := by
  have turned : Level t
      { t with page := { t.page with columns := if on then 132 else t.window.columns } } :=
    ⟨rfl, rfl, rfl, rfl⟩
  exact .after (turned.trans (eraseAll_draws _).level) (home_steers _)

theorem setMode_level (t : Terminal) (mode : SavableMode) (on : Bool) :
    Level t (t.setMode mode on) := by
  cases mode with
  | normalBuffer => exact useBuffer_level t _
  | _ => exact ⟨rfl, rfl, rfl, rfl⟩

theorem restoreMode_steers (t : Terminal) (mode : SavableMode) :
    Steers t (t.restoreMode mode) := by
  unfold restoreMode
  split
  · exact .refl t
  · exact (setMode_level ..).steers

theorem fullReset_steers (t : Terminal) : Steers t t.fullReset := by
  unfold fullReset
  refine Steers.level ?_ ((reportWindow_draws _).trans (marked_draws _)).level
  exact ⟨rfl, .cleared rfl, fun _ found => nomatch found⟩

theorem perform_steers (t : Terminal) (operation : Operation) :
    Steers t (t.perform operation) := by
  cases operation with
  | moveCursor | setCursorPosition | setCursorRow => exact clamped_steers rfl rfl rfl rfl
  | newLine | verticalTab | formFeed => exact newLine_steers t
  | index => exact advanceRow_steers t
  | nextLine => exact .after (withColumn_level t 0) (advanceRow_steers _)
  | reverseIndex => exact reverseIndex_steers t
  | saveCursor =>
    refine ⟨rfl, (Steers.refl t).cursor, fun saved found => .inr ?_⟩
    cases Option.some.inj found
    exact ⟨rfl, rfl⟩
  | restoreCursor => exact restoreCursor_steers t
  | putChar c => exact putChar_steers t c
  | bell | reportPrimaryAttributes | reportSecondaryAttributes | reportStatus | reportCursor =>
    exact (raise_draws ..).level.steers
  | setTitle title =>
    have titled : Level t { t with title } := ⟨rfl, rfl, rfl, rfl⟩
    exact (titled.trans (raise_draws ..).level).steers
  | setLineSize size => exact setLineSize_steers t size
  | screenAlignmentTest => exact screenAlignmentTest_steers t
  | useAlternateBuffer | useNormalBuffer => exact (useBuffer_level ..).steers
  | clearScrollRegion => exact cleared_steers rfl rfl rfl
  | setScrollRegion top bottom => exact setScrollRegion_steers t top bottom
  | scrollUp count => exact (scrollUp_draws t count).level.steers
  | scrollDown count => exact (scrollDown_draws t count).level.steers
  | eraseToEndOfLine | eraseToStartOfLine | eraseLine | eraseCharacters =>
    exact (eraseCells_draws ..).level.steers
  | eraseBelow => exact (eraseBelow_draws t).level.steers
  | eraseAbove => exact (eraseAbove_draws t).level.steers
  | eraseAll => exact (eraseAll_draws t).level.steers
  | deleteCharacters count => exact (deleteCharacters_draws t count).level.steers
  | insertBlanks count => exact (insertBlanks_draws t count).level.steers
  | deleteLines | insertLines => exact betweenMargins_steers t ..
  | tab => exact tab_steers t
  | setApplicationCursorKeys on => exact (setMode_level t .cursorKeys on).steers
  | set132Columns on => exact set132Columns_steers t on
  | setOriginMode => exact clamped_steers rfl rfl rfl rfl
  | restoreMode mode => exact restoreMode_steers t mode
  | fullReset => exact fullReset_steers t
  | _ => exact Level.steers ⟨rfl, rfl, rfl, rfl⟩

structure Refitted (t u : Terminal) : Prop where
  row : u.cursor.row = min t.cursor.row (u.window.rows - 1)
  region : u.cursor.region =
    if t.cursor.region.top < u.window.rows ∧ t.cursor.region.bottom.all (· < u.window.rows) then
      t.cursor.region
    else {}
  saved : u.savedCursor = t.savedCursor

theorem Refitted.region_cases (refitted : Refitted t u) :
    u.cursor.region = t.cursor.region ∨ u.cursor.region = {} := by
  rw [refitted.region]
  split
  · exact .inl rfl
  · exact .inr rfl

theorem resize_refitted (t : Terminal) (size : Extent) : Refitted t (t.resize size) := by
  have refitted : ∀ u v, Refitted t u → Level u v → Refitted t v := by
    intro u v one level
    refine ⟨?_, ?_, level.saved.trans one.saved⟩
    · rw [level.row, level.window]; exact one.row
    · rw [level.region, level.window]; exact one.region
  unfold resize
  refine refitted _ _ ?_ ((reportWindow_draws _).trans (marked_draws _)).level
  have moved := mapBuffer_draws t fun b =>
    { b with topRow := b.topRow + (t.cursor.row - min t.cursor.row (size.atLeastOne.rows - 1)) }
  exact ⟨rfl, rfl, moved.savedCursor⟩

-- The row is not below the region, whatever the window.
def NotBelow (c : Cursor) : Prop := ∀ bottom, c.region.bottom = some bottom → c.row ≤ bottom

structure NotAbove (least : Nat) (c : Cursor) : Prop where
  top : c.region.top ≤ c.row
  room : c.region.top < least

structure Cursors (P : Cursor → Prop) (t : Terminal) : Prop where
  live : P t.cursor
  saved : ∀ saved, t.savedCursor = some saved → P saved

theorem Steered.notBelow {c : Cursor} (cursors : Cursors NotBelow t) (steered : Steered t c) :
    NotBelow c := by
  intro bottom lowest
  cases steered with
  | within region least most =>
    rw [region] at lowest
    have live := cursors.live bottom lowest
    have margin : t.bottomMargin ≤ bottom := by
      unfold bottomMargin ScrollRegion.bottomIn
      rw [lowest]
      exact Nat.min_le_left ..
    omega
  | cleared region => rw [region] at lowest; cases lowest
  | confined room least most =>
    refine Nat.le_trans most ?_
    unfold ScrollRegion.bottomIn
    rw [lowest]
    exact Nat.min_le_left ..
  | restored saved found region row =>
    rw [region] at lowest
    rw [row]
    exact Nat.le_trans (Nat.min_le_left ..) (cursors.saved saved found bottom lowest)

theorem Steers.cursors {P : Cursor → Prop}
    (alike : ∀ c d : Cursor, d.row = c.row → d.region = c.region → P c → P d)
    (steers : Steers t u) (cursors : Cursors P t) (live : P u.cursor) : Cursors P u := by
  refine ⟨live, fun saved found => ?_⟩
  rcases steers.saved saved found with earlier | ⟨row, region⟩
  · exact cursors.saved saved earlier
  · exact alike t.cursor saved row region cursors.live

structure Floored (t : Terminal) : Prop extends InGrid t, Cursors NotBelow t

theorem new_floored (size : Extent) (identity : Identity) (listening : Bool) :
    Floored (new size identity listening) := by
  refine ⟨new_inGrid size identity listening, ?_, ?_⟩ <;> intro _ found <;> cases found

theorem perform_floored (floored : Floored t) (operation : Operation) :
    Floored (t.perform operation) := by
  have steers := perform_steers t operation
  have live := steers.cursor.notBelow floored.toCursors
  refine ⟨perform_inGrid floored.toInGrid operation, steers.cursors ?_ floored.toCursors live⟩
  intro c d row region holds bottom lowest
  rw [region] at lowest
  rw [row]
  exact holds bottom lowest

theorem resize_floored (floored : Floored t) (size : Extent) : Floored (t.resize size) := by
  have refitted := resize_refitted t size
  refine ⟨resize_inGrid t size, fun bottom lowest => ?_, fun c found => ?_⟩
  · rcases refitted.region_cases with same | cleared
    · rw [same] at lowest
      rw [refitted.row]
      exact Nat.le_trans (Nat.min_le_left ..) (floored.live bottom lowest)
    · rw [cleared] at lowest
      cases lowest
  · exact floored.saved c (refitted.saved ▸ found)

theorem floored_stable : Stable Floored where
  input _ _ _ floored := ⟨inGrid_stable.input _ _ _ floored.toInGrid, floored.live, floored.saved⟩
  perform _ operation floored := perform_floored floored operation

theorem run_floored (floored : Floored t) (actions : List Action) : Floored (t.run actions) :=
  floored_stable.run (fun _ size _ floored => resize_floored floored size) floored

theorem Floored.row_le (floored : Floored t) : t.cursor.row ≤ t.bottomMargin := by
  have row := floored.row
  unfold bottomMargin ScrollRegion.bottomIn
  split
  · omega
  · rename_i bottom lowest
    have live := floored.live bottom lowest
    omega

structure Walled (least most : Nat) (t : Terminal) : Prop extends Floored t where
  lowest : least ≤ t.window.rows
  highest : t.window.rows ≤ most
  above : Cursors (NotAbove least) t

section Walls

variable {least most : Nat}

theorem NotAbove.cleared {c : Cursor} (positive : 0 < least) (cleared : c.region = {}) :
    NotAbove least c := by
  constructor <;> rw [cleared]
  · exact Nat.zero_le _
  · exact positive

theorem Walled.topMargin (walled : Walled least most t) :
    t.topMargin = t.cursor.region.top := by
  obtain ⟨top, room⟩ := walled.above.live
  have tall := walled.lowest
  have bottom : t.cursor.row ≤ t.cursor.region.bottomIn t.window.rows := walled.row_le
  exact Nat.min_eq_left (by omega)

-- With heights that differ by one at most, a region that fits one of them
-- leaves its first row in all of them.
theorem Walled.notAbove (positive : 0 < least) (close : most ≤ least + 1)
    (walled : Walled least most t) {c : Cursor} (steered : Steered t c) : NotAbove least c := by
  have tall := walled.lowest
  have short := walled.highest
  cases steered with
  | within region first last =>
    obtain ⟨top, room⟩ := walled.above.live
    rw [walled.topMargin] at first
    constructor <;> rw [region]
    · omega
    · exact room
  | cleared region => exact .cleared positive region
  | confined room first last =>
    have top := room.top
    exact ⟨first, by omega⟩
  | restored saved found region row =>
    obtain ⟨top, room⟩ := walled.above.saved saved found
    constructor <;> rw [region]
    · rw [row]
      omega
    · exact room

theorem new_walled (positive : 0 < least) {size : Extent} (lowest : least ≤ size.atLeastOne.rows)
    (highest : size.atLeastOne.rows ≤ most) (identity : Identity) (listening : Bool) :
    Walled least most (new size identity listening) :=
  ⟨new_floored size identity listening, lowest, highest, .cleared positive rfl,
    fun _ found => nomatch found⟩

theorem perform_walled (positive : 0 < least) (close : most ≤ least + 1)
    (walled : Walled least most t) (operation : Operation) :
    Walled least most (t.perform operation) := by
  have steers := perform_steers t operation
  have live := walled.notAbove positive close steers.cursor
  refine ⟨perform_floored walled.toFloored operation, ?_, ?_, steers.cursors ?_ walled.above live⟩
  · rw [steers.window]; exact walled.lowest
  · rw [steers.window]; exact walled.highest
  · intro c d row region holds
    exact ⟨by rw [row, region]; exact holds.top, by rw [region]; exact holds.room⟩

theorem resize_walled (positive : 0 < least) (walled : Walled least most t) {size : Extent}
    (lowest : least ≤ size.atLeastOne.rows) (highest : size.atLeastOne.rows ≤ most) :
    Walled least most (t.resize size) := by
  have refitted := resize_refitted t size
  have window : (t.resize size).window = size.atLeastOne := resize_window t size
  refine ⟨resize_floored walled.toFloored size, ?_, ?_, ?_, fun c found => ?_⟩
  · rw [window]; exact lowest
  · rw [window]; exact highest
  · rcases refitted.region_cases with same | cleared
    · obtain ⟨top, room⟩ := walled.above.live
      constructor <;> rw [same]
      · rw [refitted.row, window]
        omega
      · exact room
    · exact .cleared positive cleared
  · exact walled.above.saved c (refitted.saved ▸ found)

theorem walled_stable (positive : 0 < least) (close : most ≤ least + 1) :
    Stable (Walled least most) where
  input _ _ _ walled := ⟨floored_stable.input _ _ _ walled.toFloored, walled.lowest,
    walled.highest, walled.above.live, walled.above.saved⟩
  perform _ operation walled := perform_walled positive close walled operation

end Walls

def HeightsWithin (least most : Nat) (size : Extent) (actions : List Action) : Prop :=
  ∀ e : Extent, e = size ∨ .resize e ∈ actions →
    least ≤ e.atLeastOne.rows ∧ e.atLeastOne.rows ≤ most

theorem run_walled {least most : Nat} (positive : 0 < least) (close : most ≤ least + 1)
    {size : Extent} {actions : List Action} (heights : HeightsWithin least most size actions)
    (identity : Identity) (listening : Bool) :
    Walled least most ((new size identity listening).run actions) := by
  obtain ⟨lowest, highest⟩ := heights size (.inl rfl)
  have start := new_walled positive lowest highest identity listening
  refine (walled_stable positive close).run ?_ start
  intro u e resized walled
  obtain ⟨low, high⟩ := heights e (.inr resized)
  exact resize_walled positive walled low high

-- A cursor saved on the first row of a region and brought back in a window that
-- ends right above this row is outside the region once the window has room for
-- it again.
theorem restored_astray {saved : Cursor} {first : Nat} (found : t.savedCursor = some saved)
    (region : saved.region = ⟨first, none⟩) (row : saved.row = first)
    (rows : t.window.rows = first) (positive : 0 < first) {size : Extent}
    (room : first < size.atLeastOne.rows) :
    (t.restoreCursor.resize size).cursor.row < (t.restoreCursor.resize size).topMargin := by
  have back : t.restoreCursor.cursor.region = ⟨first, none⟩ ∧
      t.restoreCursor.cursor.row = first - 1 := by
    unfold restoreCursor
    rw [found]
    refine ⟨region, ?_⟩
    show min saved.row (t.window.rows - 1) = first - 1
    omega
  have refitted := resize_refitted t.restoreCursor size
  have window := resize_window t.restoreCursor size
  have kept : (t.restoreCursor.resize size).cursor.region = ⟨first, none⟩ := by
    rw [refitted.region, back.1, window]
    exact if_pos ⟨room, rfl⟩
  rw [refitted.row, back.2, topMargin, kept, window]
  show min (first - 1) _ < min first (size.atLeastOne.rows - 1)
  omega

theorem setScrollRegion_from {first : Nat} (absolute : t.cursor.originMode = false)
    (room : first + 1 < t.window.rows) :
    let u := t.setScrollRegion (first + 1) 0
    u.cursor.region = ⟨first, none⟩ ∧ u.cursor.row = first ∧ u.window = t.window := by
  have proper : ¬t.window.rows - 1 ≤ first := by omega
  simp only [setScrollRegion, Nat.add_sub_cancel, if_pos, if_neg proper, Nat.lt_irrefl, if_false]
  refine ⟨rfl, ?_, rfl⟩
  show clamp (if t.cursor.originMode then first else 0) (min first (t.window.rows - 1))
    (t.window.rows - 1) = first
  rw [absolute]
  show max (min first (t.window.rows - 1)) (min 0 (t.window.rows - 1)) = first
  omega

def straying (first height : Nat) : List Action :=
  [.perform (.setScrollRegion (first + 1) 0), .perform .saveCursor, .resize ⟨1, first⟩,
    .perform .restoreCursor, .resize ⟨1, height⟩]

theorem straying_above {first height : Nat} (positive : 0 < first) (room : first + 1 < height) :
    let t := (new ⟨1, height⟩ {} false).run (straying first height)
    t.cursor.row < t.topMargin := by
  have low : (⟨1, first⟩ : Extent).atLeastOne.rows = first := Nat.max_eq_right positive
  have some : 1 ≤ height := by omega
  have tall : (⟨1, height⟩ : Extent).atLeastOne.rows = height := Nat.max_eq_right some
  have made : (new ⟨1, height⟩ {} false).window.rows = height := tall
  obtain ⟨region, row, -⟩ := setScrollRegion_from (t := new ⟨1, height⟩ {} false) rfl
    (show first + 1 < _ by omega)
  have saved := (resize_refitted
    ((new ⟨1, height⟩ {} false).setScrollRegion (first + 1) 0).saveCursor ⟨1, first⟩).saved
  refine restored_astray saved region row ?_ positive (show first < _ by omega)
  rw [resize_window]
  exact low

theorem between_margins_iff (least most : Nat) :
    (∀ size identity listening actions,
      let t := (new size identity listening).run actions
      t.cursor.row ≤ t.bottomMargin) ∧
    ((∀ size identity listening actions, HeightsWithin least most size actions →
      let t := (new size identity listening).run actions
      t.topMargin ≤ t.cursor.row) ↔ most ≤ max 1 least + 1) := by
  refine ⟨fun size identity listening actions => ?_, fun inside => ?_, ?_⟩
  · exact (run_floored (new_floored size identity listening) actions).row_le
  · rcases Nat.lt_or_ge (max 1 least + 1) most with apart | close
    · have heights : HeightsWithin least most ⟨1, most⟩ (straying (max 1 least) most) := by
        intro e used
        simp only [straying, List.mem_cons, List.not_mem_nil, Action.resize.injEq, reduceCtorEq,
          false_or, or_false] at used
        rcases used with rfl | rfl | rfl <;> simp only [Extent.atLeastOne] <;> omega
      have held := inside ⟨1, most⟩ {} false _ heights
      have astray := straying_above (Nat.le_max_left 1 least) apart
      exact absurd held (Nat.not_le_of_lt astray)
    · exact close
  · intro close size identity listening actions heights
    have raised : HeightsWithin (max 1 least) most size actions := by
      intro e used
      obtain ⟨low, high⟩ := heights e used
      exact ⟨Nat.max_le.mpr ⟨Nat.le_max_left .., low⟩, high⟩
    have walled := run_walled (Nat.le_max_left 1 least) close raised identity listening
    exact Nat.le_trans (Nat.le_of_eq walled.topMargin) walled.above.live.top

theorem restored_above_region :
    let t := (new ⟨1, 3⟩ {} false).run
      [.feed (Utf8.encodeString "\x1b[2r"), .feed (Utf8.encodeString "\x1b7"), .resize ⟨1, 1⟩,
        .feed (Utf8.encodeString "\x1b8"), .resize ⟨1, 3⟩]
    ¬(t.topMargin ≤ t.cursor.row ∧ t.cursor.row ≤ t.bottomMargin) := by
  decide +kernel

end Terminal

end VideoTerminal

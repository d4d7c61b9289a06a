import VideoTerminal.Proofs.Grid
import VideoTerminal.Proofs.Telling

-- A renderer that lives on events alone holds the window of a terminal up to
-- 132 columns wide. In a wider window the 132 column mode drops cells unsaid.
namespace VideoTerminal.Terminal
open Sequence

-- Every place of the window that shows something new is in a row that was
-- reported, or the last event about this very place carries its cell.
def Told (t u : Terminal) : Prop :=
  ∃ events : List Event, u.outbox = t.outbox ++ events ∧
    ∀ row column, row < t.window.rows → column < t.window.columns →
      u.view row column ≠ t.view row column →
        (∃ top bottom, .rowsChanged top bottom ∈ events ∧ top ≤ row ∧ row ≤ bottom) ∨
        ∃ before after, events = before ++ .cellChanged row column (u.view row column) :: after ∧
          ∀ cell, .cellChanged row column cell ∉ after

variable {origin t u : Terminal}

theorem Tells.toTold (tells : Tells t u) : Told t u := by
  obtain ⟨events, grown, accounted⟩ := tells.told
  refine ⟨events, grown, fun row column tall wide new => ?_⟩
  have word := accounted row column tall wide
  cases last : lastWord? row column events with
  | none =>
    rw [last] at word
    exact absurd word.symm new
  | some spoken =>
    cases spoken with
    | reread => exact .inl (lastWord?_reread last)
    | cell cell =>
      rw [last] at word
      have carried : cell = u.view row column := word
      obtain ⟨before, after, parts, silent⟩ := lastWord?_cell last
      exact .inr ⟨before, after, carried ▸ parts, fun _ => lastWord?_none silent⟩

theorem performAll_tells (grid : InGrid t) (listening : t.listening = true)
    (narrow : t.window.columns ≤ 132) (operations : List Operation) :
    Tells t (t.performAll operations) := by
  induction operations generalizing t with
  | nil => exact .refl t
  | cons operation rest ih =>
    have one := perform_tells ⟨listening, grid.page_covers narrow⟩ operation fun _ => narrow
    exact one.trans (ih (perform_inGrid grid operation) (one.listening.trans listening)
      (one.window ▸ narrow))

structure Followed (origin t : Terminal) : Prop extends InGrid t where
  listening : t.listening = true
  narrow : t.window.columns ≤ 132
  painted : ∃ events : List Event, t.outbox = origin.outbox ++ events ∧
    ∀ held, Mirrors held origin → Mirrors (t.view.paintAll held events) t

theorem Followed.start (grid : InGrid t) (listening : t.listening = true)
    (narrow : t.window.columns ≤ 132) : Followed t t :=
  ⟨grid, listening, narrow, [], by simp, fun _ mirrors => mirrors⟩

theorem Followed.tells (followed : Followed origin t) (grid : InGrid u) (tells : Tells t u) :
    Followed origin u := by
  obtain ⟨events, grown, paints⟩ := followed.painted
  obtain ⟨later, grownAgain, accounted⟩ := tells.told
  refine ⟨grid, tells.listening.trans followed.listening, tells.window ▸ followed.narrow,
    events ++ later, ?_, fun held mirrors row column tall wide => ?_⟩
  · rw [grownAgain, grown]
    exact Array.ext' (by simp)
  · rw [tells.window] at tall wide
    have half := paints held mirrors row column tall wide
    rw [View.paintAll_eq] at half ⊢
    rw [lastWord?_append]
    exact shown_or half (accounted row column tall wide)

theorem Followed.performAll (followed : Followed origin t) (operations : List Operation) :
    Followed origin (t.performAll operations) :=
  followed.tells (performAll_inGrid followed.toInGrid operations)
    (performAll_tells followed.toInGrid followed.listening followed.narrow operations)

theorem Followed.quiet (followed : Followed origin t) (unsaid : Unsaid t u) (view : u.view = t.view)
    (grid : InGrid u) : Followed origin u :=
  followed.tells grid (quiet_tells unsaid view)

theorem Followed.feed (followed : Followed origin t) (bytes : List UInt8) :
    Followed origin (t.feed bytes).2 := by
  have lowered : Followed origin { t with unread := [], changed := false } :=
    followed.quiet ⟨rfl, rfl, rfl⟩ rfl
      (followed.toInGrid.move rfl rfl followed.row followed.column)
  have performed := lowered.performAll (t.askedBy (.feed bytes))
  have applied := apply_asked { t with unread := [], changed := false } (t.unread ++ bytes)
  rw [Terminal.feed, applied]
  exact performed.quiet ⟨rfl, rfl, rfl⟩ rfl
    (performed.toInGrid.move rfl rfl performed.row performed.column)

theorem resize_raises (listening : t.listening = true) (size : Extent) :
    (t.resize size).listening = true ∧
      (t.resize size).outbox =
        t.outbox ++ [Event.rowsChanged 0 ((t.resize size).window.rows - 1)] := by
  have moved := mapBuffer_unsaid t fun b =>
    { b with topRow := b.topRow + (t.cursor.row - min t.cursor.row (size.atLeastOne.rows - 1)) }
  rw [resize_window]
  unfold resize reportWindow reportRows raise raiseAll
  dsimp only
  rw [if_pos (moved.listening.trans listening), ← moved.outbox]
  exact ⟨moved.listening.trans listening, rfl⟩

theorem Followed.resize (followed : Followed origin t) {size : Extent}
    (narrow : size.columns ≤ 132) : Followed origin (t.resize size) := by
  obtain ⟨events, grown, -⟩ := followed.painted
  obtain ⟨listening, raised⟩ := resize_raises followed.listening size
  have window := resize_window t size
  refine ⟨resize_inGrid t size, listening, ?_,
    events ++ [.rowsChanged 0 ((t.resize size).window.rows - 1)], ?_, ?_⟩
  · rw [window]
    exact Nat.max_le.mpr ⟨by omega, narrow⟩
  · rw [raised, grown]
    exact Array.ext' (by simp)
  · intro held mirrors row column tall wide
    have inside : row ≤ (t.resize size).window.rows - 1 := by omega
    rw [View.paintAll_eq, lastWord?_append]
    simp [lastWord?, Event.word?, inside, shown]

theorem Followed.run (followed : Followed origin t) {actions : List Action}
    (narrow : ∀ size, .resize size ∈ actions → size.columns ≤ 132) :
    Followed origin (t.run actions) := by
  induction actions generalizing t with
  | nil => exact followed
  | cons action rest ih =>
    refine ih ?_ fun size later => narrow size (List.mem_cons_of_mem _ later)
    cases action with
    | feed bytes => exact followed.feed bytes
    | resize size => exact followed.resize (narrow size List.mem_cons_self)
    | perform operation => exact followed.performAll [operation]
    | dispatch sequence => exact followed.performAll sequence.operations

theorem eraseCells_view_past (t : Terminal) (edited first last row : Nat) {column : Nat}
    (past : t.page.columns ≤ column) :
    (t.eraseCells edited first last).view row column =
      if row = edited then {} else t.view row column := by
  refine (congrFun (congrFun (reportCells_view ..) row) column).trans ?_
  rw [editLine_view]
  split
  · rw [Line.cellAt_trim, if_neg (by omega)]
  · rfl

theorem eraseRows_view_past (t : Terminal) (first count row : Nat) {column : Nat}
    (past : t.page.columns ≤ column) :
    (t.eraseRows first count).view row column =
      if row ∈ List.range' first count then {} else t.view row column := by
  unfold eraseRows
  induction List.range' first count generalizing t with
  | nil => simp
  | cons edited rest ih =>
    have drawn := eraseCells_draws t edited 0 t.page.columns
    have later := ih (t.eraseRow edited) (by rw [eraseRow, drawn.page]; exact past)
    rw [List.foldl_cons, later, eraseRow, eraseCells_view_past t _ _ _ _ past]
    by_cases here : row = edited <;> simp [here]

def InPage (columns : Nat) (events : List Event) : Prop :=
  ∀ event ∈ events, ∃ row column cell, event = .cellChanged row column cell ∧ column < columns

theorem reportCells_raises (t : Terminal) (row first last : Nat) :
    ∃ events : List Event, (t.reportCells row first last).outbox = t.outbox ++ events ∧
      InPage t.page.columns events := by
  unfold reportCells raiseAll
  split
  · split
    · refine ⟨_, rfl, fun event found => ?_⟩
      obtain ⟨column, reported, rfl⟩ := List.mem_map.mp found
      obtain ⟨low, high⟩ := List.mem_range'_1.mp reported
      exact ⟨row, column, _, rfl, by omega⟩
    · exact ⟨[], by simp, List.forall_mem_nil _⟩
  · exact ⟨[], by simp, List.forall_mem_nil _⟩

theorem eraseCells_raises (t : Terminal) (row first last : Nat) :
    ∃ events : List Event, (t.eraseCells row first last).outbox = t.outbox ++ events ∧
      InPage t.page.columns events := by
  have edited := editLine_unsaid t row fun l =>
    (l.fill first (min last t.page.columns) (.blank t.cursor.rendition)).trim t.page.columns
  have drawn := editLine_draws t row fun l =>
    (l.fill first (min last t.page.columns) (.blank t.cursor.rendition)).trim t.page.columns
  obtain ⟨events, grown, inPage⟩ := reportCells_raises (t.editLine row fun l =>
    (l.fill first (min last t.page.columns) (.blank t.cursor.rendition)).trim t.page.columns)
    row first last
  rw [edited.outbox] at grown
  rw [drawn.page] at inPage
  exact ⟨events, grown, inPage⟩

theorem eraseRows_raises (t : Terminal) (first count : Nat) :
    ∃ events : List Event, (t.eraseRows first count).outbox = t.outbox ++ events ∧
      InPage t.page.columns events := by
  unfold eraseRows
  induction List.range' first count generalizing t with
  | nil => exact ⟨[], by simp, List.forall_mem_nil _⟩
  | cons row rest ih =>
    have drawn := eraseCells_draws t row 0 t.page.columns
    obtain ⟨here, grown, inPage⟩ := eraseCells_raises t row 0 t.page.columns
    obtain ⟨later, grownAgain, stillInPage⟩ := ih (t.eraseRow row)
    refine ⟨here ++ later, ?_, fun event found => ?_⟩
    · rw [List.foldl_cons, grownAgain, eraseRow, grown]
      exact Array.ext' (by simp)
    · rcases List.mem_append.mp found with found | found
      · exact inPage event found
      · rw [eraseRow, drawn.page] at stillInPage
        exact stillInPage event found

theorem set132Columns_not_told (tall : 0 < t.window.rows) {column : Nat} (behind : 132 ≤ column)
    (visible : column < t.window.columns) (written : t.view 0 column ≠ {}) :
    ¬ Told t (t.perform (.set132Columns true)) := by
  rintro ⟨events, grown, accounted⟩
  have lost := eraseRows_view_past { t with page := { t.page with columns := 132 } }
    0 t.window.rows 0 behind
  obtain ⟨raised, outbox, inPage⟩ := eraseRows_raises
    { t with page := { t.page with columns := 132 } } 0 t.window.rows
  have same : events = raised := by
    have both : t.outbox ++ events = t.outbox ++ raised := grown.symm.trans outbox
    have lists := congrArg Array.toList both
    simpa using lists
  rw [if_pos (List.mem_range'_1.mpr ⟨Nat.le_refl _, by omega⟩)] at lost
  have changed : (t.perform (.set132Columns true)).view 0 column ≠ t.view 0 column := by
    intro kept
    exact written (kept.symm.trans lost)
  rcases accounted 0 column tall visible changed with reported | carried
  · obtain ⟨top, bottom, found, -⟩ := reported
    obtain ⟨_, _, _, other, _⟩ := inPage _ (same ▸ found)
    cases other
  · obtain ⟨before, after, parts, -⟩ := carried
    have found : .cellChanged 0 column ((t.perform (.set132Columns true)).view 0 column) ∈
        events := by
      rw [parts]
      exact List.mem_append_right _ List.mem_cons_self
    obtain ⟨_, _, _, this, bound⟩ := inPage _ (same ▸ found)
    cases this
    exact absurd bound (Nat.not_lt.mpr behind)

def overflowing (size : Extent) : Terminal :=
  ((new size {} true).perform (.setCursorColumn 133)).perform (.putChar 'x')

theorem overflowing_reached (size : Extent) : Reached (overflowing size) :=
  .act (.perform (.putChar 'x')) (.act (.perform (.setCursorColumn 133)) (.new size {} true))

theorem overflowing_tells (size : Extent) :
    Tells ((new size {} true).perform (.setCursorColumn 133)) (overflowing size) :=
  perform_tells ⟨rfl, Nat.le_refl _⟩ (.putChar 'x') nofun

theorem overflowing_view {size : Extent} (wide : 132 < size.columns) :
    (overflowing size).view 0 132 ≠ {} := by
  have columns : (new size {} true).page.columns = size.columns := Nat.max_eq_right (by omega)
  have column : ((new size {} true).perform (.setCursorColumn 133)).cursor.column = 132 := by
    refine Nat.min_eq_left ?_
    unfold lastColumn
    omega
  have unwrapped : ((new size {} true).perform (.setCursorColumn 133)).wrapped =
      (new size {} true).perform (.setCursorColumn 133) := by
    refine if_pos ?_
    rw [column]
    exact columns ▸ wide
  have written : (overflowing size).view 0 132 = ⟨'x', {}⟩ := by
    refine (congrArg (fun u => (u.putCell ⟨'x', {}⟩).view 0 132) unwrapped).trans ?_
    rw [putCell_view _ _ rfl 0 (columns ▸ wide), column, if_pos ⟨rfl, rfl⟩]
  rw [written]
  decide

-- All that a renderer needs from here on: each operation and each sequence is
-- told, and after any run the events since then make a window that was held
-- before into the one of now.
structure Mirrorable (t : Terminal) : Prop where
  operations : ∀ operation, Told t (t.perform operation)
  sequences : ∀ s, Told t (t.dispatch s)
  runs : ∀ actions : List Action, (∀ size, .resize size ∈ actions → size.columns ≤ 132) →
    ∃ events : List Event, (t.run actions).outbox = t.outbox ++ events ∧
      ∀ held, Mirrors held t → Mirrors ((t.run actions).view.paintAll held events) (t.run actions)

theorem mirrorable_of_narrow (grid : InGrid t) (listening : t.listening = true)
    (narrow : t.window.columns ≤ 132) : Mirrorable t where
  operations operation := (performAll_tells grid listening narrow [operation]).toTold
  sequences s := (performAll_tells grid listening narrow s.operations).toTold
  runs _ resizes := ((Followed.start grid listening narrow).run resizes).painted

theorem mirrorable_iff (size : Extent) :
    ((∀ t, Reached t → t.listening = true → t.window = size.atLeastOne → Mirrorable t) ↔
      size.columns ≤ 132) ∧
    ∀ t, Reached t → t.listening = true → t.window = size.atLeastOne →
      t.page.columns = t.window.columns →
        ∀ operation, operation ≠ .set132Columns true → Told t (t.perform operation) := by
  refine ⟨⟨fun mirrorable => ?_, fun narrow t reached listening window => ?_⟩, ?_⟩
  · refine Nat.le_of_not_lt fun wide => ?_
    have put := overflowing_tells size
    have window : (overflowing size).window = size.atLeastOne := put.window
    have told := (mirrorable _ (overflowing_reached size) put.listening window).operations
    refine set132Columns_not_told ?_ (Nat.le_refl 132) ?_ (overflowing_view wide) (told _)
    · rw [window]
      exact Nat.le_max_left ..
    · rw [window]
      exact Nat.lt_of_lt_of_le wide (Nat.le_max_right ..)
  · refine mirrorable_of_narrow reached.inGrid listening ?_
    rw [window]
    exact Nat.max_le.mpr ⟨by omega, narrow⟩
  · intro t _ listening _ page operation other
    have watched : Watched t := ⟨listening, Nat.le_of_eq page.symm⟩
    exact (perform_tells watched operation fun same => absurd same other).toTold

theorem overflowing_not_told :
    ¬ Told (overflowing ⟨133, 1⟩) ((overflowing ⟨133, 1⟩).perform (.set132Columns true)) := by
  have window : (overflowing ⟨133, 1⟩).window = ⟨133, 1⟩ := (overflowing_tells ⟨133, 1⟩).window
  refine set132Columns_not_told ?_ (Nat.le_refl 132) ?_ (overflowing_view (by decide))
  · rw [window]
    decide
  · rw [window]
    decide

end VideoTerminal.Terminal

import VideoTerminal.Proofs.Sparing

-- Seven places keep what was saved: the whole cursor in one, the value of a mode in each
-- of the others. Two of those modes are changed on other ways as well, cursor keys with
-- the cursor and the buffer by switching it, but no place is written on another's behalf.
namespace VideoTerminal

structure SavedState where
  cursor : Option Cursor
  modes : SavedModes

namespace Terminal

def savedState (t : Terminal) : SavedState := ⟨t.savedCursor, t.savedModes⟩

def savedAfter (t : Terminal) : Operation → SavedState
  | .saveCursor => { t.savedState with cursor := some t.cursor }
  | .saveMode mode =>
    { t.savedState with modes := t.savedModes.set mode (t.modeValue mode) }
  | .fullReset => ⟨none, {}⟩
  | _ => t.savedState

variable {t u : Terminal}

theorem Draws.savedState (drawn : Draws t u) : u.savedState = t.savedState :=
  (congrArg Terminal.savedState drawn :)

theorem Travels.savedState (travels : Travels t u) : u.savedState = t.savedState := by
  obtain ⟨cursor, drawn⟩ := travels
  exact drawn.savedState

theorem Draws.modeValue (drawn : Draws t u) (mode : SavableMode) :
    u.modeValue mode = t.modeValue mode := by
  have same : u.undrawn.modeValue mode = t.undrawn.modeValue mode :=
    congrArg (Terminal.modeValue · mode) drawn
  cases mode <;> exact same

theorem useBuffer_draws (t : Terminal) (kind : BufferKind) :
    Draws { t with active := kind } (t.useBuffer kind) :=
  (reportWindow_draws _).trans (marked_draws _)

theorem set132Columns_savedState (t : Terminal) (on : Bool) :
    (t.set132Columns on).savedState = t.savedState :=
  (eraseAll_draws
    { t with page := { t.page with columns := if on then 132 else t.window.columns } }).savedState

theorem setMode_savedState (t : Terminal) (mode : SavableMode) (on : Bool) :
    (t.setMode mode on).savedState = t.savedState := by
  cases mode with
  | normalBuffer => exact (useBuffer_draws ..).savedState
  | _ => rfl

theorem setMode_modeValue (t : Terminal) (mode other : SavableMode) (on : Bool) :
    (t.setMode mode on).modeValue other = if other = mode then on else t.modeValue other := by
  cases mode with
  | normalBuffer =>
    refine ((useBuffer_draws ..).modeValue other).trans ?_
    cases other <;> cases on <;> rfl
  | _ => cases other <;> rfl

theorem restoreMode_savedState (t : Terminal) (mode : SavableMode) :
    (t.restoreMode mode).savedState = t.savedState := by
  unfold restoreMode
  split
  · rfl
  · exact setMode_savedState ..

theorem perform_savedState (t : Terminal) (operation : Operation) :
    (t.perform operation).savedState = t.savedAfter operation := by
  cases kind : operation.travels with
  | true =>
    have travelled := (perform_travels t kind).savedState
    cases operation with
    | saveCursor | saveMode | fullReset => cases kind
    | _ => exact travelled
  | false =>
    cases operation with
    | setTitle title => exact (raise_draws { t with title } (.titleChanged title)).savedState
    | useAlternateBuffer | useNormalBuffer => exact (useBuffer_draws ..).savedState
    | set132Columns on => exact set132Columns_savedState t on
    | restoreMode mode => exact restoreMode_savedState t mode
    | fullReset => exact ((reportWindow_draws _).trans (marked_draws _)).savedState
    | saveCursor | saveMode | shiftIn | shiftOut | designate | selectEncodingLatin1
    | selectEncodingUtf8 | setAutomaticNewLine | setKeypad | setBlinkingCursor | showCursor
    | setHostMode => rfl
    | _ => cases kind

theorem resize_savedState (t : Terminal) (size : Extent) :
    (t.resize size).savedState = t.savedState := by
  unfold resize
  refine ((reportWindow_draws _).trans (marked_draws _)).savedState.trans ?_
  exact (mapBuffer_draws ..).savedState

-- Operations that leave the saved cursor alone, and those that leave a saved mode alone.
def SparesCursor (operation : Operation) : Prop :=
  operation ≠ .saveCursor ∧ operation ≠ .fullReset

def SparesMode (mode : SavableMode) (operation : Operation) : Prop :=
  operation ≠ .saveMode mode ∧ operation ≠ .fullReset

instance : DecidablePred SparesCursor := fun operation =>
  inferInstanceAs (Decidable (operation ≠ .saveCursor ∧ operation ≠ .fullReset))

instance (mode : SavableMode) : DecidablePred (SparesMode mode) := fun operation =>
  inferInstanceAs (Decidable (operation ≠ .saveMode mode ∧ operation ≠ .fullReset))

theorem savedCursor_stable (saved : Option Cursor) :
    StableUnder SparesCursor fun t => t.savedState.cursor = saved where
  input _ _ _ held := held
  perform t operation spares held := by
    rw [perform_savedState]
    cases operation with
    | saveCursor => exact absurd rfl spares.1
    | fullReset => exact absurd rfl spares.2
    | _ => exact held

theorem savedMode_stable (mode : SavableMode) (saved : Option Bool) :
    StableUnder (SparesMode mode) fun t => t.savedState.modes.get mode = saved where
  input _ _ _ held := held
  perform t operation spares held := by
    rw [perform_savedState]
    cases operation with
    | saveMode other =>
      have apart : ¬mode = other := fun same => spares.1 (same ▸ rfl)
      refine (SavedModes.get_set ..).trans ?_
      rw [if_neg apart]
      exact held
    | fullReset => exact absurd rfl spares.2
    | _ => exact held

theorem run_savedCursor {actions : List Action}
    (spares : ∀ operation ∈ t.askedByAll actions, SparesCursor operation) :
    (t.run actions).savedCursor = t.savedCursor :=
  (savedCursor_stable t.savedCursor).run spares
    (fun u size _ held => (congrArg SavedState.cursor (resize_savedState u size)).trans held) rfl

theorem run_savedMode {mode : SavableMode} {actions : List Action}
    (spares : ∀ operation ∈ t.askedByAll actions, SparesMode mode operation) :
    (t.run actions).savedModes.get mode = t.savedModes.get mode :=
  (savedMode_stable mode (t.savedModes.get mode)).run spares
    (fun u size _ held =>
      (congrArg (fun saved => SavedState.modes saved |>.get mode) (resize_savedState u size)).trans
        held) rfl

theorem restoreCursor_cursor {saved : Cursor} (found : t.savedCursor = some saved) :
    t.restoreCursor.cursor =
      { saved with
        row := min saved.row (t.window.rows - 1)
        column := min saved.column t.page.columns } := by
  unfold restoreCursor
  rw [found]
  rfl

theorem restoreMode_eq {mode : SavableMode} {on : Bool} (found : t.savedModes.get mode = some on) :
    t.restoreMode mode = t.setMode mode on := by
  unfold restoreMode
  rw [found]

-- For any terminal and any run between. What is restored is what was saved, and only the
-- row and the column give way where the grid has become too small for them. A mode that
-- is restored changes no other mode and nothing that is saved.
theorem restored_as_saved (t : Terminal) (actions : List Action) :
    (let saved := t.perform .saveCursor
      let u := saved.run actions
      (∀ operation ∈ saved.askedByAll actions, SparesCursor operation) →
        (u.perform .restoreCursor).cursor =
          { t.cursor with
            row := min t.cursor.row (u.window.rows - 1)
            column := min t.cursor.column u.page.columns }) ∧
      ∀ mode : SavableMode,
        let saved := t.perform (.saveMode mode)
        let u := saved.run actions
        (∀ operation ∈ saved.askedByAll actions, SparesMode mode operation) →
          let v := u.perform (.restoreMode mode)
          v.modeValue mode = t.modeValue mode ∧
            (∀ other, other ≠ mode → v.modeValue other = u.modeValue other) ∧
            v.savedModes = u.savedModes ∧ v.savedCursor = u.savedCursor := by
  constructor
  · intro saved u spares
    exact restoreCursor_cursor (run_savedCursor spares)
  · intro mode saved u spares v
    have stored : saved.savedModes.get mode = some (t.modeValue mode) := by
      refine (SavedModes.get_set ..).trans ?_
      rw [if_pos rfl]
    have found := (run_savedMode spares).trans stored
    have restored : v = u.setMode mode (t.modeValue mode) := restoreMode_eq found
    have values := setMode_modeValue u mode
    have kept := setMode_savedState u mode (t.modeValue mode)
    rw [restored]
    refine ⟨?_, ?_, congrArg SavedState.modes kept, congrArg SavedState.cursor kept⟩
    · rw [values, if_pos rfl]
    · intro other apart
      rw [values, if_neg apart]

theorem restored_as_saved_smaller :
    let t := ((new ⟨4, 3⟩ {} true).feed (Utf8.encodeString "\x1b[31m\x1b[?1h\x1b[3;4Hx")).2
    let undone := Utf8.encodeString "\x1b[0m\x1b[?1l\x1b[2;3r\x1b[?2004s\x1b[?2004r"
    let between : List Action := [.feed undone, .resize ⟨2, 2⟩]
    (((t.perform .saveCursor).run between).perform .restoreCursor).cursor =
        { t.cursor with row := 1, column := 2 } ∧
      (((t.perform (.saveMode .cursorKeys)).run between).perform
        (.restoreMode .cursorKeys)).modeValue .cursorKeys = true := by
  intro t undone between
  obtain ⟨cursor, modes⟩ := restored_as_saved t between
  have row : min t.cursor.row (((t.perform .saveCursor).run between).window.rows - 1) = 1 := by
    decide +kernel
  have column : min t.cursor.column ((t.perform .saveCursor).run between).page.columns = 2 := by
    decide +kernel
  constructor
  · have restored := cursor (by decide +kernel)
    rwa [row, column] at restored
  · have restored := (modes .cursorKeys (by decide +kernel)).1
    exact restored.trans (by decide +kernel)

end Terminal

end VideoTerminal

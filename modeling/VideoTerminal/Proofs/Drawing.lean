import VideoTerminal.Terminal.Perform

-- Steps that only draw. They may write to the buffer in use, raise events and
-- raise the changed flag. The cursor, every register and the other buffer are
-- as before. Which cells are written is not said here.
namespace VideoTerminal.Terminal

def otherBuffer (t : Terminal) : Buffer :=
  match t.active with
  | .normal => t.alternate
  | .alternate => t.normal

def undrawn (t : Terminal) : Terminal :=
  { t with
    normal := match t.active with
      | .normal => {}
      | .alternate => t.normal
    alternate := match t.active with
      | .normal => t.alternate
      | .alternate => {}
    changed := false
    outbox := #[] }

def Draws (t u : Terminal) : Prop := u.undrawn = t.undrawn

variable {t u v : Terminal}

theorem Draws.refl (t : Terminal) : Draws t t := rfl

theorem Draws.trans (one : Draws t u) (two : Draws u v) : Draws t v := Eq.trans two one

theorem Draws.active (drawn : Draws t u) : u.active = t.active := (congrArg Terminal.active drawn :)

theorem Draws.cursor (drawn : Draws t u) : u.cursor = t.cursor := (congrArg Terminal.cursor drawn :)

theorem Draws.savedCursor (drawn : Draws t u) : u.savedCursor = t.savedCursor :=
  (congrArg Terminal.savedCursor drawn :)

theorem Draws.window (drawn : Draws t u) : u.window = t.window := (congrArg Terminal.window drawn :)

theorem Draws.page (drawn : Draws t u) : u.page = t.page := (congrArg Terminal.page drawn :)

theorem Draws.listening (drawn : Draws t u) : u.listening = t.listening :=
  (congrArg Terminal.listening drawn :)

theorem margins_ordered (t : Terminal) : t.topMargin ≤ t.bottomMargin :=
  ScrollRegion.topIn_le_bottomIn ..

theorem Draws.otherBuffer (drawn : Draws t u) : u.otherBuffer = t.otherBuffer := by
  have shown : ∀ w : Terminal, w.otherBuffer = w.undrawn.otherBuffer := by
    intro w
    unfold Terminal.otherBuffer undrawn
    cases w.active <;> rfl
  rw [shown u, shown t, drawn]

theorem mapBuffer_draws (t : Terminal) (edit : Buffer → Buffer) : Draws t (t.mapBuffer edit) := by
  unfold Draws undrawn mapBuffer
  cases t.active <;> rfl

theorem editLine_draws (t : Terminal) (row : Nat) (f : Line → Line) :
    Draws t (t.editLine row f) := mapBuffer_draws ..

theorem marked_draws (t : Terminal) : Draws t t.marked := rfl

theorem raiseAll_eq (t : Terminal) (events : List Event) :
    t.raiseAll events = { t with outbox := (t.raiseAll events).outbox } := by
  unfold raiseAll
  split <;> rfl

theorem raiseAll_draws (t : Terminal) (events : List Event) : Draws t (t.raiseAll events) := by
  rw [raiseAll_eq]; rfl

theorem raise_draws (t : Terminal) (event : Event) : Draws t (t.raise event) := raiseAll_draws ..

theorem reportCells_draws (t : Terminal) (row first last : Nat) :
    Draws t (t.reportCells row first last) := by
  unfold reportCells
  split
  · exact raiseAll_draws ..
  · exact .refl t

theorem reportRows_draws (t : Terminal) (top bottom : Nat) : Draws t (t.reportRows top bottom) :=
  raise_draws ..

theorem reportWindow_draws (t : Terminal) : Draws t t.reportWindow := reportRows_draws ..

theorem eraseCells_draws (t : Terminal) (row first last : Nat) :
    Draws t (t.eraseCells row first last) :=
  ((editLine_draws ..).trans (reportCells_draws ..)).trans (marked_draws _)

theorem foldl_draws {α : Type} {step : Terminal → α → Terminal}
    (draws : ∀ u item, Draws u (step u item)) (items : List α) (t : Terminal) :
    Draws t (items.foldl step t) := by
  induction items generalizing t with
  | nil => exact .refl t
  | cons item rest ih => exact (draws t item).trans (ih _)

theorem repeat_draws {step : Terminal → Terminal} (draws : ∀ u, Draws u (step u)) (count : Nat)
    (t : Terminal) : Draws t (Nat.repeat step count t) := by
  induction count with
  | zero => exact .refl t
  | succ count ih => exact ih.trans (draws _)

theorem eraseRows_draws (t : Terminal) (first count : Nat) : Draws t (t.eraseRows first count) :=
  foldl_draws (fun _ _ => eraseCells_draws ..) ..

theorem eraseAll_draws (t : Terminal) : Draws t t.eraseAll := eraseRows_draws ..

theorem eraseBelow_draws (t : Terminal) : Draws t t.eraseBelow :=
  (eraseCells_draws ..).trans (eraseRows_draws ..)

theorem eraseAbove_draws (t : Terminal) : Draws t t.eraseAbove :=
  (eraseRows_draws ..).trans (eraseCells_draws ..)

theorem scrollRegionUp_draws (t : Terminal) (top bottom : Nat) :
    Draws t (t.scrollRegionUp top bottom) :=
  ((mapBuffer_draws ..).trans (reportRows_draws ..)).trans (marked_draws _)

theorem scrollRegionDown_draws (t : Terminal) (top bottom : Nat) :
    Draws t (t.scrollRegionDown top bottom) :=
  ((mapBuffer_draws ..).trans (reportRows_draws ..)).trans (marked_draws _)

theorem scrollWindow_draws (t : Terminal) : Draws t t.scrollWindow :=
  (mapBuffer_draws ..).trans (reportWindow_draws _)

theorem scrollUp_draws (t : Terminal) (count : Nat) : Draws t (t.scrollUp count) :=
  repeat_draws (fun _ => scrollRegionUp_draws ..) ..

theorem scrollDown_draws (t : Terminal) (count : Nat) : Draws t (t.scrollDown count) :=
  repeat_draws (fun _ => scrollRegionDown_draws ..) ..

theorem deleteCharacters_draws (t : Terminal) (count : Nat) : Draws t (t.deleteCharacters count) :=
  ((editLine_draws ..).trans (reportCells_draws ..)).trans (marked_draws _)

theorem insertBlanks_draws (t : Terminal) (count : Nat) : Draws t (t.insertBlanks count) :=
  ((editLine_draws ..).trans (reportCells_draws ..)).trans (marked_draws _)

theorem alignRow_draws (t : Terminal) (row : Nat) : Draws t (t.alignRow row) :=
  (editLine_draws ..).trans (reportCells_draws ..)

theorem Draws.move (drawn : Draws t u) (cursor : Cursor) :
    Draws { t with cursor } { u with cursor } :=
  congrArg (fun w : Terminal => ({ w with cursor } : Terminal)) drawn

theorem Draws.withColumn (drawn : Draws t u) (column : Nat) :
    Draws (t.withColumn column) (u.withColumn column) :=
  congrArg (Terminal.withColumn · column) drawn

-- Putting a cell is drawing, but for the column.
theorem putCell_draws (t : Terminal) (cell : Cell) :
    Draws (t.withColumn (t.cursor.column + 1)) (t.putCell cell) := by
  unfold putCell
  dsimp only
  split
  · refine Draws.trans ?_ ((reportCells_draws ..).trans (marked_draws _))
    exact (editLine_draws ..).withColumn _
  · refine Draws.trans ?_ ((raise_draws ..).trans (marked_draws _))
    exact (editLine_draws ..).withColumn _

theorem setScrollRegion_cases (t : Terminal) (top bottom : Nat) :
    t.setScrollRegion top bottom = t ∨
      ∃ cursor, t.setScrollRegion top bottom = { t with cursor }.home.marked := by
  unfold setScrollRegion
  dsimp only
  generalize (if bottom = 0 then t.window.rows - 1 else min (bottom - 1) (t.window.rows - 1)) = low
  split
  · exact .inl rfl
  · exact .inr ⟨_, rfl⟩

end VideoTerminal.Terminal

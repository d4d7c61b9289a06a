import VideoTerminal.Proofs.Telling
import VideoTerminal.Proofs.Grid

-- What is said of the terminal is true of it when it is said. An operation may say several
-- things while it is not done yet, so it is taken apart here where it raises events.
namespace VideoTerminal

def Event.TrueOf (t : Terminal) : Event → Prop
  | .cellChanged row column cell =>
    row < t.window.rows ∧ column < t.page.columns ∧ t.visibleCell column row = cell
  | .rowsChanged top bottom => top ≤ bottom ∧ bottom < t.window.rows
  | _ => True

namespace Terminal

inductive Step where
  | change (edit : Terminal → Terminal)
  | tell (events : Terminal → List Event)

structure Moment where
  terminal : Terminal
  event : Event

-- A change raises no event, whatever the edit does. Events are told in steps of their own, of
-- the terminal as it is between two changes.
def take (t : Terminal) : Step → Terminal
  | .change edit => { edit t with listening := t.listening, outbox := t.outbox }
  | .tell events => t.raiseAll (events t)

def follow (t : Terminal) (steps : List Step) : Terminal := steps.foldl take t

def momentsAt (t : Terminal) : Step → List Moment
  | .change _ => []
  | .tell events => (events t).map (Moment.mk t)

def moments (t : Terminal) : List Step → List Moment
  | [] => []
  | step :: rest => t.momentsAt step ++ (t.take step).moments rest

def eachSteps {α : Type} (steps : Terminal → α → List Step) (step : Terminal → α → Terminal)
    (t : Terminal) : List α → List Step
  | [] => []
  | item :: rest => steps t item ++ eachSteps steps step (step t item) rest

def repeatSteps (steps : Terminal → List Step) (step : Terminal → Terminal) (t : Terminal) :
    Nat → List Step
  | 0 => []
  | count + 1 => repeatSteps steps step t count ++ steps (Nat.repeat step count t)

def cellEvents (t : Terminal) (row first last : Nat) : List Event :=
  if row < t.window.rows then
    (List.range' first (min last t.page.columns - first)).map (t.cellEvent row)
  else []

def tellCells (row first last : Nat) : Step := .tell (·.cellEvents row first last)

def tellRows (top bottom : Nat) : Step := .tell fun _ => [.rowsChanged top bottom]

def tellWindow : Step := .tell fun t => [.rowsChanged 0 (t.window.rows - 1)]

def mark : Step := .change marked

def scrollRegionUpSteps (top bottom : Nat) : List Step :=
  [.change fun t => t.mapBuffer fun b =>
      (b.insert (b.topRow + bottom + 1) {}).remove (b.topRow + top),
    tellRows top bottom, mark]

def scrollRegionDownSteps (top bottom : Nat) : List Step :=
  [.change fun t => t.mapBuffer fun b =>
      (b.remove (b.topRow + bottom)).insert (b.topRow + top) {},
    tellRows top bottom, mark]

def scrollWindowSteps : List Step :=
  [.change fun t => t.mapBuffer fun b => { b with topRow := b.topRow + 1 }, tellWindow, mark]

def stepDown : Step :=
  .change fun t => { t with cursor := { t.cursor with row := t.cursor.row + 1 } }.marked

def advanceRowSteps (t : Terminal) : List Step :=
  if t.cursor.region.isSet then
    if t.bottomMargin ≤ t.cursor.row then
      scrollRegionUpSteps t.topMargin t.bottomMargin ++
        [.change fun u => { u with cursor := { t.cursor with row := t.bottomMargin } }.marked]
    else [stepDown]
  else if t.cursor.row + 1 < t.window.rows then [stepDown]
  else
    .change (fun u => { u with cursor := { u.cursor with row := u.window.rows - 1 } }) ::
      scrollWindowSteps

def startLine : Step := .change (·.withColumn 0)

def newLineSteps (t : Terminal) : List Step :=
  if t.automaticNewLine then startLine :: (t.withColumn 0).advanceRowSteps else t.advanceRowSteps

def reverseIndexSteps (t : Terminal) : List Step :=
  if t.cursor.row ≤ t.topMargin then
    scrollRegionDownSteps t.topMargin t.bottomMargin ++
      [.change fun u => { u with cursor := { t.cursor with row := t.topMargin } }.marked]
  else [.change fun u => { u with cursor := { u.cursor with row := u.cursor.row - 1 } }.marked]

def wrappedSteps (t : Terminal) : List Step :=
  if t.cursor.column < t.page.columns then []
  else if t.cursor.wordWrap then startLine :: (t.withColumn 0).newLineSteps
  else [.change (·.withColumn t.lastColumn)]

def putCellSteps (t : Terminal) (cell : Cell) : List Step :=
  let row := t.cursor.row
  let column := t.cursor.column
  let write (edit : Line → Line) : Step :=
    .change fun u => (u.editLine row edit).withColumn (column + 1)
  if t.cursor.insertMode then
    [write fun l => (l.insert column cell).trim t.page.columns,
      .tell fun u => u.cellEvents row column u.page.columns, mark]
  else
    [write fun l => (l.set column cell).trim t.page.columns,
      .tell fun _ => [.cellChanged row column cell], mark]

def eraseCellsSteps (row first last : Nat) : List Step :=
  [.change fun t => t.editLine row fun l =>
      (l.fill first (min last t.page.columns) (.blank t.cursor.rendition)).trim t.page.columns,
    tellCells row first last, mark]

def eraseRowsSteps (t : Terminal) (first count : Nat) : List Step :=
  eachSteps (fun u row => eraseCellsSteps row 0 u.page.columns) eraseRow t
    (List.range' first count)

def eraseAboveSteps (t : Terminal) : List Step :=
  let above := t.eraseRows 0 t.cursor.row
  t.eraseRowsSteps 0 t.cursor.row ++
    eraseCellsSteps above.cursor.row 0 (min above.cursor.column above.lastColumn + 1)

def eraseBelowSteps (t : Terminal) : List Step :=
  eraseCellsSteps t.cursor.row t.cursor.column t.page.columns ++
    t.eraseToEndOfLine.eraseRowsSteps (t.cursor.row + 1) (t.window.rows - (t.cursor.row + 1))

def deleteCharactersSteps (t : Terminal) (count : Nat) : List Step :=
  let column := min t.cursor.column t.lastColumn
  [.change fun u => u.editLine t.cursor.row fun l =>
      (l.removeMany column (min count (t.page.columns - column))).trim t.page.columns,
    tellCells t.cursor.row column t.page.columns, mark]

def insertBlanksSteps (t : Terminal) (count : Nat) : List Step :=
  let column := min t.cursor.column t.lastColumn
  [.change fun u => u.editLine t.cursor.row fun l =>
      (l.insertMany column (min count (t.page.columns - column))
        (.blank t.cursor.rendition)).trim t.page.columns,
    tellCells t.cursor.row column t.page.columns, mark]

def betweenMarginsSteps (t : Terminal) (edit : Buffer → Buffer) (count : Nat) : List Step :=
  let row := t.cursor.row
  if row < t.topMargin ∨ t.bottomMargin < row then []
  else
    [.change fun u =>
        (u.mapBuffer (Nat.repeat edit (min count (t.bottomMargin - row + 1)))).withColumn 0,
      tellRows row t.bottomMargin, mark]

def alignRowSteps (t : Terminal) (row : Nat) : List Step :=
  [.change fun u => u.editLine row fun _ => Line.filled ⟨'E', {}⟩ t.page.columns,
    tellCells row 0 t.page.columns]

def screenAlignmentTestSteps (t : Terminal) : List Step :=
  let cleared := { t with cursor := { t.cursor with region := {} } }
  .change (fun u => { u with cursor := { u.cursor with region := {} } }) ::
    eachSteps alignRowSteps alignRow cleared (List.range t.window.rows) ++
      [.change fun u => { u with cursor := { u.cursor with row := 0, column := 0 } }.marked]

def useBufferSteps (kind : BufferKind) : List Step :=
  [.change fun t => { t with active := kind }, tellWindow, mark]

def set132ColumnsSteps (t : Terminal) (on : Bool) : List Step :=
  let paged := { t with page := { t.page with columns := if on then 132 else t.window.columns } }
  .change (fun _ => paged) :: paged.eraseRowsSteps 0 t.window.rows ++ [.change home]

def setModeSteps (mode : SavableMode) (on : Bool) : List Step :=
  match mode with
  | .normalBuffer => useBufferSteps (if on then .normal else .alternate)
  | mode => [.change (·.setMode mode on)]

def restoreModeSteps (t : Terminal) (mode : SavableMode) : List Step :=
  match t.savedModes.get mode with
  | none => []
  | some value => setModeSteps mode value

def untold (edit : Terminal → Terminal) : Step :=
  .change fun t => { edit t with changed := t.changed }

def stepsOf (t : Terminal) : Operation → List Step
  | .newLine | .verticalTab | .formFeed => t.newLineSteps
  | .index => t.advanceRowSteps
  | .nextLine => startLine :: (t.withColumn 0).advanceRowSteps
  | .reverseIndex => t.reverseIndexSteps
  | .putChar c =>
    t.wrappedSteps ++ t.wrapped.putCellSteps ⟨t.charsets.glyph c, t.cursor.rendition⟩
  | .bell => [.tell fun _ => [.bell]]
  | .setTitle title => [.change ({ · with title }), .tell fun _ => [.titleChanged title]]
  | .screenAlignmentTest | .setLineSize .screenAlignmentTest => t.screenAlignmentTestSteps
  | .useAlternateBuffer => useBufferSteps .alternate
  | .useNormalBuffer => useBufferSteps .normal
  | .scrollUp count =>
    repeatSteps (fun _ => scrollRegionUpSteps t.topMargin t.bottomMargin)
      (·.scrollRegionUp t.topMargin t.bottomMargin) t
      (min count (t.bottomMargin - t.topMargin + 1))
  | .scrollDown count =>
    repeatSteps (fun _ => scrollRegionDownSteps t.topMargin t.bottomMargin)
      (·.scrollRegionDown t.topMargin t.bottomMargin) t
      (min count (t.bottomMargin - t.topMargin + 1))
  | .eraseToEndOfLine => eraseCellsSteps t.cursor.row t.cursor.column t.page.columns
  | .eraseToStartOfLine =>
    eraseCellsSteps t.cursor.row 0 (min t.cursor.column t.lastColumn + 1)
  | .eraseLine => eraseCellsSteps t.cursor.row 0 t.page.columns
  | .eraseBelow => t.eraseBelowSteps
  | .eraseAbove => t.eraseAboveSteps
  | .eraseAll => t.eraseRowsSteps 0 t.window.rows
  | .eraseCharacters count =>
    eraseCellsSteps t.cursor.row t.cursor.column (t.cursor.column + count)
  | .deleteCharacters count => t.deleteCharactersSteps count
  | .insertBlanks count => t.insertBlanksSteps count
  | .deleteLines count =>
    t.betweenMarginsSteps
      (fun b => (b.remove (b.topRow + t.cursor.row)).insert (b.topRow + t.bottomMargin) {}) count
  | .insertLines count =>
    t.betweenMarginsSteps
      (fun b => (b.remove (b.topRow + t.bottomMargin)).insert (b.topRow + t.cursor.row) {}) count
  | .set132Columns on => t.set132ColumnsSteps on
  | .restoreMode mode => t.restoreModeSteps mode
  | .fullReset => [untold fullReset, tellWindow, mark]
  | .reportPrimaryAttributes => [.tell fun _ => [.sendData t.identity.primary]]
  | .reportSecondaryAttributes => [.tell fun _ => [.sendData t.identity.secondary]]
  | .reportStatus => [.tell fun _ => [.sendData statusReport]]
  | .reportCursor => [.tell fun _ => [.sendData t.cursorReport]]
  | operation => [.change (·.perform operation)]

def stepsOfAction (t : Terminal) : Action → List Step
  | .feed bytes =>
    let lowered := { t with unread := [], changed := false }
    .change (fun u => { u with unread := [], changed := false }) ::
      eachSteps stepsOf perform lowered (t.askedBy (.feed bytes)) ++
        [.change fun u =>
          { u with unread := (t.feed bytes).2.unread, changed := t.changed || u.changed }]
  | .resize size => [untold (·.resize size), tellWindow, mark]
  | .perform operation => t.stepsOf operation
  | .dispatch sequence => eachSteps stepsOf perform t sequence.operations

def stepsOfRun (t : Terminal) (actions : List Action) : List Step :=
  eachSteps stepsOfAction act t actions

-- The steps come to the second terminal and say nothing on the way that is not true.
structure Leads (t : Terminal) (steps : List Step) (u : Terminal) : Prop where
  follows : t.follow steps = u
  honest : ∀ moment ∈ t.moments steps, moment.event.TrueOf moment.terminal

variable {t u v : Terminal}

theorem take_listening (t : Terminal) (step : Step) : (t.take step).listening = t.listening := by
  cases step with
  | change edit => rfl
  | tell events => exact (raiseAll_draws ..).listening

theorem raiseAll_outbox (listening : t.listening = true) (events : List Event) :
    (t.raiseAll events).outbox.toList = t.outbox.toList ++ events := by
  rw [raiseAll, if_pos listening]
  exact Array.toList_appendList

theorem follow_outbox (listening : t.listening = true) (steps : List Step) :
    (t.follow steps).outbox.toList = t.outbox.toList ++ (t.moments steps).map Moment.event := by
  induction steps generalizing t with
  | nil => exact (List.append_nil _).symm
  | cons step rest ih =>
    have later := ih ((take_listening t step).trans listening)
    have here : (t.take step).outbox.toList =
        t.outbox.toList ++ (t.momentsAt step).map Moment.event := by
      cases step with
      | change edit => exact (List.append_nil _).symm
      | tell events =>
        have told : (t.momentsAt (.tell events)).map Moment.event = events t := by
          rw [momentsAt, List.map_map]
          exact List.map_id _
        rw [told]
        exact raiseAll_outbox listening (events t)
    rw [moments, List.map_append, ← List.append_assoc, ← here]
    exact later

theorem follow_append (t : Terminal) (first second : List Step) :
    t.follow (first ++ second) = (t.follow first).follow second :=
  List.foldl_append

theorem moments_append (t : Terminal) (first second : List Step) :
    t.moments (first ++ second) = t.moments first ++ (t.follow first).moments second := by
  induction first generalizing t with
  | nil => rfl
  | cons step rest ih =>
    rw [List.cons_append, moments, ih, moments, List.append_assoc]
    rfl

theorem Leads.nil (t : Terminal) : Leads t [] t :=
  ⟨rfl, fun _ found => absurd found List.not_mem_nil⟩

theorem Leads.append {first second : List Step} (one : Leads t first u) (two : Leads u second v) :
    Leads t (first ++ second) v where
  follows := by rw [follow_append, one.follows, two.follows]
  honest moment found := by
    rw [moments_append, one.follows] at found
    rcases List.mem_append.mp found with before | after
    · exact one.honest moment before
    · exact two.honest moment after

theorem Leads.change (edit : Terminal → Terminal) (listening : (edit t).listening = t.listening)
    (outbox : (edit t).outbox = t.outbox) : Leads t [.change edit] (edit t) where
  follows := by
    show { edit t with listening := t.listening, outbox := t.outbox } = edit t
    rw [← listening, ← outbox]
  honest _ found := absurd found List.not_mem_nil

theorem Leads.tell {events : Terminal → List Event}
    (honest : ∀ event ∈ events t, event.TrueOf t) :
    Leads t [.tell events] (t.raiseAll (events t)) where
  follows := rfl
  honest moment found := by
    have told : t.moments [.tell events] = (events t).map (Moment.mk t) := List.append_nil _
    rw [told] at found
    obtain ⟨event, raised, rfl⟩ := List.mem_map.mp found
    exact honest event raised

theorem Leads.marked {steps : List Step} (leads : Leads t steps u) :
    Leads t (steps ++ [mark]) u.marked :=
  leads.append (.change Terminal.marked rfl rfl)

theorem each_leads {α : Type} {P : Terminal → Prop} {steps : Terminal → α → List Step}
    {step : Terminal → α → Terminal} (keeps : ∀ u item, P u → P (step u item))
    (leads : ∀ u item, P u → Leads u (steps u item) (step u item)) (holds : P t)
    (items : List α) : Leads t (eachSteps steps step t items) (items.foldl step t) := by
  induction items generalizing t with
  | nil => exact .nil t
  | cons item rest ih => exact (leads t item holds).append (ih (keeps t item holds))

theorem repeat_leads {P : Terminal → Prop} {steps : Terminal → List Step}
    {step : Terminal → Terminal} (keeps : ∀ u, P u → P (step u))
    (leads : ∀ u, P u → Leads u (steps u) (step u)) (holds : P t) (count : Nat) :
    P (Nat.repeat step count t) ∧
      Leads t (repeatSteps steps step t count) (Nat.repeat step count t) := by
  induction count with
  | zero => exact ⟨holds, .nil t⟩
  | succ count ih =>
    obtain ⟨still, led⟩ := ih
    exact ⟨keeps _ still, led.append (leads _ still)⟩

theorem cellEvents_true {row first last : Nat} :
    ∀ event ∈ t.cellEvents row first last, event.TrueOf t := by
  intro event found
  unfold cellEvents at found
  split at found
  · rename_i shown
    obtain ⟨column, inSpan, rfl⟩ := List.mem_map.mp found
    have inside := List.mem_range'_1.mp inSpan
    exact ⟨shown, by omega, rfl⟩
  · exact absurd found List.not_mem_nil

theorem reportCells_eq (t : Terminal) (row first last : Nat) :
    t.reportCells row first last = t.raiseAll (t.cellEvents row first last) := by
  unfold reportCells cellEvents
  split
  · rfl
  · unfold raiseAll
    split
    · rw [Array.appendList_nil]
    · rfl

theorem rows_true {top bottom : Nat} (order : top ≤ bottom) (inside : bottom < t.window.rows) :
    ∀ event ∈ [Event.rowsChanged top bottom], event.TrueOf t := by
  intro event found
  rw [List.mem_singleton.mp found]
  exact ⟨order, inside⟩

section Reported

variable (edit : Terminal → Terminal)

theorem reportCells_leads (unsaid : Unsaid t (edit t)) (row first last : Nat) :
    Leads t [.change edit, tellCells row first last] ((edit t).reportCells row first last) := by
  rw [reportCells_eq]
  exact (Leads.change edit unsaid.listening unsaid.outbox).append (.tell cellEvents_true)

theorem reportRows_leads (unsaid : Unsaid t (edit t)) {top bottom : Nat} (order : top ≤ bottom)
    (inside : bottom < t.window.rows) :
    Leads t [.change edit, tellRows top bottom] ((edit t).reportRows top bottom) :=
  (Leads.change edit unsaid.listening unsaid.outbox).append
    (.tell (rows_true order (unsaid.window ▸ inside)))

theorem reportWindow_leads (unsaid : Unsaid t (edit t)) (tall : 0 < t.window.rows) :
    Leads t [.change edit, tellWindow] (edit t).reportWindow := by
  have inside : 0 < (edit t).window.rows := unsaid.window ▸ tall
  exact (Leads.change edit unsaid.listening unsaid.outbox).append
    (.tell (rows_true (Nat.zero_le _) (Nat.sub_lt inside Nat.one_pos)))

end Reported

theorem scrollRegionUp_leads {top bottom : Nat} (order : top ≤ bottom)
    (inside : bottom < t.window.rows) :
    Leads t (scrollRegionUpSteps top bottom) (t.scrollRegionUp top bottom) :=
  (reportRows_leads _ (mapBuffer_unsaid ..) order inside).marked

theorem scrollRegionDown_leads {top bottom : Nat} (order : top ≤ bottom)
    (inside : bottom < t.window.rows) :
    Leads t (scrollRegionDownSteps top bottom) (t.scrollRegionDown top bottom) :=
  (reportRows_leads _ (mapBuffer_unsaid ..) order inside).marked

theorem scrollWindow_leads (tall : 0 < t.window.rows) :
    Leads t scrollWindowSteps t.scrollWindow.marked :=
  (reportWindow_leads _ (mapBuffer_unsaid ..) tall).marked

theorem advanceRow_leads (sized : Sized t) : Leads t t.advanceRowSteps t.advanceRow := by
  unfold advanceRowSteps advanceRow
  split
  · split
    · exact (scrollRegionUp_leads t.margins_ordered sized.bottomMargin_lt).append
        (.change _ rfl rfl)
    · exact .change _ rfl rfl
  · split
    · exact .change _ rfl rfl
    · have lowered := Leads.change (t := t)
        (fun u => { u with cursor := { u.cursor with row := u.window.rows - 1 } }) rfl rfl
      exact lowered.append (scrollWindow_leads sized.tall)

theorem startLine_leads (t : Terminal) : Leads t [startLine] (t.withColumn 0) :=
  .change _ rfl rfl

theorem newLine_leads (sized : Sized t) : Leads t t.newLineSteps t.newLine := by
  unfold newLineSteps newLine
  split
  · exact (startLine_leads t).append (advanceRow_leads (sized.of_extents rfl rfl))
  · exact advanceRow_leads sized

theorem reverseIndex_leads (sized : Sized t) : Leads t t.reverseIndexSteps t.reverseIndex := by
  unfold reverseIndexSteps reverseIndex
  split
  · exact (scrollRegionDown_leads t.margins_ordered sized.bottomMargin_lt).append
      (.change _ rfl rfl)
  · exact .change _ rfl rfl

theorem wrapped_leads (sized : Sized t) : Leads t t.wrappedSteps t.wrapped := by
  unfold wrappedSteps wrapped
  split
  · exact .nil t
  · split
    · exact (startLine_leads t).append (newLine_leads (sized.of_extents rfl rfl))
    · exact .change _ rfl rfl

theorem putCell_leads (grid : InGrid t) (room : t.cursor.column < t.page.columns) (cell : Cell) :
    Leads t (t.putCellSteps cell) (t.putCell cell) := by
  let write (edit : Line → Line) (u : Terminal) : Terminal :=
    (u.editLine t.cursor.row edit).withColumn (t.cursor.column + 1)
  have written (edit : Line → Line) : Leads t [.change (write edit)] (write edit t) :=
    have edited := editLine_unsaid t t.cursor.row edit
    .change _ edited.listening edited.outbox
  unfold putCellSteps putCell
  dsimp only
  split
  · rw [reportCells_eq]
    exact ((written _).append (.tell cellEvents_true)).marked
  · refine ((written _).append (.tell fun event found => ?_)).marked
    rw [List.mem_singleton.mp found]
    have drawn := editLine_draws t t.cursor.row fun l =>
      (l.set t.cursor.column cell).trim t.page.columns
    have inWindow := Nat.lt_of_lt_of_eq grid.row (congrArg Extent.rows drawn.window.symm)
    have inPage := Nat.lt_of_lt_of_eq room (congrArg Extent.columns drawn.page.symm)
    have put := (setCell_view t cell t.cursor.row room).trans (if_pos ⟨rfl, rfl⟩)
    exact ⟨inWindow, inPage, put⟩

theorem eraseCells_leads (t : Terminal) (row first last : Nat) :
    Leads t (eraseCellsSteps row first last) (t.eraseCells row first last) :=
  (reportCells_leads _ (editLine_unsaid ..) ..).marked

theorem eraseRows_leads (t : Terminal) (first count : Nat) :
    Leads t (t.eraseRowsSteps first count) (t.eraseRows first count) :=
  each_leads (P := fun _ => True) (fun _ _ _ => trivial) (fun _ _ _ => eraseCells_leads ..)
    trivial _

theorem eraseAbove_leads (t : Terminal) : Leads t t.eraseAboveSteps t.eraseAbove :=
  (eraseRows_leads ..).append (eraseCells_leads ..)

theorem eraseBelow_leads (t : Terminal) : Leads t t.eraseBelowSteps t.eraseBelow :=
  (eraseCells_leads ..).append (eraseRows_leads ..)

theorem deleteCharacters_leads (t : Terminal) (count : Nat) :
    Leads t (t.deleteCharactersSteps count) (t.deleteCharacters count) :=
  (reportCells_leads _ (editLine_unsaid ..) ..).marked

theorem insertBlanks_leads (t : Terminal) (count : Nat) :
    Leads t (t.insertBlanksSteps count) (t.insertBlanks count) :=
  (reportCells_leads _ (editLine_unsaid ..) ..).marked

theorem betweenMargins_leads (sized : Sized t) (edit : Buffer → Buffer) (count : Nat) :
    Leads t (t.betweenMarginsSteps edit count) (t.betweenMargins edit count) := by
  unfold betweenMarginsSteps betweenMargins
  dsimp only
  split
  · exact .nil t
  · have order : t.cursor.row ≤ t.bottomMargin := by omega
    have edited := mapBuffer_unsaid t
      (Nat.repeat edit (min count (t.bottomMargin - t.cursor.row + 1)))
    have reported := reportRows_leads (t := t)
      (fun u => (u.mapBuffer
        (Nat.repeat edit (min count (t.bottomMargin - t.cursor.row + 1)))).withColumn 0)
      ⟨edited.window, edited.listening, edited.outbox⟩ order sized.bottomMargin_lt
    exact reported.marked

theorem alignRow_leads (t : Terminal) (row : Nat) :
    Leads t (t.alignRowSteps row) (t.alignRow row) :=
  reportCells_leads _ (editLine_unsaid ..) ..

theorem screenAlignmentTest_leads (t : Terminal) :
    Leads t t.screenAlignmentTestSteps t.screenAlignmentTest := by
  have cleared := Leads.change (t := t)
    (fun u => { u with cursor := { u.cursor with region := {} } }) rfl rfl
  have filled := each_leads (P := fun _ => True) (fun _ _ _ => trivial)
    (fun u row _ => alignRow_leads u row) (t := { t with cursor := { t.cursor with region := {} } })
    trivial (List.range t.window.rows)
  exact (cleared.append filled).append (.change _ rfl rfl)

theorem useBuffer_leads (sized : Sized t) (kind : BufferKind) :
    Leads t (useBufferSteps kind) (t.useBuffer kind) :=
  (reportWindow_leads (fun u => { u with active := kind }) ⟨rfl, rfl, rfl⟩ sized.tall).marked

theorem set132Columns_leads (t : Terminal) (on : Bool) :
    Leads t (t.set132ColumnsSteps on) (t.set132Columns on) := by
  have paged := Leads.change (t := t) (fun _ =>
    { t with page := { t.page with columns := if on then 132 else t.window.columns } }) rfl rfl
  exact (paged.append (eraseRows_leads ..)).append (.change home rfl rfl)

theorem setMode_leads (sized : Sized t) (mode : SavableMode) (on : Bool) :
    Leads t (setModeSteps mode on) (t.setMode mode on) := by
  cases mode with
  | normalBuffer => exact useBuffer_leads sized _
  | _ => exact .change _ rfl rfl

theorem restoreMode_leads (sized : Sized t) (mode : SavableMode) :
    Leads t (t.restoreModeSteps mode) (t.restoreMode mode) := by
  unfold restoreModeSteps restoreMode
  cases t.savedModes.get mode with
  | none => exact .nil t
  | some value => exact setMode_leads sized ..

theorem untold_leads (edit : Terminal → Terminal) {bare : Terminal}
    (told : edit t = bare.reportWindow.marked) (listening : bare.listening = t.listening)
    (outbox : bare.outbox = t.outbox) (changed : bare.changed = t.changed)
    (tall : 0 < bare.window.rows) : Leads t [untold edit, tellWindow, mark] (edit t) := by
  have raised := raiseAll_eq bare [.rowsChanged 0 (bare.window.rows - 1)]
  have same : t.take (untold edit) = bare := by
    rw [untold, take, told, reportWindow, reportRows, raise, raised, ← listening, ← outbox,
      ← changed]
    rfl
  have first : Leads t [untold edit] bare :=
    ⟨same, fun _ found => absurd found List.not_mem_nil⟩
  have honest := rows_true (t := bare) (Nat.zero_le _) (Nat.sub_lt tall Nat.one_pos)
  rw [told]
  exact (first.append (.tell honest)).marked

theorem fullReset_leads (sized : Sized t) :
    Leads t [untold fullReset, tellWindow, mark] t.fullReset :=
  untold_leads fullReset rfl rfl rfl rfl sized.tall

theorem resize_leads (t : Terminal) (size : Extent) :
    Leads t [untold (·.resize size), tellWindow, mark] (t.resize size) := by
  let scroll (b : Buffer) : Buffer :=
    { b with topRow := b.topRow + (t.cursor.row - min t.cursor.row (size.atLeastOne.rows - 1)) }
  have moved : Unsaid t (t.mapBuffer scroll) := mapBuffer_unsaid ..
  have flag : (t.mapBuffer scroll).changed = t.changed := by
    unfold mapBuffer
    cases t.active <;> rfl
  exact untold_leads (·.resize size) rfl moved.listening moved.outbox flag (Nat.le_max_left ..)

theorem restoreCursor_leads (t : Terminal) :
    Leads t [.change restoreCursor] t.restoreCursor := by
  refine .change _ ?_ ?_ <;> unfold restoreCursor <;> split <;> rfl

theorem setScrollRegion_leads (t : Terminal) (top bottom : Nat) :
    Leads t [.change (·.setScrollRegion top bottom)] (t.setScrollRegion top bottom) := by
  rcases setScrollRegion_cases t top bottom with same | ⟨cursor, same⟩
  · exact .change _ (by rw [same]) (by rw [same])
  · exact .change _ (by rw [same]; rfl) (by rw [same]; rfl)

theorem tab_leads (t : Terminal) : Leads t [.change tab] t.tab := by
  refine .change _ ?_ ?_ <;> unfold tab <;> split <;> rfl

theorem perform_leads (grid : InGrid t) (operation : Operation) :
    Leads t (t.stepsOf operation) (t.perform operation) := by
  have sized := grid.toSized
  cases operation with
  | newLine | verticalTab | formFeed => exact newLine_leads sized
  | index => exact advanceRow_leads sized
  | nextLine => exact (startLine_leads t).append (advanceRow_leads (sized.of_extents rfl rfl))
  | reverseIndex => exact reverseIndex_leads sized
  | restoreCursor => exact restoreCursor_leads t
  | putChar c =>
    exact (wrapped_leads sized).append
      (putCell_leads (wrapped_inGrid grid) (wrapped_column grid) _)
  | bell | reportPrimaryAttributes | reportSecondaryAttributes | reportStatus | reportCursor =>
    refine .tell fun event found => ?_
    rw [List.mem_singleton.mp found]
    trivial
  | setTitle title =>
    refine (Leads.change ({ · with title }) rfl rfl).append (.tell fun event found => ?_)
    rw [List.mem_singleton.mp found]
    trivial
  | setLineSize size =>
    cases size with
    | screenAlignmentTest => exact screenAlignmentTest_leads t
    | _ => exact .change _ (editLine_unsaid ..).listening (editLine_unsaid ..).outbox
  | screenAlignmentTest => exact screenAlignmentTest_leads t
  | useAlternateBuffer | useNormalBuffer => exact useBuffer_leads sized _
  | setScrollRegion top bottom => exact setScrollRegion_leads t top bottom
  | scrollUp count =>
    have scrolled := repeat_leads (P := fun u => t.bottomMargin < u.window.rows)
      (fun u inside => (scrollRegionUp_draws u _ _).window ▸ inside)
      (fun u inside => scrollRegionUp_leads t.margins_ordered inside) sized.bottomMargin_lt
    exact (scrolled _).2
  | scrollDown count =>
    have scrolled := repeat_leads (P := fun u => t.bottomMargin < u.window.rows)
      (fun u inside => (scrollRegionDown_draws u _ _).window ▸ inside)
      (fun u inside => scrollRegionDown_leads t.margins_ordered inside) sized.bottomMargin_lt
    exact (scrolled _).2
  | eraseToEndOfLine | eraseToStartOfLine | eraseLine | eraseCharacters =>
    exact eraseCells_leads ..
  | eraseBelow => exact eraseBelow_leads t
  | eraseAbove => exact eraseAbove_leads t
  | eraseAll => exact eraseRows_leads ..
  | deleteCharacters count => exact deleteCharacters_leads t count
  | insertBlanks count => exact insertBlanks_leads t count
  | deleteLines | insertLines => exact betweenMargins_leads sized ..
  | tab => exact tab_leads t
  | set132Columns on => exact set132Columns_leads t on
  | restoreMode mode => exact restoreMode_leads sized mode
  | fullReset => exact fullReset_leads sized
  | _ => exact .change _ rfl rfl

theorem performAll_leads (grid : InGrid t) (operations : List Operation) :
    Leads t (eachSteps stepsOf perform t operations) (t.performAll operations) :=
  each_leads (fun _ operation grid => perform_inGrid grid operation)
    (fun _ operation grid => perform_leads grid operation) grid operations

theorem feed_leads (grid : InGrid t) (bytes : List UInt8) :
    Leads t (t.stepsOfAction (.feed bytes)) (t.feed bytes).2 := by
  let lowered := { t with unread := [], changed := false }
  have taken : Leads t [.change fun u => { u with unread := [], changed := false }] lowered :=
    .change _ rfl rfl
  have inside : InGrid lowered := grid.move rfl rfl grid.row grid.column
  have performed := performAll_leads inside (t.askedBy (.feed bytes))
  have kept := Leads.change (t := lowered.performAll (t.askedBy (.feed bytes))) (fun u =>
    { u with unread := (t.feed bytes).2.unread, changed := t.changed || u.changed }) rfl rfl
  have fed : (t.feed bytes).2 =
      { lowered.performAll (t.askedBy (.feed bytes)) with
        unread := (t.feed bytes).2.unread
        changed := t.changed || (lowered.performAll (t.askedBy (.feed bytes))).changed } :=
    congrArg (fun u : Terminal => { u with changed := t.changed || u.changed })
      (apply_asked lowered (t.unread ++ bytes))
  rw [fed]
  exact (taken.append performed).append kept

theorem act_leads (grid : InGrid t) (action : Action) :
    Leads t (t.stepsOfAction action) (t.act action) := by
  cases action with
  | feed bytes => exact feed_leads grid bytes
  | resize size => exact resize_leads t size
  | perform operation => exact perform_leads grid operation
  | dispatch sequence => exact performAll_leads grid sequence.operations

theorem run_leads (grid : InGrid t) (actions : List Action) :
    Leads t (t.stepsOfRun actions) (t.run actions) :=
  each_leads (fun _ action grid => act_inGrid grid action)
    (fun _ action grid => act_leads grid action) grid actions

-- For any size and any run of it with a host that listens: the steps are those of the run, it
-- keeps their events and no others, and each is true when it is raised.
theorem events_true_when_raised (size : Extent) (identity : Identity) (actions : List Action) :
    let t := new size identity true
    let steps := t.stepsOfRun actions
    t.follow steps = t.run actions ∧
      (t.run actions).outbox.toList = (t.moments steps).map Moment.event ∧
      ∀ moment ∈ t.moments steps, moment.event.TrueOf moment.terminal := by
  intro t steps
  have leads := run_leads (new_inGrid size identity true) actions
  have raised := follow_outbox (t := t) rfl steps
  rw [leads.follows] at raised
  exact ⟨leads.follows, raised, leads.honest⟩

end Terminal

end VideoTerminal

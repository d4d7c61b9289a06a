import VideoTerminal.Proofs.Drawing

-- A renderer holds a copy of the window and learns of changes from the events
-- alone: it writes the cells that they carry and reads reported rows again. It
-- reads them from the terminal as it is when the renderer gets round to them.
namespace VideoTerminal

-- What an event says about one place of the window.
inductive Word where
  | reread
  | cell (cell : Cell)

def Event.word? (row column : Nat) : Event → Option Word
  | .cellChanged r c cell => if r = row ∧ c = column then some (.cell cell) else none
  | .rowsChanged top bottom => if top ≤ row ∧ row ≤ bottom then some .reread else none
  | _ => none

def lastWord? (row column : Nat) : List Event → Option Word
  | [] => none
  | event :: rest => (lastWord? row column rest).or (event.word? row column)

def shown (word : Option Word) (held now : Cell) : Cell :=
  match word with
  | none => held
  | some .reread => now
  | some (.cell cell) => cell

abbrev View := Nat → Nat → Cell

def View.paint (now held : View) : Event → View
  | .cellChanged row column cell => fun r c => if row = r ∧ column = c then cell else held r c
  | .rowsChanged top bottom => fun r c => if top ≤ r ∧ r ≤ bottom then now r c else held r c
  | _ => held

def View.paintAll (now held : View) (events : List Event) : View := events.foldl now.paint held

theorem View.paint_eq (now held : View) (event : Event) (row column : Nat) :
    now.paint held event row column =
      shown (event.word? row column) (held row column) (now row column) := by
  cases event with
  | cellChanged r c cell =>
    simp only [paint, Event.word?]
    split <;> rfl
  | rowsChanged top bottom =>
    simp only [paint, Event.word?]
    split <;> rfl
  | _ => rfl

theorem View.paintAll_eq (now held : View) (events : List Event) (row column : Nat) :
    now.paintAll held events row column =
      shown (lastWord? row column events) (held row column) (now row column) := by
  induction events generalizing held with
  | nil => rfl
  | cons event rest ih =>
    have painted := ih (now.paint held event)
    rw [paint_eq] at painted
    rw [lastWord?]
    refine painted.trans ?_
    cases lastWord? row column rest with
    | none => rfl
    | some word => cases word <;> rfl

theorem lastWord?_append (row column : Nat) (first second : List Event) :
    lastWord? row column (first ++ second) =
      (lastWord? row column second).or (lastWord? row column first) := by
  induction first with
  | nil => exact (Option.or_none).symm
  | cons event rest ih => rw [List.cons_append, lastWord?, lastWord?, ih, Option.or_assoc]

theorem shown_or {first second : Option Word} {held half now : Cell}
    (one : shown first held half = half) (two : shown second half now = now) :
    shown (second.or first) held now = now := by
  cases second with
  | none =>
    have same : half = now := two
    rw [Option.none_or, ← same]
    exact one
  | some word => cases word <;> exact two

theorem lastWord?_reread {row column : Nat} {events : List Event}
    (last : lastWord? row column events = some .reread) :
    ∃ top bottom, .rowsChanged top bottom ∈ events ∧ top ≤ row ∧ row ≤ bottom := by
  induction events with
  | nil => cases last
  | cons event rest ih =>
    rw [lastWord?] at last
    rcases Option.or_eq_some_iff.mp last with later | ⟨-, here⟩
    · obtain ⟨top, bottom, found, inside⟩ := ih later
      exact ⟨top, bottom, List.mem_cons_of_mem _ found, inside⟩
    · cases event with
      | rowsChanged top bottom =>
        simp only [Event.word?] at here
        split at here
        · rename_i inside
          exact ⟨top, bottom, List.mem_cons_self, inside⟩
        · cases here
      | cellChanged r c cell =>
        simp only [Event.word?] at here
        split at here <;> cases here
      | _ => cases here

theorem lastWord?_cell {row column : Nat} {cell : Cell} {events : List Event}
    (last : lastWord? row column events = some (.cell cell)) :
    ∃ before after, events = before ++ .cellChanged row column cell :: after ∧
      lastWord? row column after = none := by
  induction events with
  | nil => cases last
  | cons event rest ih =>
    rw [lastWord?] at last
    rcases Option.or_eq_some_iff.mp last with later | ⟨silent, here⟩
    · obtain ⟨before, after, parts, silent⟩ := ih later
      exact ⟨event :: before, after, by rw [parts]; rfl, silent⟩
    · cases event with
      | cellChanged r c other =>
        simp only [Event.word?] at here
        split at here
        · rename_i same
          obtain ⟨rfl, rfl⟩ := same
          cases here
          exact ⟨[], rest, rfl, silent⟩
        · cases here
      | rowsChanged top bottom =>
        simp only [Event.word?] at here
        split at here <;> cases here
      | _ => cases here

theorem lastWord?_none {row column : Nat} {events : List Event} {cell : Cell}
    (silent : lastWord? row column events = none) :
    .cellChanged row column cell ∉ events := by
  induction events with
  | nil => exact List.not_mem_nil
  | cons event rest ih =>
    rw [lastWord?, Option.or_eq_none_iff] at silent
    intro found
    rcases List.mem_cons.mp found with rfl | later
    · simp [Event.word?] at silent
    · exact ih silent.1 later

namespace Terminal

def view (t : Terminal) : View := fun row column => t.visibleCell column row

def Mirrors (held : View) (t : Terminal) : Prop :=
  ∀ row column, row < t.window.rows → column < t.window.columns →
    held row column = t.view row column

-- The events on the way from one terminal to the other account for every place
-- of the window: what it showed before becomes what it shows now.
structure Tells (t u : Terminal) : Prop where
  window : u.window = t.window
  listening : u.listening = t.listening
  told : ∃ events : List Event, u.outbox = t.outbox ++ events ∧
    ∀ row column, row < t.window.rows → column < t.window.columns →
      shown (lastWord? row column events) (t.view row column) (u.view row column) =
        u.view row column

structure Unsaid (t u : Terminal) : Prop where
  window : u.window = t.window
  listening : u.listening = t.listening
  outbox : u.outbox = t.outbox

variable {t u v : Terminal}

theorem Unsaid.tells (unsaid : Unsaid t u) (same : Mirrors t.view u) : Tells t u := by
  refine ⟨unsaid.window, unsaid.listening, [], by simp [unsaid.outbox], ?_⟩
  intro row column tall wide
  exact same row column (unsaid.window ▸ tall) (unsaid.window ▸ wide)

theorem Tells.trans (one : Tells t u) (two : Tells u v) : Tells t v := by
  obtain ⟨first, grown, half⟩ := one.told
  obtain ⟨second, grownAgain, whole⟩ := two.told
  refine ⟨two.window.trans one.window, two.listening.trans one.listening, first ++ second, ?_, ?_⟩
  · rw [grownAgain, grown]
    exact Array.ext' (by simp)
  · intro row column tall wide
    rw [lastWord?_append]
    exact shown_or (half row column tall wide)
      (whole row column (one.window ▸ tall) (one.window ▸ wide))

theorem raiseAll_view (t : Terminal) (events : List Event) : (t.raiseAll events).view = t.view := by
  rw [raiseAll_eq]; rfl

theorem reportCells_view (t : Terminal) (row first last : Nat) :
    (t.reportCells row first last).view = t.view := by
  unfold Terminal.reportCells
  split
  · exact raiseAll_view ..
  · rfl

theorem Unsaid.raiseAll (unsaid : Unsaid t u) (listening : t.listening = true)
    {events : List Event}
    (covered : ∀ row column, row < t.window.rows → column < t.window.columns →
      shown (lastWord? row column events) (t.view row column) (u.view row column) =
        u.view row column) : Tells t (u.raiseAll events) := by
  have raised : (u.raiseAll events).outbox = t.outbox ++ events := by
    unfold Terminal.raiseAll
    rw [if_pos (unsaid.listening.trans listening), ← unsaid.outbox]
  have drawn := raiseAll_draws u events
  refine ⟨drawn.window.trans unsaid.window, drawn.listening.trans unsaid.listening, events,
    raised, ?_⟩
  rw [raiseAll_view]
  exact covered

theorem Unsaid.reportRows (unsaid : Unsaid t u) (listening : t.listening = true) {top bottom : Nat}
    (outside : ∀ row, row < top ∨ bottom < row → u.view row = t.view row) :
    Tells t (u.reportRows top bottom) := by
  refine unsaid.raiseAll listening fun row column tall wide => ?_
  by_cases inside : top ≤ row ∧ row ≤ bottom
  · simp [lastWord?, Event.word?, inside, shown]
  · have same := outside row (by omega)
    simp [lastWord?, Event.word?, inside, shown, same]

theorem Unsaid.reportWindow (unsaid : Unsaid t u) (listening : t.listening = true) :
    Tells t u.reportWindow := by
  refine unsaid.raiseAll listening fun row column tall wide => ?_
  have inside : row ≤ u.window.rows - 1 := by rw [unsaid.window]; omega
  simp [lastWord?, Event.word?, inside, shown]

theorem lastWord?_cells (t : Terminal) (edited row column : Nat) (columns : List Nat) :
    lastWord? row column (columns.map (t.cellEvent edited)) =
      if edited = row ∧ column ∈ columns then some (.cell (t.view row column)) else none := by
  induction columns with
  | nil => simp [lastWord?]
  | cons first rest ih =>
    rw [List.map_cons, lastWord?, ih]
    by_cases here : edited = row ∧ first = column
    · obtain ⟨rfl, rfl⟩ := here
      by_cases again : first ∈ rest <;> simp [again, cellEvent, Event.word?, view]
    · have silent : (t.cellEvent edited first).word? row column = none := by
        simp [cellEvent, Event.word?, here]
      by_cases later : edited = row ∧ column ∈ rest
      · simp [later]
      · have absent : ¬(edited = row ∧ column ∈ first :: rest) := by
          rintro ⟨same, found⟩
          rcases List.mem_cons.mp found with rfl | found
          · exact here ⟨same, rfl⟩
          · exact later ⟨same, found⟩
        rw [if_neg later, if_neg absent, silent]
        rfl

theorem Unsaid.reportCells (unsaid : Unsaid t u) (listening : t.listening = true)
    {edited first last : Nat}
    (outside : ∀ row column, column < t.window.columns →
      ¬(row = edited ∧ first ≤ column ∧ column < min last u.page.columns) →
        u.view row column = t.view row column) :
    Tells t (u.reportCells edited first last) := by
  unfold Terminal.reportCells
  split
  · refine unsaid.raiseAll listening fun row column tall wide => ?_
    rw [lastWord?_cells]
    by_cases inside : row = edited ∧ first ≤ column ∧ column < min last u.page.columns
    · have reported : edited = row ∧
          column ∈ List.range' first (min last u.page.columns - first) :=
        ⟨inside.1.symm, List.mem_range'_1.mpr ⟨inside.2.1, by omega⟩⟩
      rw [if_pos reported]; rfl
    · have unreported : ¬(edited = row ∧
          column ∈ List.range' first (min last u.page.columns - first)) := by
        rintro ⟨rfl, found⟩
        obtain ⟨low, high⟩ := List.mem_range'_1.mp found
        exact inside ⟨rfl, low, by omega⟩
      rw [if_neg unreported]
      exact (outside row column wide inside).symm
  · rename_i below
    refine unsaid.tells fun row column tall wide => ?_
    refine (outside row column (unsaid.window ▸ wide) ?_).symm
    rintro ⟨rfl, -⟩
    exact below tall

end Terminal

end VideoTerminal

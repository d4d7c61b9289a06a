import VideoTerminal.Rendition

namespace VideoTerminal

abbrev TabStops := List Nat

namespace TabStops

def initial : TabStops := [8, 16, 24, 32, 40, 48, 56, 64, 72, 80]

def insert (column : Nat) : TabStops → TabStops
  | [] => [column]
  | stop :: rest =>
    if column < stop then column :: stop :: rest
    else if column = stop then stop :: rest
    else stop :: insert column rest

def erase (column : Nat) (stops : TabStops) : TabStops := stops.filter (· ≠ column)

def next? (column : Nat) (stops : TabStops) : Option Nat := stops.find? (column < ·)

theorem mem_insert {column stop : Nat} {stops : TabStops} :
    stop ∈ insert column stops ↔ stop = column ∨ stop ∈ stops := by
  induction stops with
  | nil => simp [insert]
  | cons first rest ih =>
    rw [insert]
    split
    · simp
    · split
      · rename_i same; subst same; simp
      · simp only [List.mem_cons, ih]; exact or_left_comm

theorem mem_erase {column stop : Nat} {stops : TabStops} :
    stop ∈ erase column stops ↔ stop ∈ stops ∧ stop ≠ column := by
  simp [erase]

theorem ascending_insert {column : Nat} {stops : TabStops}
    (ascending : stops.Pairwise (· < ·)) : (insert column stops).Pairwise (· < ·) := by
  induction stops with
  | nil => exact List.pairwise_singleton ..
  | cons first rest ih =>
    obtain ⟨below, sorted⟩ := List.pairwise_cons.mp ascending
    rw [insert]
    split
    · rename_i before
      refine List.pairwise_cons.mpr ⟨fun stop found => ?_, ascending⟩
      rcases List.mem_cons.mp found with rfl | later
      · exact before
      · exact Nat.lt_trans before (below stop later)
    · split
      · exact ascending
      · rename_i notBefore different
        refine List.pairwise_cons.mpr ⟨fun stop found => ?_, ih sorted⟩
        rcases mem_insert.mp found with rfl | later
        · omega
        · exact below stop later

theorem ascending_erase {column : Nat} {stops : TabStops}
    (ascending : stops.Pairwise (· < ·)) : (erase column stops).Pairwise (· < ·) :=
  ascending.filter _

end TabStops

-- The rows that scroll. No bottom means that the region reaches down to the
-- last visible row, however tall the window is.
structure ScrollRegion where
  top : Nat := 0
  bottom : Option Nat := none
  deriving DecidableEq, Repr, Inhabited

namespace ScrollRegion

def isSet (r : ScrollRegion) : Bool := decide (0 < r.top) || r.bottom.isSome

def bottomIn (r : ScrollRegion) (rows : Nat) : Nat :=
  match r.bottom with
  | none => rows - 1
  | some bottom => min bottom (rows - 1)

def topIn (r : ScrollRegion) (rows : Nat) : Nat := min r.top (r.bottomIn rows)

theorem topIn_le_bottomIn (r : ScrollRegion) (rows : Nat) : r.topIn rows ≤ r.bottomIn rows :=
  Nat.min_le_right ..

theorem bottomIn_lt {r : ScrollRegion} {rows : Nat} (tall : 0 < rows) : r.bottomIn rows < rows := by
  unfold bottomIn
  cases r.bottom with
  | none => show rows - 1 < rows; omega
  | some bottom => show min bottom (rows - 1) < rows; omega

end ScrollRegion

-- All that saving the cursor saves. The column may stand one past the last:
-- the next character then wraps first.
structure Cursor where
  column : Nat := 0
  row : Nat := 0
  tabStops : TabStops := TabStops.initial
  region : ScrollRegion := {}
  applicationKeys : Bool := false
  wordWrap : Bool := true
  reverseVideo : Bool := false
  originMode : Bool := false
  insertMode : Bool := false
  rendition : Rendition := {}
  deriving DecidableEq, Repr, Inhabited

end VideoTerminal

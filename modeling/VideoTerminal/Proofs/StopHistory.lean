import VideoTerminal.Proofs.TabStops
import Mathlib.Data.Finset.Basic
import Mathlib.Order.Bounds.Basic

-- Tab stops as a set of columns. Six operations write it, and what it holds is told by
-- these alone, with the columns that the cursor was on: neither the size of the window
-- nor the width of the page has a say in it.
namespace VideoTerminal

structure StopSets where
  live : Finset Nat
  saved : Option (Finset Nat) := none
  deriving DecidableEq

namespace StopSets

def initial : StopSets := { live := {8, 16, 24, 32, 40, 48, 56, 64, 72, 80} }

def note (sets : StopSets) : Nat × Operation → StopSets
  | (column, .setTab) => { sets with live := insert column sets.live }
  | (column, .clearTab) => { sets with live := sets.live.erase column }
  | (_, .clearAllTabs) => { sets with live := ∅ }
  | (_, .saveCursor) => { sets with saved := some sets.live }
  | (_, .restoreCursor) => { sets with live := sets.saved.getD sets.live }
  | (_, .fullReset) => initial
  | _ => sets

def ofHistory (history : List (Nat × Operation)) : StopSets := history.foldl note initial

theorem note_of_leaves {operation : Operation} (leaves : operation.editsStops = false)
    (sets : StopSets) (column : Nat) : sets.note (column, operation) = sets := by
  cases operation with
  | setTab | clearTab | clearAllTabs | saveCursor | restoreCursor | fullReset => cases leaves
  | _ => rfl

end StopSets

namespace TabStops

theorem toFinset_insert (column : Nat) (stops : TabStops) :
    (insert column stops).toFinset = Insert.insert column stops.toFinset := by
  ext stop
  simp [mem_insert]

theorem toFinset_erase (column : Nat) (stops : TabStops) :
    (erase column stops).toFinset = stops.toFinset.erase column := by
  ext stop
  simp [mem_erase, and_comm]

-- The first one that is found is the least, since they ascend.
theorem next?_isLeast {stops : TabStops} (ascending : stops.Pairwise (· < ·)) {column stop : Nat}
    (found : next? column stops = some stop) :
    IsLeast {other | other ∈ stops ∧ column < other} stop := by
  induction stops with
  | nil => cases found
  | cons first rest ih =>
    obtain ⟨below, sorted⟩ := List.pairwise_cons.mp ascending
    rw [next?, List.find?_cons] at found
    by_cases right : column < first
    · simp only [right, decide_true, Option.some.injEq] at found
      subst found
      refine ⟨⟨List.mem_cons_self, right⟩, fun other ⟨listed, _⟩ => ?_⟩
      rcases List.mem_cons.mp listed with rfl | later
      · exact Nat.le_refl _
      · exact Nat.le_of_lt (below other later)
    · simp only [right, decide_false] at found
      obtain ⟨⟨listed, past⟩, least⟩ := ih sorted found
      refine ⟨⟨List.mem_cons_of_mem _ listed, past⟩, fun other ⟨among, behind⟩ => ?_⟩
      rcases List.mem_cons.mp among with rfl | later
      · exact absurd behind right
      · exact least ⟨later, behind⟩

theorem next?_none {stops : TabStops} {column : Nat} (none : next? column stops = none) :
    ∀ stop ∈ stops, stop ≤ column := by
  intro stop listed
  have behind := List.find?_eq_none.mp none stop listed
  simpa using behind

end TabStops

namespace Terminal

def stopSets (t : Terminal) : StopSets where
  live := t.cursor.tabStops.toFinset
  saved := t.savedCursor.map fun saved => saved.tabStops.toFinset

def noted (t : Terminal) : List Operation → List (Nat × Operation)
  | [] => []
  | operation :: rest => (t.cursor.column, operation) :: (t.perform operation).noted rest

def notedBy (t : Terminal) (action : Action) : List (Nat × Operation) :=
  match action with
  | .feed _ => { t with unread := [], changed := false }.noted (t.askedBy action)
  | _ => t.noted (t.askedBy action)

def history (t : Terminal) : List Action → List (Nat × Operation)
  | [] => []
  | action :: rest => t.notedBy action ++ (t.act action).history rest

variable {t u : Terminal}

theorem SameStops.stopSets (same : SameStops t u) : u.stopSets = t.stopSets := by
  unfold Terminal.stopSets
  rw [same.stops, same.saved]

theorem restoreCursor_stopSets (t : Terminal) :
    t.restoreCursor.stopSets = t.stopSets.note (t.cursor.column, .restoreCursor) := by
  unfold restoreCursor
  split
  · rename_i unsaved
    simp [stopSets, StopSets.note, unsaved]
  · rename_i saved found
    simp [stopSets, StopSets.note, found, marked]

theorem fullReset_stopSets (t : Terminal) : t.fullReset.stopSets = StopSets.initial := by
  unfold fullReset
  exact ((reportWindow_draws _).trans (marked_draws _)).sameStops.stopSets.trans rfl

theorem perform_stopSets (t : Terminal) (operation : Operation) :
    (t.perform operation).stopSets = t.stopSets.note (t.cursor.column, operation) := by
  cases edits : operation.editsStops with
  | false => rw [(perform_sameStops t edits).stopSets, StopSets.note_of_leaves edits]
  | true =>
    cases operation with
    | setTab => exact congrArg (StopSets.mk · _) (TabStops.toFinset_insert ..)
    | clearTab => exact congrArg (StopSets.mk · _) (TabStops.toFinset_erase ..)
    | clearAllTabs | saveCursor => rfl
    | restoreCursor => exact restoreCursor_stopSets t
    | fullReset => exact fullReset_stopSets t
    | _ => cases edits

theorem performAll_stopSets (t : Terminal) (operations : List Operation) :
    (t.performAll operations).stopSets = (t.noted operations).foldl StopSets.note t.stopSets := by
  induction operations generalizing t with
  | nil => rfl
  | cons operation rest ih =>
    rw [noted, List.foldl_cons, ← perform_stopSets]
    exact ih (t.perform operation)

theorem resize_stopSets (t : Terminal) (size : Extent) : (t.resize size).stopSets = t.stopSets :=
  (resize_sameStops t size).stopSets

theorem act_stopSets (t : Terminal) (action : Action) :
    (t.act action).stopSets = (t.notedBy action).foldl StopSets.note t.stopSets := by
  cases action with
  | feed bytes =>
    have asked := apply_asked { t with unread := [], changed := false } (t.unread ++ bytes)
    refine Eq.trans ?_ (performAll_stopSets { t with unread := [], changed := false } _)
    exact (congrArg stopSets asked :)
  | resize size => exact resize_stopSets t size
  | perform operation => exact performAll_stopSets t [operation]
  | dispatch sequence => exact performAll_stopSets t sequence.operations

theorem run_stopSets (t : Terminal) (actions : List Action) :
    (t.run actions).stopSets = (t.history actions).foldl StopSets.note t.stopSets := by
  induction actions generalizing t with
  | nil => rfl
  | cons action rest ih =>
    rw [history, List.foldl_append, ← act_stopSets]
    exact ih (t.act action)

theorem tab_to_least (ascending : Ascending t.cursor) {stop : Nat}
    (least : IsLeast {other | other ∈ t.cursor.tabStops ∧ t.cursor.column < other} stop) :
    t.tab = (t.withColumn (min stop (t.page.columns - 1))).marked := by
  unfold tab
  cases next : TabStops.next? t.cursor.column t.cursor.tabStops with
  | none =>
    have behind := TabStops.next?_none next stop least.1.1
    exact absurd least.1.2 (Nat.not_lt.mpr behind)
  | some first =>
    obtain rfl := (TabStops.next?_isLeast ascending next).unique least
    rfl

theorem tab_behind_all (behind : ∀ stop ∈ t.cursor.tabStops, stop ≤ t.cursor.column) :
    t.tab = t := by
  unfold tab
  cases next : TabStops.next? t.cursor.column t.cursor.tabStops with
  | none => rfl
  | some first =>
    have listed := List.mem_of_find?_eq_some next
    have right : t.cursor.column < first := by simpa using List.find?_some next
    exact absurd (behind first listed) (Nat.not_le.mpr right)

theorem tab_shown (t : Terminal) :
    min t.cursor.column (t.page.columns - 1) ≤
      min t.tab.cursor.column (t.tab.page.columns - 1) := by
  unfold tab
  cases next : TabStops.next? t.cursor.column t.cursor.tabStops with
  | none => exact Nat.le_refl _
  | some first =>
    have right : t.cursor.column < first := by simpa using List.find?_some next
    show min t.cursor.column (t.page.columns - 1) ≤
      min (min first (t.page.columns - 1)) (t.page.columns - 1)
    omega

-- For any size and any run. The list of the stops is the set of them in ascending order,
-- and so is the one that was saved.
theorem tab_stops_by_history (first : Extent) (identity : Identity) (listening : Bool)
    (actions : List Action) :
    let start := new first identity listening
    let t := start.run actions
    let sets := StopSets.ofHistory (start.history actions)
    let moved := t.perform .tab
    t.cursor.tabStops.Pairwise (· < ·) ∧ t.cursor.tabStops.toFinset = sets.live ∧
      (∀ saved, t.savedCursor = some saved → saved.tabStops.Pairwise (· < ·)) ∧
      (t.savedCursor.map fun saved => saved.tabStops.toFinset) = sets.saved ∧
      (∀ stop, IsLeast {other | other ∈ sets.live ∧ t.cursor.column < other} stop →
        moved = (t.withColumn (min stop (t.page.columns - 1))).marked) ∧
      ((∀ stop ∈ sets.live, stop ≤ t.cursor.column) → moved = t) ∧
      min t.cursor.column (t.page.columns - 1) ≤
        min moved.cursor.column (moved.page.columns - 1) := by
  intro start t sets moved
  have sorted : Cursors Ascending t := by
    refine ascending_stable.run (fun u size _ held => ?_) (new_ascending first identity listening)
    exact (resize_sameStops u size).ascending held
  have told : t.stopSets = sets := run_stopSets start actions
  have live : t.cursor.tabStops.toFinset = sets.live := congrArg StopSets.live told
  refine ⟨sorted.live, live, sorted.saved, congrArg StopSets.saved told, fun stop least => ?_,
    fun behind => ?_, tab_shown t⟩
  · refine tab_to_least sorted.live ?_
    simpa [← live] using least
  · refine tab_behind_all fun stop listed => behind stop ?_
    rw [← live]
    exact List.mem_toFinset.mpr listed

example :
    (new ⟨8, 1⟩ {} false).history
        [.feed (Utf8.encodeString "\x1b[3g\x1b[5G\x1bH\x1b7\x1b[g\x1b[7G\x1bH\x1b8")] =
      [(0, .clearAllTabs), (0, .setCursorColumn 5), (4, .setTab), (4, .saveCursor),
        (4, .clearTab), (4, .setCursorColumn 7), (6, .setTab), (6, .restoreCursor)] := by
  decide +kernel

end Terminal

end VideoTerminal

import VideoTerminal.Proofs.Scrolling

-- A region is set so that it leaves out a row of the window. In a shorter window it
-- may cover all rows and still be in force: a line feed on the last row then drops
-- the top line, which a window without a region keeps above itself.
namespace VideoTerminal

namespace ScrollRegion

variable {r : ScrollRegion} {rows more : Nat}

theorem SetIn.mono (set : r.SetIn rows) (taller : rows ≤ more) : r.SetIn more := by
  refine ⟨Nat.lt_of_lt_of_le set.top taller, fun bottom lowest => ?_⟩
  obtain ⟨order, room⟩ := set.bottom bottom lowest
  exact ⟨order, Nat.lt_of_lt_of_le room taller⟩

theorem setIn_cleared (rows : Nat) : ({} : ScrollRegion).SetIn (max 2 rows) :=
  ⟨Nat.lt_of_lt_of_le Nat.one_lt_two (Nat.le_max_left ..), fun _ lowest => nomatch lowest⟩

theorem whole_of_unset (unset : r.isSet = false) (rows : Nat) :
    (r.topIn rows, r.bottomIn rows) = (0, rows - 1) := by
  obtain ⟨top, bottom⟩ := r
  cases bottom with
  | none =>
    have first : top = 0 := by simpa [isSet] using unset
    subst first
    exact congrArg (·, rows - 1) (Nat.zero_min _)
  | some bottom => simp [isSet] at unset

theorem SetIn.isSet_iff (set : r.SetIn (max 2 rows)) :
    r.isSet = true ↔ (r.topIn rows, r.bottomIn rows) ≠ (0, rows - 1) := by
  refine ⟨fun inForce whole => ?_, fun narrower => ?_⟩
  · obtain ⟨first, last⟩ := Prod.mk.inj whole
    have room := set.top
    obtain ⟨top, bottom⟩ := r
    cases bottom with
    | none =>
      have below : 0 < top := by simpa [isSet] using inForce
      replace first : min top (rows - 1) = 0 := first
      replace room : top + 1 < max 2 rows := room
      omega
    | some bottom =>
      obtain ⟨order, inside⟩ := set.bottom bottom rfl
      replace last : min bottom (rows - 1) = rows - 1 := last
      omega
  · by_contra unset
    exact narrower (whole_of_unset (Bool.eq_false_iff.mpr unset) rows)

end ScrollRegion

namespace Terminal

variable {t : Terminal}

def RegionNarrower (t : Terminal) : Prop :=
  t.cursor.region.isSet = true ↔ (t.topMargin, t.bottomMargin) ≠ (0, t.window.rows - 1)

-- Between margins that leave out no row, a line feed on the last row moves the
-- window over its lines and takes none of them away.
def KeepsTop (t : Terminal) : Prop :=
  (t.topMargin, t.bottomMargin) = (0, t.window.rows - 1) → t.cursor.row + 1 = t.window.rows →
    ∀ operation : Operation, operation.descends = true →
      (t.perform operation).buffer = { t.buffer with topRow := t.buffer.topRow + 1 }

def scrolledOff (t : Terminal) : Buffer :=
  if t.cursor.region.isSet then
    (t.buffer.insert (t.buffer.topRow + t.window.rows) {}).remove t.buffer.topRow
  else { t.buffer with topRow := t.buffer.topRow + 1 }

theorem scrollRegionUp_buffer (t : Terminal) (top bottom : Nat) :
    (t.scrollRegionUp top bottom).buffer =
      (t.buffer.insert (t.buffer.topRow + bottom + 1) {}).remove (t.buffer.topRow + top) := by
  unfold scrollRegionUp reportRows raise
  dsimp only
  rw [raiseAll_eq]
  exact mapBuffer_buffer ..

theorem advanceRow_whole (whole : (t.topMargin, t.bottomMargin) = (0, t.window.rows - 1))
    (last : t.cursor.row + 1 = t.window.rows) : t.advanceRow.buffer = t.scrolledOff := by
  obtain ⟨top, bottom⟩ := Prod.mk.inj whole
  unfold advanceRow scrolledOff
  split
  · rw [if_pos (by omega)]
    refine (scrollRegionUp_buffer t t.topMargin t.bottomMargin).trans ?_
    have below : t.buffer.topRow + (t.window.rows - 1) + 1 = t.buffer.topRow + t.window.rows := by
      omega
    rw [top, bottom, below]
    rfl
  · rw [if_neg (by omega)]
    exact scrollWindow_buffer _

theorem descends_whole (whole : (t.topMargin, t.bottomMargin) = (0, t.window.rows - 1))
    (last : t.cursor.row + 1 = t.window.rows) {operation : Operation}
    (descends : operation.descends = true) : (t.perform operation).buffer = t.scrolledOff := by
  have here := advanceRow_whole whole last
  have start : (t.withColumn 0).advanceRow.buffer = t.scrolledOff :=
    advanceRow_whole (t := t.withColumn 0) whole last
  have newLine : t.newLine.buffer = t.scrolledOff := by
    unfold newLine
    split
    · exact start
    · exact here
  cases operation with
  | newLine | verticalTab | formFeed => exact newLine
  | index => exact here
  | nextLine => exact start
  | _ => cases descends

-- Every region, in force or saved, is one that could be set in this window, or in
-- one of two rows, where none is narrower.
def WellSet (t : Terminal) : Prop :=
  Cursors (fun c => c.region.SetIn (max 2 t.window.rows)) t

theorem new_wellSet (size : Extent) (identity : Identity) (listening : Bool) :
    WellSet (new size identity listening) :=
  ⟨ScrollRegion.setIn_cleared _, fun _ found => nomatch found⟩

theorem Steered.wellSet {c : Cursor} (wellSet : WellSet t) (steered : Steered t c) :
    c.region.SetIn (max 2 t.window.rows) := by
  cases steered with
  | within region => exact region ▸ wellSet.live
  | cleared region => exact region ▸ ScrollRegion.setIn_cleared _
  | confined room => exact room.mono (Nat.le_max_right ..)
  | restored saved found region => exact region ▸ wellSet.saved saved found

theorem wellSet_stable (rows : Nat) : Stable fun t => WellSet t ∧ t.window.rows = rows where
  input _ _ _ := fun ⟨wellSet, height⟩ => ⟨⟨wellSet.live, wellSet.saved⟩, height⟩
  perform t operation := fun ⟨wellSet, height⟩ => by
    have steers := perform_steers t operation
    have cursors := steers.cursors (fun _ _ _ region set => region ▸ set) wellSet
      (steers.cursor.wellSet wellSet)
    unfold WellSet
    rw [steers.window]
    exact ⟨cursors, height⟩

theorem resize_wellSet (wellSet : WellSet t) {size : Extent}
    (tall : t.window.rows ≤ max 2 size.atLeastOne.rows) : WellSet (t.resize size) := by
  have refitted := resize_refitted t size
  have kept : max 2 t.window.rows ≤ max 2 (t.resize size).window.rows := by
    rw [resize_window]
    exact Nat.max_le.mpr ⟨Nat.le_max_left .., tall⟩
  refine ⟨?_, fun saved found => (wellSet.saved saved (refitted.saved ▸ found)).mono kept⟩
  rcases refitted.region_cases with same | cleared
  · exact same ▸ wellSet.live.mono kept
  · exact cleared ▸ ScrollRegion.setIn_cleared _

theorem WellSet.regionNarrower (wellSet : WellSet t) : RegionNarrower t := wellSet.live.isSet_iff

theorem RegionNarrower.keepsTop (narrower : RegionNarrower t) : KeepsTop t := by
  intro whole last operation descends
  rw [descends_whole whole last descends, scrolledOff,
    if_neg fun inForce => narrower.mp inForce whole]

structure Spanned (t : Terminal) : Prop where
  inForce : t.cursor.region.isSet = true
  whole : (t.topMargin, t.bottomMargin) = (0, t.window.rows - 1)
  last : t.cursor.row + 1 = t.window.rows

theorem Spanned.not_regionNarrower (spanned : Spanned t) : ¬RegionNarrower t :=
  fun narrower => narrower.mp spanned.inForce spanned.whole

theorem Spanned.not_keepsTop (spanned : Spanned t) : ¬KeepsTop t := by
  intro keeps
  have moved := keeps spanned.whole spanned.last .index rfl
  rw [descends_whole spanned.whole spanned.last rfl, scrolledOff, if_pos spanned.inForce] at moved
  have top : t.buffer.topRow = t.buffer.topRow + 1 := congrArg Buffer.topRow moved
  omega

def spanning (size : Extent) : List Action :=
  let last := max 2 size.atLeastOne.rows
  [.perform (.setScrollRegion 1 last), .perform (.setCursorPosition 1 last),
    .perform .saveCursor, .resize size, .perform .restoreCursor]

theorem setScrollRegion_upTo {last : Nat} (several : 2 ≤ last) (inside : last < t.window.rows) :
    (t.setScrollRegion 1 last).cursor.region = ⟨0, some (last - 1)⟩ := by
  have given : last ≠ 0 := by omega
  have least : min (last - 1) (t.window.rows - 1) = last - 1 := by omega
  have proper : ¬last - 1 ≤ 0 := by omega
  have narrower : last - 1 < t.window.rows - 1 := by omega
  simp only [setScrollRegion, Nat.sub_self, if_neg given, least, if_neg proper, if_pos narrower]
  rfl

theorem addressedRow_last {last : Nat} (region : t.cursor.region = ⟨0, some (last - 1)⟩)
    (inside : last < t.window.rows) : t.addressedRow last = last - 1 := by
  unfold addressedRow originRow topMargin bottomMargin
  rw [region, ite_self]
  show max (min 0 _) (min (0 + (last - 1)) (min (last - 1) (t.window.rows - 1))) = last - 1
  omega

theorem restoreCursor_spanned {size : Extent}
    (region : t.cursor.region = ⟨0, some (max 2 size.atLeastOne.rows - 1)⟩)
    (row : t.cursor.row = max 2 size.atLeastOne.rows - 1) :
    Spanned (t.saveCursor.resize size).restoreCursor := by
  have found := (resize_refitted t.saveCursor size).saved
  have window := resize_window t.saveCursor size
  have tall : 0 < size.atLeastOne.rows := Nat.le_max_left ..
  generalize t.saveCursor.resize size = u at found window
  replace found : u.savedCursor = some t.cursor := found
  unfold restoreCursor
  rw [found]
  refine ⟨?_, ?_, ?_⟩
  · show t.cursor.region.isSet = true
    rw [region]
    rfl
  · show (t.cursor.region.topIn u.window.rows, t.cursor.region.bottomIn u.window.rows) =
      (0, u.window.rows - 1)
    have bottom : min (max 2 size.atLeastOne.rows - 1) (size.atLeastOne.rows - 1) =
        size.atLeastOne.rows - 1 := by omega
    rw [region, window]
    exact Prod.ext (Nat.zero_min _) bottom
  · show min t.cursor.row (u.window.rows - 1) + 1 = u.window.rows
    rw [window]
    omega

theorem spanning_spanned {size : Extent} (taller : max 2 size.atLeastOne.rows < t.window.rows) :
    Spanned (t.run (spanning size)) := by
  have region := setScrollRegion_upTo (Nat.le_max_left 2 size.atLeastOne.rows) taller
  have window := (setScrollRegion_steers t 1 (max 2 size.atLeastOne.rows)).window
  exact restoreCursor_spanned region (addressedRow_last region (window ▸ taller))

theorem spanned_iff {P : Terminal → Prop} (holds : ∀ t, WellSet t → P t)
    (breaks : ∀ t, Spanned t → ¬P t) (size : Extent) (sizes : List Extent) :
    (∀ identity listening actions, actions.filterMap Action.size? <+: sizes →
      P ((new size identity listening).run actions)) ↔
        (heights size.atLeastOne.rows sizes).IsChain (· ≤ max 2 ·) := by
  constructor
  · intro all
    refine chained_of_runs (fun t size _ parted => ⟨spanning size, rfl, ?_⟩)
      (new_inGrid size {} false) (all {} false)
    exact breaks _ (spanning_spanned (Nat.lt_of_not_le parted))
  · intro chained identity listening actions resizes
    have kept := chained.prefix ((List.prefix_cons_inj size.atLeastOne.rows).mpr (resizes.map _))
    refine holds _ (run_chained wellSet_stable (fun _ _ wellSet tall => ?_)
      (new_wellSet size identity listening) kept)
    exact resize_wellSet wellSet tall

-- Both hold in every run whose resizes never make a window of more than two rows
-- shorter, and not in all other runs. What a line feed does to the lines depends
-- on the region alone, even where it leaves out no row.
theorem region_narrower_iff (size : Extent) (sizes : List Extent) :
    (∀ t : Terminal, (t.topMargin, t.bottomMargin) = (0, t.window.rows - 1) →
      t.cursor.row + 1 = t.window.rows → ∀ operation : Operation, operation.descends = true →
        (t.perform operation).buffer = t.scrolledOff) ∧
    ((∀ identity listening actions, actions.filterMap Action.size? <+: sizes →
      RegionNarrower ((new size identity listening).run actions)) ↔
        (heights size.atLeastOne.rows sizes).IsChain (· ≤ max 2 ·)) ∧
    ((∀ identity listening actions, actions.filterMap Action.size? <+: sizes →
      KeepsTop ((new size identity listening).run actions)) ↔
        (heights size.atLeastOne.rows sizes).IsChain (· ≤ max 2 ·)) := by
  refine ⟨fun t whole last _ descends => descends_whole whole last descends, ?_, ?_⟩
  · exact spanned_iff (fun _ wellSet => wellSet.regionNarrower)
      (fun _ spanned => spanned.not_regionNarrower) size sizes
  · exact spanned_iff (fun _ wellSet => wellSet.regionNarrower.keepsTop)
      (fun _ spanned => spanned.not_keepsTop) size sizes

theorem spanning_region_in_force :
    let t := (new ⟨1, 3⟩ {} false).run
      [.feed (Utf8.encodeString "\x1b[1;2ra\r\nb"), .resize ⟨1, 2⟩]
    t.cursor.region.isSet = true ∧ (t.topMargin, t.bottomMargin) = (0, t.window.rows - 1) ∧
      t.cursor.row + 1 = t.window.rows ∧
      let fed := (t.feed (Utf8.encodeString "\n")).2
      fed.buffer.topRow = 0 ∧ fed.view 0 0 = ⟨'b', {}⟩ := by
  decide +kernel

end Terminal

end VideoTerminal

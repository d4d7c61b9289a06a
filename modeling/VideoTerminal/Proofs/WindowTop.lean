import VideoTerminal.Proofs.Scrollback

-- Where the window over each buffer begins. It moves down, and up only at a reset,
-- which puts it behind what is stored: fewer lines may be stored than have scrolled
-- off, since a line feed stores none.
namespace VideoTerminal

namespace Buffer

variable {glyphs : Char → Prop} {resets : Prop} {b c : Buffer}

theorem Worked.topRow_le (worked : Worked glyphs resets b c) (kept : ¬resets) :
    b.topRow ≤ c.topRow := by
  induction worked with
  | refl => exact Nat.le_refl _
  | edit row brings _ ih => exact ih
  | replace gone fresh _ ih => exact ih
  | scroll order _ ih => exact ih
  | advance rows _ ih => exact Nat.le_trans ih (Nat.le_add_right ..)
  | clear reset => exact absurd reset kept

def storedAbove (b : Buffer) : Nat := min b.topRow b.length

theorem Keeps.storedAbove_le (keeps : Keeps b c) : b.storedAbove ≤ c.storedAbove := by
  cases count : b.storedAbove with
  | zero => exact Nat.zero_le _
  | succ row =>
    have most : row < b.storedAbove := by omega
    obtain ⟨above, stored⟩ := Nat.lt_min.mp most
    obtain ⟨still, stillAbove⟩ := keeps.above row _ above (List.getElem?_eq_getElem stored)
    exact Nat.succ_le_of_lt (Nat.lt_min.mpr ⟨stillAbove, line?_stored still⟩)

end Buffer

namespace Terminal

def held (t : Terminal) : BufferKind → Buffer
  | .normal => t.normal
  | .alternate => t.alternate

variable {t u : Terminal}

theorem Works.held {glyphs : Char → Prop} {resets : Prop} (works : Works glyphs resets t u)
    (kind : BufferKind) : (t.held kind).Worked glyphs resets (u.held kind) := by
  cases kind with
  | normal => exact works.normal
  | alternate => exact works.alternate

theorem fullReset_held (t : Terminal) (kind : BufferKind) :
    t.fullReset.held kind = { t.held kind with topRow := (t.held kind).length } := by
  unfold fullReset reportWindow reportRows raise
  dsimp only
  rw [raiseAll_eq]
  cases kind <;> rfl

theorem topRow_stable (kind : BufferKind) (row : Nat) :
    StableUnder (· ≠ .fullReset) fun t => row ≤ (t.held kind).topRow where
  input t _ _ below := by cases kind <;> exact below
  perform t operation other below :=
    Nat.le_trans below (((perform_works t operation).held kind).topRow_le other)

theorem resize_topRow (t : Terminal) (size : Extent) (kind : BufferKind) :
    (t.held kind).topRow ≤ ((t.resize size).held kind).topRow := by
  have works : Works (fun _ => False) False t (t.resize size) := resize_works t size
  exact (works.held kind).topRow_le id

theorem window_moves_back_iff (t : Terminal) (kind : BufferKind) (actions : List Action) :
    (∀ operation, ((t.perform operation).held kind).topRow < (t.held kind).topRow ↔
      operation = .fullReset ∧ (t.held kind).length < (t.held kind).topRow) ∧
    ((t.perform .fullReset).held kind).topRow = (t.held kind).length ∧
    (∀ size, (t.held kind).topRow ≤ ((t.resize size).held kind).topRow) ∧
    (.fullReset ∉ t.askedByAll actions →
      (t.held kind).topRow ≤ ((t.run actions).held kind).topRow) ∧
    (t.held kind).storedAbove ≤ ((t.run actions).held kind).storedAbove := by
  have reset : ((t.perform .fullReset).held kind).topRow = (t.held kind).length := by
    show (t.fullReset.held kind).topRow = _
    rw [fullReset_held]
  refine ⟨fun operation => ?_, reset, fun size => resize_topRow t size kind, fun unreset => ?_, ?_⟩
  · constructor
    · intro back
      by_cases resets : operation = .fullReset
      · subst resets
        rw [reset] at back
        exact ⟨rfl, back⟩
      · have down := ((perform_works t operation).held kind).topRow_le resets
        omega
    · rintro ⟨rfl, past⟩
      rw [reset]
      exact past
  · have kinds : ∀ operation ∈ t.askedByAll actions, operation ≠ .fullReset := by
      rintro operation asked rfl
      exact unreset asked
    refine (topRow_stable kind (t.held kind).topRow).run kinds ?_ (Nat.le_refl _)
    exact fun u size _ below => Nat.le_trans below (resize_topRow u size kind)
  · have reworks := run_reworks t actions
    cases kind with
    | normal => exact reworks.normal.keeps.storedAbove_le
    | alternate => exact reworks.alternate.keeps.storedAbove_le

theorem window_back_after_reset :
    let t := (new ⟨1, 1⟩ {} false).run [.feed [0x61, 0x0a, 0x0a]]
    t.normal.topRow = 2 ∧ (t.act (.feed [0x1b, 0x63])).normal.topRow = 1 := by
  decide +kernel

end Terminal

end VideoTerminal

import VideoTerminal.Proofs.Regions

-- Operations that move rows, against one shift of the lines by where they are. It
-- makes no difference how many lines are stored, nor in which order a line is taken
-- out and a fresh one put in.
namespace VideoTerminal

abbrev Rows := Nat → Line

namespace Rows

def lift (rows : Rows) (first last count : Nat) : Rows := fun i =>
  if i < first ∨ last < i then rows i
  else if i + count ≤ last then rows (i + count)
  else {}

def lower (rows : Rows) (first last count : Nat) : Rows := fun i =>
  if i < first ∨ last < i then rows i
  else if first + count ≤ i then rows (i - count)
  else {}

structure Gradual (shift : Rows → Nat → Nat → Nat → Rows) : Prop where
  none : ∀ rows first last, shift rows first last 0 = rows
  more : ∀ rows first last count,
    shift (shift rows first last count) first last 1 = shift rows first last (count + 1)

theorem lift_gradual : Gradual lift where
  none rows first last := by
    funext i
    by_cases outside : i < first ∨ last < i
    · exact if_pos outside
    · have inside : i + 0 ≤ last := by omega
      exact (if_neg outside).trans (if_pos inside)
  more rows first last count := by
    funext i
    by_cases outside : i < first ∨ last < i
    · simp only [lift, if_pos outside]
    · by_cases lowest : i = last
      · subst lowest
        have past : ¬i + 1 ≤ i ∧ ¬i + (count + 1) ≤ i := by omega
        simp only [lift, if_neg outside, if_neg past.1, if_neg past.2]
      · have below : ¬(i + 1 < first ∨ last < i + 1) ∧ i + 1 ≤ last := by omega
        have sum : i + 1 + count = i + (count + 1) := by omega
        simp only [lift, if_neg outside, if_neg below.1, if_pos below.2, sum]

theorem lower_gradual : Gradual lower where
  none rows first last := by
    funext i
    by_cases outside : i < first ∨ last < i
    · exact if_pos outside
    · have inside : first + 0 ≤ i := by omega
      exact (if_neg outside).trans (if_pos inside)
  more rows first last count := by
    funext i
    by_cases outside : i < first ∨ last < i
    · simp only [lower, if_pos outside]
    · by_cases highest : i = first
      · subst highest
        have past : ¬i + 1 ≤ i ∧ ¬i + (count + 1) ≤ i := by omega
        simp only [lower, if_neg outside, if_neg past.1, if_neg past.2]
      · have above : ¬(i - 1 < first ∨ last < i - 1) ∧ first + 1 ≤ i := by omega
        have room : first + count ≤ i - 1 ↔ first + (count + 1) ≤ i := by omega
        have sum : i - 1 - count = i - (count + 1) := by omega
        simp only [lower, if_neg outside, if_neg above.1, if_pos above.2, room, sum]

end Rows

namespace Buffer
open Rows

variable {shift : Rows → Nat → Nat → Nat → Rows} {first last : Nat}

theorem insert_remove_lifts (b : Buffer) (order : first ≤ last) :
    ((b.insert (last + 1) {}).remove first).lineAt = lift b.lineAt first last 1 := by
  funext i
  rw [lineAt_remove]
  simp only [lineAt_insert, lift]
  by_cases above : i < first
  · rw [if_pos above, if_pos (by omega), if_pos (.inl above)]
  · by_cases below : last < i
    · rw [if_neg above, if_neg (by omega), if_neg (by omega), if_pos (.inr below),
        Nat.add_sub_cancel]
    · rw [if_neg above, if_neg (show ¬(i < first ∨ last < i) by omega)]
      by_cases lowest : i = last
      · rw [if_neg (by omega), if_pos (by omega), if_neg (by omega)]
      · rw [if_pos (by omega), if_pos (by omega)]

theorem remove_insert_lifts (b : Buffer) (order : first ≤ last) :
    ((b.remove first).insert last {}).lineAt = lift b.lineAt first last 1 := by
  funext i
  rw [lineAt_insert]
  simp only [lineAt_remove, lift]
  by_cases above : i < first
  · rw [if_pos (by omega), if_pos above, if_pos (.inl above)]
  · by_cases below : last < i
    · rw [if_neg (by omega), if_neg (by omega), if_neg (by omega), if_pos (.inr below),
        Nat.sub_add_cancel (by omega)]
    · rw [if_neg (show ¬(i < first ∨ last < i) by omega)]
      by_cases lowest : i = last
      · rw [if_neg (by omega), if_pos lowest, if_neg (by omega)]
      · rw [if_pos (by omega), if_neg above, if_pos (by omega)]

theorem remove_insert_lowers (b : Buffer) (order : first ≤ last) :
    ((b.remove last).insert first {}).lineAt = lower b.lineAt first last 1 := by
  funext i
  rw [lineAt_insert]
  simp only [lineAt_remove, lower]
  by_cases above : i < first
  · rw [if_pos above, if_pos (by omega), if_pos (.inl above)]
  · by_cases below : last < i
    · rw [if_neg above, if_neg (by omega), if_neg (by omega), if_pos (.inr below),
        Nat.sub_add_cancel (by omega)]
    · rw [if_neg above, if_neg (show ¬(i < first ∨ last < i) by omega)]
      by_cases highest : i = first
      · rw [if_pos highest, if_neg (by omega)]
      · rw [if_neg highest, if_pos (by omega), if_pos (by omega)]

def Shifts (shift : Rows → Nat → Nat → Nat → Rows) (first last : Nat) (edit : Buffer → Buffer) :
    Prop :=
  ∀ b, (edit b).topRow = b.topRow ∧
    (edit b).lineAt = shift b.lineAt (b.topRow + first) (b.topRow + last) 1

theorem Shifts.repeat {edit : Buffer → Buffer} (shifts : Shifts shift first last edit)
    (gradual : Gradual shift) (count : Nat) (b : Buffer) :
    (Nat.repeat edit count b).topRow = b.topRow ∧ (Nat.repeat edit count b).lineAt =
      shift b.lineAt (b.topRow + first) (b.topRow + last) count := by
  induction count with
  | zero => exact ⟨rfl, (gradual.none ..).symm⟩
  | succ count ih =>
    obtain ⟨topRow, rows⟩ := ih
    obtain ⟨same, shifted⟩ := shifts (Nat.repeat edit count b)
    rw [topRow, rows, gradual.more] at shifted
    exact ⟨same.trans topRow, shifted⟩

end Buffer

namespace Terminal
open Rows Buffer

structure Shifted (t u : Terminal) (rows : Rows) : Prop where
  rows : u.buffer.lineAt = rows
  topRow : u.buffer.topRow = t.buffer.topRow
  active : u.active = t.active
  other : u.otherBuffer = t.otherBuffer

variable {t : Terminal}

theorem repeat_buffer {step : Terminal → Terminal} {edit : Buffer → Buffer}
    (steps : ∀ u, (step u).buffer = edit u.buffer) (count : Nat) (t : Terminal) :
    (Nat.repeat step count t).buffer = Nat.repeat edit count t.buffer := by
  induction count with
  | zero => rfl
  | succ count ih => exact (steps _).trans (congrArg edit ih)

theorem scrollRegionDown_buffer (t : Terminal) (top bottom : Nat) :
    (t.scrollRegionDown top bottom).buffer =
      (t.buffer.remove (t.buffer.topRow + bottom)).insert (t.buffer.topRow + top) {} := by
  unfold scrollRegionDown reportRows raise
  dsimp only
  rw [raiseAll_eq]
  exact mapBuffer_buffer ..

theorem repeat_shifted {shift : Rows → Nat → Nat → Nat → Rows} {first last : Nat}
    {step : Terminal → Terminal} {edit : Buffer → Buffer} (draws : ∀ u, Draws u (step u))
    (steps : ∀ u, (step u).buffer = edit u.buffer) (shifts : Shifts shift first last edit)
    (gradual : Gradual shift) (count : Nat) (t : Terminal) :
    Shifted t (Nat.repeat step count t) (shift t.buffer.lineAt (t.buffer.topRow + first)
      (t.buffer.topRow + last) count) := by
  have drawn := repeat_draws draws count t
  obtain ⟨topRow, rows⟩ := shifts.repeat gradual count t.buffer
  rw [← repeat_buffer steps] at topRow rows
  exact ⟨rows, topRow, drawn.active, drawn.otherBuffer⟩

theorem scrollUp_shifted (t : Terminal) (count : Nat) :
    Shifted t (t.scrollUp count) (lift t.buffer.lineAt (t.buffer.topRow + t.topMargin)
      (t.buffer.topRow + t.bottomMargin) (min count (t.bottomMargin - t.topMargin + 1))) := by
  have order := margins_ordered t
  have shifts : Shifts lift t.topMargin t.bottomMargin fun b =>
      (b.insert (b.topRow + t.bottomMargin + 1) {}).remove (b.topRow + t.topMargin) :=
    fun b => ⟨rfl, insert_remove_lifts b (by omega)⟩
  exact repeat_shifted (fun _ => scrollRegionUp_draws ..)
    (fun u => scrollRegionUp_buffer u t.topMargin t.bottomMargin) shifts lift_gradual _ t

theorem scrollDown_shifted (t : Terminal) (count : Nat) :
    Shifted t (t.scrollDown count) (lower t.buffer.lineAt (t.buffer.topRow + t.topMargin)
      (t.buffer.topRow + t.bottomMargin) (min count (t.bottomMargin - t.topMargin + 1))) := by
  have order := margins_ordered t
  have shifts : Shifts lower t.topMargin t.bottomMargin fun b =>
      (b.remove (b.topRow + t.bottomMargin)).insert (b.topRow + t.topMargin) {} :=
    fun b => ⟨rfl, remove_insert_lowers b (by omega)⟩
  exact repeat_shifted (fun _ => scrollRegionDown_draws ..)
    (fun u => scrollRegionDown_buffer u t.topMargin t.bottomMargin) shifts lower_gradual _ t

theorem betweenMargins_outside
    (outside : t.cursor.row < t.topMargin ∨ t.bottomMargin < t.cursor.row)
    (edit : Buffer → Buffer) (count : Nat) : t.betweenMargins edit count = t :=
  if_pos outside

theorem betweenMargins_shifted {shift : Rows → Nat → Nat → Nat → Rows} {edit : Buffer → Buffer}
    (below : t.topMargin ≤ t.cursor.row) (above : t.cursor.row ≤ t.bottomMargin)
    (shifts : Shifts shift t.cursor.row t.bottomMargin edit) (gradual : Gradual shift)
    (count : Nat) :
    Shifted t (t.betweenMargins edit count) (shift t.buffer.lineAt
        (t.buffer.topRow + t.cursor.row) (t.buffer.topRow + t.bottomMargin)
        (min count (t.bottomMargin - t.cursor.row + 1))) ∧
      (t.betweenMargins edit count).cursor = { t.cursor with column := 0 } := by
  have inside : ¬(t.cursor.row < t.topMargin ∨ t.bottomMargin < t.cursor.row) := by omega
  unfold betweenMargins reportRows raise
  dsimp only
  rw [if_neg inside, raiseAll_eq]
  generalize min count (t.bottomMargin - t.cursor.row + 1) = rows
  have drawn := mapBuffer_draws t (Nat.repeat edit rows)
  have edited := mapBuffer_buffer t (Nat.repeat edit rows)
  obtain ⟨topRow, lines⟩ := shifts.repeat gradual rows t.buffer
  rw [← edited] at topRow lines
  refine ⟨⟨lines, topRow, drawn.active, drawn.otherBuffer⟩, ?_⟩
  exact congrArg (fun cursor : Cursor => ({ cursor with column := 0 } : Cursor)) drawn.cursor

theorem deleteLines_shifts (t : Terminal) (order : t.cursor.row ≤ t.bottomMargin) :
    Shifts lift t.cursor.row t.bottomMargin fun b =>
      (b.remove (b.topRow + t.cursor.row)).insert (b.topRow + t.bottomMargin) {} :=
  fun b => ⟨rfl, remove_insert_lifts b (by omega)⟩

theorem insertLines_shifts (t : Terminal) (order : t.cursor.row ≤ t.bottomMargin) :
    Shifts lower t.cursor.row t.bottomMargin fun b =>
      (b.remove (b.topRow + t.bottomMargin)).insert (b.topRow + t.cursor.row) {} :=
  fun b => ⟨rfl, remove_insert_lowers b (by omega)⟩

theorem advanceRow_bottom (set : t.cursor.region.isSet = true)
    (bottom : t.cursor.row = t.bottomMargin) : t.advanceRow = t.scrollUp 1 := by
  have drawn := scrollRegionUp_draws t t.topMargin t.bottomMargin
  have one : min 1 (t.bottomMargin - t.topMargin + 1) = 1 := by omega
  have cursor : { t.cursor with row := t.bottomMargin } =
      (t.scrollRegionUp t.topMargin t.bottomMargin).cursor := by
    rw [drawn.cursor, ← bottom]
  unfold advanceRow scrollUp
  rw [if_pos set, if_pos (Nat.le_of_eq bottom.symm), cursor, one]
  rfl

theorem reverseIndex_top (top : t.cursor.row = t.topMargin) : t.reverseIndex = t.scrollDown 1 := by
  have drawn := scrollRegionDown_draws t t.topMargin t.bottomMargin
  have one : min 1 (t.bottomMargin - t.topMargin + 1) = 1 := by omega
  have cursor : { t.cursor with row := t.topMargin } =
      (t.scrollRegionDown t.topMargin t.bottomMargin).cursor := by
    rw [drawn.cursor, ← top]
  unfold reverseIndex scrollDown
  rw [if_pos (Nat.le_of_eq top), cursor, one]
  rfl

theorem row_moves_shift (t : Terminal) (count : Nat) :
    let top := t.buffer.topRow + t.topMargin
    let bottom := t.buffer.topRow + t.bottomMargin
    let row := t.buffer.topRow + t.cursor.row
    let tall := min count (t.bottomMargin - t.topMargin + 1)
    let below := min count (t.bottomMargin - t.cursor.row + 1)
    let started := if t.automaticNewLine then t.withColumn 0 else t
    Shifted t (t.perform (.scrollUp count)) (lift t.buffer.lineAt top bottom tall) ∧
    Shifted t (t.perform (.scrollDown count)) (lower t.buffer.lineAt top bottom tall) ∧
    (t.topMargin ≤ t.cursor.row → t.cursor.row ≤ t.bottomMargin →
      (Shifted t (t.perform (.deleteLines count)) (lift t.buffer.lineAt row bottom below) ∧
        (t.perform (.deleteLines count)).cursor = { t.cursor with column := 0 }) ∧
      Shifted t (t.perform (.insertLines count)) (lower t.buffer.lineAt row bottom below) ∧
        (t.perform (.insertLines count)).cursor = { t.cursor with column := 0 }) ∧
    (t.cursor.row < t.topMargin ∨ t.bottomMargin < t.cursor.row →
      t.perform (.deleteLines count) = t ∧ t.perform (.insertLines count) = t) ∧
    (t.cursor.region.isSet = true → t.cursor.row = t.bottomMargin →
      t.perform .index = t.perform (.scrollUp 1) ∧
      t.perform .nextLine = (t.withColumn 0).perform (.scrollUp 1) ∧
      ∀ operation ∈ [.newLine, .verticalTab, .formFeed],
        t.perform operation = started.perform (.scrollUp 1)) ∧
    (t.cursor.row = t.topMargin → t.perform .reverseIndex = t.perform (.scrollDown 1)) := by
  intro top bottom row tall below started
  refine ⟨scrollUp_shifted t count, scrollDown_shifted t count, fun lower upper => ⟨?_, ?_⟩,
    fun outside => ⟨?_, ?_⟩, fun set last => ⟨advanceRow_bottom set last, ?_, ?_⟩,
    fun first => reverseIndex_top first⟩
  · exact betweenMargins_shifted lower upper (deleteLines_shifts t upper) lift_gradual count
  · exact betweenMargins_shifted lower upper (insertLines_shifts t upper) lower_gradual count
  · exact betweenMargins_outside outside ..
  · exact betweenMargins_outside outside ..
  · exact advanceRow_bottom (t := t.withColumn 0) set last
  · have fed : t.newLine = started.scrollUp 1 := by
      unfold newLine
      cases starts : t.automaticNewLine with
      | true =>
        have same : started = t.withColumn 0 := if_pos starts
        rw [same]
        exact advanceRow_bottom (t := t.withColumn 0) set last
      | false =>
        have same : started = t := if_neg (by rw [starts]; exact Bool.false_ne_true)
        rw [same]
        exact advanceRow_bottom set last
    intro operation feeds
    simp only [List.mem_cons, List.not_mem_nil, or_false] at feeds
    rcases feeds with rfl | rfl | rfl <;> exact fed

end Terminal

end VideoTerminal

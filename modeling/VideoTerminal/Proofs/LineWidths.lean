import VideoTerminal.Proofs.Keeping
import VideoTerminal.Proofs.LineEdits
import VideoTerminal.Proofs.Scrolling

-- How long lines get. Every edit cuts its line at the page, so no line is longer than
-- the widest page so far; but lines that were written on a wider page keep what the
-- page no longer shows, and deleting characters moves that into view.
namespace VideoTerminal

theorem LineEdit.length_le {columns most : Nat} {glyphs : Char → Prop} {f : Line → Line}
    (edit : LineEdit columns glyphs f) (inPage : columns ≤ most) {l : Line}
    (short : l.length ≤ most) : (f l).length ≤ most := by
  have trimmed (l : Line) : (l.trim columns).length ≤ most :=
    Nat.le_trans (List.length_take_le ..) inPage
  cases edit with
  | erase | delete | spread | insert | set => exact trimmed _
  | align shown =>
    refine Nat.le_trans (Nat.le_of_eq ?_) inPage
    exact List.length_replicate
  | rescale same =>
    unfold Line.length
    rw [same]
    exact short

namespace Buffer

def NarrowTo (columns : Nat) (b : Buffer) : Prop := ∀ i, (b.lineAt i).length ≤ columns

variable {b : Buffer} {columns most : Nat}

theorem NarrowTo.insert (narrow : b.NarrowTo most) (row : Nat) :
    (b.insert row {}).NarrowTo most := by
  intro i
  rw [lineAt_insert]
  split
  · exact narrow i
  · split
    · exact Nat.zero_le _
    · exact narrow _

theorem NarrowTo.remove (narrow : b.NarrowTo most) (row : Nat) : (b.remove row).NarrowTo most := by
  intro i
  rw [lineAt_remove]
  split <;> exact narrow _

theorem NarrowTo.modifyLine {glyphs : Char → Prop} {f : Line → Line} (narrow : b.NarrowTo most)
    (edit : LineEdit columns glyphs f) (inPage : columns ≤ most) (row : Nat) :
    (b.modifyLine row f).NarrowTo most := by
  intro i
  rw [lineAt_modifyLine]
  split
  · exact edit.length_le inPage (narrow row)
  · exact narrow i

theorem narrowTo_closed (inPage : columns ≤ most) (glyphs : Char → Prop) (resets : Prop) :
    Closed (LineEdit columns glyphs) resets (NarrowTo most) where
  edit _ _ _ edit narrow := narrow.modifyLine edit inPage _
  replace _ _ _ narrow := (narrow.remove _).insert _
  scroll _ _ _ _ narrow := (narrow.insert _).remove _
  advance _ _ narrow := narrow
  clear _ _ narrow := narrow

theorem closed_true (edits : (Line → Line) → Prop) (resets : Prop) :
    Closed edits resets fun _ => True where
  edit _ _ _ _ _ := trivial
  replace _ _ _ _ := trivial
  scroll _ _ _ _ _ := trivial
  advance _ _ _ := trivial
  clear _ _ _ := trivial

end Buffer

namespace Terminal

structure Narrow (columns : Nat) (t : Terminal) : Prop where
  normal : t.normal.NarrowTo columns
  alternate : t.alternate.NarrowTo columns

-- The widest page while operations are performed, the page before them included.
def widestOver (t : Terminal) : List Operation → Nat
  | [] => t.page.columns
  | operation :: rest => max t.page.columns ((t.perform operation).widestOver rest)

def widest (t : Terminal) : List Action → Nat
  | [] => t.page.columns
  | action :: rest => max (t.widestOver (t.askedBy action)) ((t.act action).widest rest)

variable {t u : Terminal} {most : Nat}

theorem perform_columns (t : Terminal) (operation : Operation) :
    (t.perform operation).page.columns = t.nextColumns operation :=
  (perform_both (B := fun _ _ => True) (fun _ => Buffer.closed_true ..) trivial trivial).page

theorem resize_columns (t : Terminal) (size : Extent) :
    (t.resize size).page.columns = size.atLeastOne.columns :=
  (resize_both (B := fun _ _ => True) t size (fun _ _ _ _ => trivial) trivial trivial).page

theorem Narrow.of_same (narrow : Narrow most t) (normal : u.normal = t.normal)
    (alternate : u.alternate = t.alternate) : Narrow most u :=
  ⟨normal ▸ narrow.normal, alternate ▸ narrow.alternate⟩

theorem Narrow.perform (narrow : Narrow most t) {operation : Operation}
    (inPage : t.nextColumns operation ≤ most) : Narrow most (t.perform operation) := by
  have both := perform_both (B := fun _ => Buffer.NarrowTo most)
    (fun _ => Buffer.narrowTo_closed inPage ..) narrow.normal narrow.alternate
  exact ⟨both.normal, both.alternate⟩

theorem Narrow.resize (narrow : Narrow most t) (size : Extent) : Narrow most (t.resize size) := by
  have both := resize_both (B := fun _ => Buffer.NarrowTo most) t size (fun _ _ _ held => held)
    narrow.normal narrow.alternate
  exact ⟨both.normal, both.alternate⟩

theorem columns_le_widestOver (t : Terminal) (operations : List Operation) :
    t.page.columns ≤ t.widestOver operations := by
  cases operations with
  | nil => exact Nat.le_refl _
  | cons => exact Nat.le_max_left ..

theorem widestOver_congr (page : u.page.columns = t.page.columns)
    (window : u.window.columns = t.window.columns) (operations : List Operation) :
    u.widestOver operations = t.widestOver operations := by
  induction operations generalizing t u with
  | nil => exact page
  | cons operation rest ih =>
    have next : u.nextColumns operation = t.nextColumns operation := by
      unfold nextColumns
      rw [page, window]
    have performed : (u.perform operation).page.columns = (t.perform operation).page.columns := by
      rw [perform_columns, perform_columns, next]
    have kept : (u.perform operation).window.columns = (t.perform operation).window.columns := by
      rw [(perform_steers u operation).window, (perform_steers t operation).window, window]
    exact congrArg₂ max page (ih performed kept)

theorem Narrow.performAll (narrow : Narrow most t) {operations : List Operation}
    (within : t.widestOver operations ≤ most) : Narrow most (t.performAll operations) := by
  induction operations generalizing t with
  | nil => exact narrow
  | cons operation rest ih =>
    have later : (t.perform operation).widestOver rest ≤ most :=
      Nat.le_trans (Nat.le_max_right ..) within
    have next : t.nextColumns operation ≤ most := by
      rw [← perform_columns]
      exact Nat.le_trans (columns_le_widestOver ..) later
    exact ih (narrow.perform next) later

theorem Narrow.feed (narrow : Narrow most t) {bytes : List UInt8}
    (within : t.widestOver (t.askedBy (.feed bytes)) ≤ most) : Narrow most (t.feed bytes).2 := by
  let lowered : Terminal := { t with unread := [], changed := false }
  have started : Narrow most lowered := narrow.of_same rfl rfl
  have same : lowered.widestOver (t.askedBy (.feed bytes)) =
      t.widestOver (t.askedBy (.feed bytes)) := widestOver_congr (t := t) (u := lowered) rfl rfl _
  have performed := started.performAll (Nat.le_trans (Nat.le_of_eq same) within)
  rw [Terminal.feed, apply_asked { t with unread := [], changed := false }]
  exact performed.of_same rfl rfl

theorem Narrow.act (narrow : Narrow most t) {action : Action}
    (within : t.widestOver (t.askedBy action) ≤ most) : Narrow most (t.act action) := by
  cases action with
  | feed bytes => exact narrow.feed within
  | resize size => exact narrow.resize size
  | perform operation =>
    have one : Narrow most (t.performAll [operation]) := narrow.performAll within
    exact one
  | dispatch sequence => exact narrow.performAll within

theorem Narrow.run (narrow : Narrow most t) {actions : List Action}
    (within : t.widest actions ≤ most) : Narrow most (t.run actions) := by
  induction actions generalizing t with
  | nil => exact narrow
  | cons action rest ih =>
    have acted := narrow.act (Nat.le_trans (Nat.le_max_left ..) within)
    exact ih acted (Nat.le_trans (Nat.le_max_right ..) within)

theorem new_narrow (size : Extent) (identity : Identity) (listening : Bool) (most : Nat) :
    Narrow most (new size identity listening) :=
  ⟨fun _ => Nat.zero_le _, fun _ => Nat.zero_le _⟩

theorem Narrow.buffer (narrow : Narrow most t) : t.buffer.NarrowTo most := by
  unfold Terminal.buffer
  cases t.active with
  | normal => exact narrow.normal
  | alternate => exact narrow.alternate

theorem Narrow.view (narrow : Narrow most t) (row : Nat) {column : Nat} (past : most ≤ column) :
    t.view row column = {} :=
  Padded.read_of_length_le (Nat.le_trans (narrow.buffer _) past)

def OpensBlanks (t : Terminal) (count : Nat) : Prop :=
  Edited t (t.perform (.deleteCharacters count)) t.cursor.row fun column =>
    if column < t.pageColumn then t.view t.cursor.row column
    else if column + t.shiftWidth count < t.page.columns then
      t.view t.cursor.row (column + t.shiftWidth count)
    else {}

theorem opensBlanks_iff (t : Terminal) (count : Nat) :
    OpensBlanks t count ↔ ∀ column, t.page.columns ≤ column →
      column < t.page.columns + t.shiftWidth count → t.view t.cursor.row column = {} := by
  have deleted := deleteCharacters_edited t count
  have room : t.shiftWidth count ≤ t.page.columns - t.pageColumn := Nat.min_le_right ..
  constructor
  · intro opens column past near
    have moved : column - t.shiftWidth count + t.shiftWidth count = column := by omega
    have shown := deleted.cells (column - t.shiftWidth count) (by omega)
    have opened := opens.cells (column - t.shiftWidth count) (by omega)
    rw [if_neg (by omega), moved] at shown opened
    rw [if_neg (by omega)] at opened
    exact shown.symm.trans opened
  · intro hidden
    refine deleted.congr fun column inPage => ?_
    by_cases before : column < t.pageColumn
    · rw [if_pos before, if_pos before]
    · rw [if_neg before, if_neg before]
      split
      · rfl
      · exact hidden _ (by omega) (by omega)

theorem Narrow.opensBlanks (narrow : Narrow t.page.columns t) (count : Nat) :
    OpensBlanks t count :=
  (opensBlanks_iff t count).mpr fun _ past _ => narrow.view _ past

theorem resize_column (t : Terminal) (size : Extent) :
    (t.resize size).cursor.column = min t.cursor.column (size.atLeastOne.columns - 1) := by
  unfold resize
  exact congrArg Cursor.column ((reportWindow_draws _).trans (marked_draws _)).cursor

def narrowed (size : Extent) : List Action := [.perform .screenAlignmentTest, .resize size]

theorem narrowed_opens (grid : InGrid t) {size : Extent}
    (narrower : size.atLeastOne.columns < t.page.columns) {count : Nat} (some : 0 < count) :
    ¬OpensBlanks (t.run (narrowed size)) count := by
  intro opens
  have ran : t.run (narrowed size) = t.screenAlignmentTest.resize size := rfl
  have columns := resize_columns t.screenAlignmentTest size
  have row := (resize_refitted t.screenAlignmentTest size).row
  have column := resize_column t.screenAlignmentTest size
  have first : t.screenAlignmentTest.cursor.row = 0 := rfl
  have start : t.screenAlignmentTest.cursor.column = 0 := rfl
  have view := resize_view first size
  rw [ran] at opens
  generalize t.screenAlignmentTest.resize size = u at opens columns row column view
  rw [first, Nat.zero_min] at row
  rw [start, Nat.zero_min] at column
  have wide : 0 < size.atLeastOne.columns := Nat.le_max_left ..
  have shift : 0 < u.shiftWidth count := by
    unfold shiftWidth pageColumn
    rw [column, columns]
    omega
  have hidden := (opensBlanks_iff u count).mp opens u.page.columns (Nat.le_refl _) (by omega)
  rw [row, view, columns, screenAlignmentTest_view t grid.tall narrower] at hidden
  cases hidden

theorem narrowed_widest (t : Terminal) (size : Extent) :
    t.widest (narrowed size) = max t.page.columns size.atLeastOne.columns := by
  have aligned : (t.perform .screenAlignmentTest).page.columns = t.page.columns :=
    perform_columns ..
  have resized : ((t.perform .screenAlignmentTest).resize size).page.columns =
      size.atLeastOne.columns := resize_columns ..
  simp only [narrowed, widest, widestOver, askedBy, act, aligned, resized, Nat.max_self]
  omega

-- What a deletion leaves in any terminal. Blanks come in as long as what the line hides
-- is blank, and so they do in all runs up to a page exactly if none had a wider one.
theorem blanks_open_iff (most : Nat) (size : Extent) :
    (∀ t count, Edited t (t.perform (.deleteCharacters count)) t.cursor.row (fun column =>
        if column < t.pageColumn then t.view t.cursor.row column
        else t.view t.cursor.row (column + t.shiftWidth count)) ∧
      (OpensBlanks t count ↔ ∀ column, t.page.columns ≤ column →
        column < t.page.columns + t.shiftWidth count → t.view t.cursor.row column = {})) ∧
    ((∀ first identity listening actions,
      let t := new first identity listening
      t.widest actions ≤ most → (t.run actions).page.columns = size.atLeastOne.columns →
        ∀ count, OpensBlanks (t.run actions) count) ↔ most ≤ size.atLeastOne.columns) := by
  refine ⟨fun t count => ⟨deleteCharacters_edited t count, opensBlanks_iff t count⟩, ?_, ?_⟩
  · intro opens
    by_contra wider
    let t := new ⟨most, 1⟩ {} false
    have columns : t.page.columns = most := by
      show max 1 most = most
      omega
    have within : t.widest (narrowed size) ≤ most := by
      rw [narrowed_widest, columns]
      omega
    have narrower : size.atLeastOne.columns < t.page.columns := by omega
    have opened := opens ⟨most, 1⟩ {} false (narrowed size) within (resize_columns ..) 1
    exact narrowed_opens (new_inGrid ..) narrower Nat.one_pos opened
  · intro covers first identity listening actions t within page count
    have narrow : Narrow (t.run actions).page.columns (t.run actions) := by
      refine (new_narrow ..).run ?_
      rw [page]
      exact Nat.le_trans within covers
    exact narrow.opensBlanks count

theorem hidden_letter_opened :
    let t := (new ⟨2, 1⟩ {} false).run [.feed (Utf8.encodeString "ab"), .resize ⟨1, 1⟩]
    ¬OpensBlanks t 1 ∧ (t.feed (Utf8.encodeString "\x1b[P")).2.view 0 0 = ⟨'b', {}⟩ := by
  intro t
  refine ⟨fun opens => ?_, by decide +kernel⟩
  have row : t.cursor.row = 0 := by decide +kernel
  have hidden := (opensBlanks_iff t 1).mp opens 1 (by decide +kernel) (by decide +kernel)
  have shown : t.view 0 1 = ⟨'b', {}⟩ := by decide +kernel
  rw [row, shown] at hidden
  cases hidden

end Terminal

end VideoTerminal

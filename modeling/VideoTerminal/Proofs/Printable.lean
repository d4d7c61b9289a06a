import VideoTerminal.Proofs.Arguments
import VideoTerminal.Proofs.Editing
import VideoTerminal.Proofs.Grid
import VideoTerminal.Proofs.Telling

-- Whatever a terminal reads, no control character gets into a cell. Those without
-- an effect of their own are dropped, and no character set turns a printable
-- character into one.
namespace VideoTerminal
open Text (isControl)

theorem Padded.forall_mem_iff {α : Type} {P : α → Prop} {filler : α} (free : P filler)
    (items : List α) : (∀ item ∈ items, P item) ↔ ∀ i, P (read filler items i) := by
  constructor
  · intro all i
    rw [read_eq]
    cases found : items[i]? with
    | none => exact free
    | some item => exact all item (List.mem_of_getElem? found)
  · intro all item stored
    obtain ⟨i, found⟩ := List.mem_iff_getElem?.mp stored
    have here := all i
    rw [read_eq, found] at here
    exact here

namespace CharacterSet

theorem glyph_printable (set : CharacterSet) {c : Char} (printable : isControl c = false) :
    isControl (set.glyph c) = false := by
  have graphics : specialGraphics.all (!isControl ·) = true := by decide
  unfold glyph
  split
  · split
    · cases found : specialGraphics[c.toNat - 0x5f]? with
      | none => exact printable
      | some picture =>
        have shown := List.all_eq_true.mp graphics picture (List.mem_of_getElem? found)
        exact (Bool.not_eq_true' _).mp shown
    · exact printable
  · split
    · decide
    · exact printable
  · exact printable

theorem glyph_control (set : CharacterSet) {c : Char} (control : isControl c = true) :
    set.glyph c = c := by
  have range : c.toNat < 0x20 ∨ (0x7f ≤ c.toNat ∧ c.toNat < 0xa0) := of_decide_eq_true control
  unfold glyph
  split
  · split
    · have past : specialGraphics.length ≤ c.toNat - 0x5f := by
        show 32 ≤ c.toNat - 0x5f
        omega
      rw [List.getElem?_eq_none past]
      rfl
    · rfl
  · rw [if_neg (by omega)]
  · rfl

end CharacterSet

theorem Charsets.glyph_printable (sets : Charsets) {c : Char} (printable : isControl c = false) :
    isControl (sets.glyph c) = false := by
  unfold glyph
  exact CharacterSet.glyph_printable _ printable

def Line.Printable (l : Line) : Prop := ∀ cell ∈ l.cells, isControl cell.glyph = false

theorem Line.printable_empty : Line.Printable {} := fun _ found => absurd found List.not_mem_nil

theorem Line.printable_iff (l : Line) :
    l.Printable ↔ ∀ column, isControl (l.charAt column) = false :=
  Padded.forall_mem_iff (P := fun cell : Cell => isControl cell.glyph = false) rfl l.cells

theorem Line.Brings.printable {glyphs : Char → Prop} {f : Line → Line} (brings : Brings glyphs f)
    (shown : ∀ glyph, glyphs glyph → isControl glyph = false) {l : Line} (printable : l.Printable) :
    (f l).Printable := by
  refine (printable_iff _).mpr fun column => ?_
  rcases brings l column with ⟨old, same⟩ | space | fresh
  · rw [charAt, same]
    exact (printable_iff l).mp printable old
  · rw [space]
    rfl
  · exact shown _ fresh

namespace Buffer

def Printable (b : Buffer) : Prop := ∀ line ∈ b.lines, line.Printable

variable {glyphs : Char → Prop} {resets : Prop} {b c : Buffer}

theorem printable_iff (b : Buffer) : b.Printable ↔ ∀ row, (b.lineAt row).Printable :=
  Padded.forall_mem_iff Line.printable_empty b.lines

theorem Printable.insert (printable : b.Printable) (row : Nat) : (b.insert row {}).Printable := by
  have lines := (printable_iff b).mp printable
  refine (printable_iff _).mpr fun i => ?_
  rw [lineAt_insert]
  split
  · exact lines i
  · split
    · exact Line.printable_empty
    · exact lines (i - 1)

theorem Printable.remove (printable : b.Printable) (row : Nat) : (b.remove row).Printable := by
  have lines := (printable_iff b).mp printable
  refine (printable_iff _).mpr fun i => ?_
  rw [lineAt_remove]
  split
  · exact lines i
  · exact lines (i + 1)

theorem Printable.modifyLine (printable : b.Printable) (row : Nat) {f : Line → Line}
    (edited : ∀ l : Line, l.Printable → (f l).Printable) : (b.modifyLine row f).Printable := by
  have lines := (printable_iff b).mp printable
  refine (printable_iff _).mpr fun i => ?_
  rw [lineAt_modifyLine]
  split
  · exact edited _ (lines row)
  · exact lines i

theorem Worked.printable (worked : Worked glyphs resets b c)
    (shown : ∀ glyph, glyphs glyph → isControl glyph = false) (printable : b.Printable) :
    c.Printable := by
  induction worked with
  | refl => exact printable
  | edit row brings _ ih => exact ih.modifyLine _ fun _ free => brings.printable shown free
  | replace gone fresh _ ih => exact (ih.remove _).insert _
  | scroll order _ ih => exact (ih.insert _).remove _
  | advance rows _ ih => exact ih
  | clear reset _ ih => exact ih

end Buffer

-- An operation that does not put a control character into a cell.
def Operation.isTame : Operation → Bool
  | .putChar c => !isControl c
  | _ => true

theorem Operation.isTame_of_inBounds {operation : Operation} (bounds : operation.InBounds) :
    operation.isTame = true := by
  cases operation with
  | putChar c => exact (Bool.not_eq_true' _).mpr bounds
  | _ => rfl

theorem Sequence.operations_tame (s : Sequence) :
    ∀ operation ∈ s.operations, operation.isTame = true :=
  forall_operations (fun rule listed single operation asked =>
    Operation.isTame_of_inBounds (Dispatch.table_bounded rule listed single operation asked)) s

namespace Terminal
open Sequence

structure Printable (t : Terminal) : Prop where
  normal : t.normal.Printable
  alternate : t.alternate.Printable

variable {t u : Terminal}

theorem Printable.buffer (printable : Printable t) : t.buffer.Printable := by
  unfold Terminal.buffer
  cases t.active with
  | normal => exact printable.normal
  | alternate => exact printable.alternate

theorem Works.printable {glyphs : Char → Prop} {resets : Prop} (works : Works glyphs resets t u)
    (shown : ∀ glyph, glyphs glyph → isControl glyph = false) (printable : Printable t) :
    Printable u :=
  ⟨works.normal.printable shown printable.normal,
    works.alternate.printable shown printable.alternate⟩

theorem brought_printable {operation : Operation} (tame : operation.isTame = true) :
    ∀ glyph, t.brought operation glyph → isControl glyph = false := by
  intro glyph shown
  cases operation with
  | putChar c =>
    have printable : isControl c = false := by simpa [Operation.isTame] using tame
    cases shown
    exact t.charsets.glyph_printable printable
  | screenAlignmentTest =>
    cases shown
    rfl
  | setLineSize size =>
    cases size with
    | screenAlignmentTest =>
      cases shown
      rfl
    | _ => cases shown
  | _ => cases shown

theorem printable_stable : StableUnder (fun operation => operation.isTame = true) Printable where
  input _ _ _ printable := ⟨printable.normal, printable.alternate⟩
  perform t operation tame printable :=
    (perform_works t operation).printable (brought_printable tame) printable

theorem asked_tame (t : Terminal) (bytes : List UInt8) :
    ∀ operation ∈ t.asked bytes, operation.isTame = true := by
  induction t, bytes using apply.induct with
  | case1 t bytes scanned =>
    rw [asked_incomplete scanned]
    exact List.forall_mem_nil _
  | case2 t bytes fault rest scanned ih =>
    rw [asked_malformed scanned]
    exact ih
  | case3 t bytes s rest scanned ih =>
    rw [asked_unit scanned, List.forall_mem_append]
    exact ⟨operations_tame s, ih⟩

theorem askedByAll_tame (t : Terminal) {actions : List Action}
    (tame : ∀ c, .perform (.putChar c) ∈ actions → isControl c = false) :
    ∀ operation ∈ t.askedByAll actions, operation.isTame = true := by
  induction actions generalizing t with
  | nil => exact List.forall_mem_nil _
  | cons action rest ih =>
    rw [askedByAll, List.forall_mem_append]
    refine ⟨?_, ih _ fun c later => tame c (List.mem_cons_of_mem _ later)⟩
    cases action with
    | feed bytes => exact asked_tame _ _
    | resize size => exact List.forall_mem_nil _
    | dispatch sequence => exact operations_tame sequence
    | perform operation =>
      intro asked found
      rw [List.mem_singleton.mp found]
      cases operation with
      | putChar c =>
        have shown := tame c List.mem_cons_self
        simp [Operation.isTame, shown]
      | _ => rfl

theorem new_printable (size : Extent) (identity : Identity) (listening : Bool) :
    Printable (new size identity listening) :=
  ⟨nofun, nofun⟩

theorem resize_printable (printable : Printable t) (size : Extent) :
    Printable (t.resize size) := by
  have works : Works (fun _ => False) False t (t.resize size) := resize_works t size
  exact works.printable nofun printable

theorem run_printable (printable : Printable t) {actions : List Action}
    (tame : ∀ c, .perform (.putChar c) ∈ actions → isControl c = false) :
    Printable (t.run actions) :=
  printable_stable.run (askedByAll_tame t tame)
    (fun _ size _ kept => resize_printable kept size) printable

theorem screenText_rows (printable : Printable t) (tall : 0 < t.window.rows) :
    t.screenText.toList.splitOn '\n' = t.screenRows := by
  have lines : ∀ row ∈ t.screenRows, '\n' ∉ row := by
    intro row shown newline
    obtain ⟨y, -, rfl⟩ := List.mem_map.mp shown
    obtain ⟨x, -, same⟩ := List.mem_map.mp newline
    have line := (Buffer.printable_iff _).mp printable.buffer (t.buffer.topRow + y)
    have cell := (Line.printable_iff _).mp line x
    have here : (t.buffer.lineAt (t.buffer.topRow + y)).charAt x = '\n' := same
    rw [here] at cell
    cases cell
  have some : t.screenRows ≠ [] := by
    intro none
    have rows : t.screenRows.length = t.window.rows := by simp [screenRows]
    rw [none] at rows
    exact Nat.ne_of_lt tall rows
  have text : t.screenText.toList = ['\n'].intercalate t.screenRows := by
    simp [screenText, String.toList_intercalate, Function.comp_def]
  rw [text]
  exact List.splitOn_intercalate '\n' lines some

theorem putCell_found (t : Terminal) (cell : Cell) (room : t.cursor.column < t.page.columns) :
    (t.putCell cell).view t.cursor.row t.cursor.column = cell := by
  unfold putCell
  dsimp only
  split
  · refine (congrFun (congrFun (reportCells_view ..) _) _).trans ?_
    refine (editLine_view ..).trans ?_
    rw [if_pos rfl, Line.cellAt_trim, if_pos room, Line.cellAt_insert, if_neg (Nat.lt_irrefl _),
      if_pos rfl]
  · refine (congrFun (congrFun (raiseAll_view ..) _) _).trans ?_
    refine (editLine_view ..).trans ?_
    rw [if_pos rfl, Line.cellAt_trim, if_pos room, Line.cellAt_set, if_pos rfl]

theorem putChar_control (grid : InGrid t) {c : Char} (control : isControl c = true) :
    ¬Printable (t.putChar c) := by
  intro printable
  have stored := putCell_found t.wrapped ⟨t.charsets.glyph c, t.cursor.rendition⟩
    (wrapped_column grid)
  have line := (Buffer.printable_iff _).mp printable.buffer
    ((t.putChar c).buffer.topRow + t.wrapped.cursor.row)
  have cell := (Line.printable_iff _).mp line t.wrapped.cursor.column
  have shown : isControl (t.charsets.glyph c) = false := by
    have same := congrArg Cell.glyph stored
    exact (congrArg isControl same.symm).trans cell
  rw [Charsets.glyph, CharacterSet.glyph_control _ control, control] at shown
  cases shown

-- For any input in any encoding, any character sets and any sizes. Only a host that
-- puts a control character into a cell itself gets one there.
theorem grid_printable_iff (size : Extent) (identity : Identity) (listening : Bool)
    (actions : List Action) :
    (∀ past, past <+: actions →
      let t := (new size identity listening).run past
      let rows := t.screenText.toList.splitOn '\n'
      (∀ line ∈ t.normal.lines ++ t.alternate.lines, ∀ cell ∈ line.cells,
        isControl cell.glyph = false) ∧
        rows = t.screenRows ∧ rows.length = t.window.rows ∧
          ∀ row ∈ rows, row.length = t.window.columns) ↔
      ∀ c, .perform (.putChar c) ∈ actions → isControl c = false := by
  constructor
  · intro always c performed
    obtain ⟨before, after, parts⟩ := List.append_of_mem performed
    have made : before ++ [.perform (.putChar c)] <+: actions := ⟨after, by rw [parts]; simp⟩
    obtain ⟨stored, -⟩ := always _ made
    rw [run, List.foldl_append] at stored
    obtain ⟨normal, alternate⟩ := List.forall_mem_append.mp stored
    have grid := run_inGrid (new_inGrid size identity listening) before
    cases control : isControl c with
    | false => rfl
    | true => exact absurd ⟨normal, alternate⟩ (putChar_control grid control)
  · intro tame past made t rows
    have printable : Printable t := run_printable (new_printable size identity listening)
      fun c found => tame c (made.subset found)
    have grid : InGrid t := run_inGrid (new_inGrid size identity listening) past
    have text : rows = t.screenRows := screenText_rows printable grid.tall
    refine ⟨List.forall_mem_append.mpr ⟨printable.normal, printable.alternate⟩, text, ?_, ?_⟩
    · rw [text]
      simp [screenRows]
    · intro row shown
      rw [text] at shown
      obtain ⟨y, -, rfl⟩ := List.mem_map.mp shown
      simp [visibleChars]

end Terminal

end VideoTerminal

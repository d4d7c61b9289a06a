import VideoTerminal.Proofs.Paragraph
import VideoTerminal.Screen.Draw
import VideoTerminal.Terminal.Feed

-- What a drawing shows at each position of the host screen, and where it leaves the screen
-- as it was. Three clips meet here: the window of the terminal, the area that is left below
-- a title, and the end of the area on the right.
namespace VideoTerminal.Screen

def HoldsSingles (kit : Toolkit) (t : Terminal) : Prop :=
  ∀ row < t.window.rows, ∀ column < t.window.columns, kit.columns (t.visibleChar column row) = 1

variable {kit : Toolkit} {c : Canvas} {width height : Nat} {area : Area} {t : Terminal}

theorem map_range_get? {α : Type} (f : Nat → α) (count i : Nat) :
    ((List.range count).map f)[i]? = if i < count then some (f i) else none := by
  rw [List.getElem?_map]
  split
  · rename_i inside
    rw [List.getElem?_range inside]
    rfl
  · rename_i outside
    rw [List.getElem?_eq_none (by rw [List.length_range]; exact Nat.le_of_not_lt outside)]
    rfl

theorem windowLines_get? (t : Terminal) (columns rows x y : Nat) :
    ((windowLines t columns rows)[y]?.bind fun spans => spans[x]?) =
      if x < min columns t.window.columns ∧ y < min rows t.window.rows then
        some (cellSpan (t.visibleCell x y) t.cursor.reverseVideo)
      else none := by
  rw [windowLines, map_range_get?]
  split
  · rename_i tall
    rw [Option.bind_some, rowSpans, map_range_get?]
    simp only [tall, and_true]
  · rename_i low
    exact (if_neg fun shown => low shown.2).symm

theorem windowLines_single (holds : HoldsSingles kit t) (columns rows : Nat) :
    ∀ line ∈ windowLines t columns rows, ∀ span ∈ line, kit.Single span := by
  intro line listed span found
  obtain ⟨row, inRows, rfl⟩ := List.mem_map.mp listed
  obtain ⟨column, inColumns, rfl⟩ := List.mem_map.mp found
  have tall := Nat.lt_min.mp (List.mem_range.mp inRows)
  have wide := Nat.lt_min.mp (List.mem_range.mp inColumns)
  exact ⟨t.visibleChar column row, rfl, holds row tall.2 column wide.2⟩

section Content

variable (lawful : kit.Lawful)
include lawful

theorem contentArea_titled (area : Area) : contentArea kit area true =
    ⟨area.x, area.y + min 1 area.height, area.width, area.height - 1⟩ := by
  rw [contentArea, if_pos rfl, lawful.splitFirst]

theorem contentArea_has_iff (area : Area) (showTitle : Bool) (x y : Nat) :
    (contentArea kit area showTitle).Has x y ↔
      area.Has x y ∧ (showTitle = true → y ≠ area.y) := by
  cases showTitle with
  | false => exact ⟨fun has => ⟨has, nofun⟩, fun has => has.1⟩
  | true =>
    rw [contentArea_titled lawful]
    constructor
    · rintro ⟨left, right, top, low⟩
      dsimp only at left right top low
      exact ⟨⟨left, right, by omega, by omega⟩, fun _ => by omega⟩
    · rintro ⟨⟨left, right, top, low⟩, below⟩
      have other := below rfl
      refine ⟨left, right, ?_, ?_⟩ <;> dsimp only <;> omega

theorem contentArea_inside (inside : area.Inside width height) (showTitle : Bool) :
    (contentArea kit area showTitle).Inside width height := by
  obtain ⟨right, low⟩ := inside
  cases showTitle with
  | false => exact ⟨right, low⟩
  | true =>
    rw [contentArea_titled lawful]
    refine ⟨right, ?_⟩
    dsimp only
    omega

theorem drawTitle_at? (c : Canvas) (title : String) {x y : Nat}
    (away : area.Has x y → y ≠ area.y) : (drawTitle kit c area title).at? x y = c.at? x y := by
  refine lawful.confined _ _ _ _ _ fun first => ?_
  rw [lawful.splitFirst] at first
  obtain ⟨left, right, top, low⟩ := first
  dsimp only at left right top low
  exact away ⟨left, right, top, by omega⟩ (by omega)

theorem titled_at? (c : Canvas) (title : String) (showTitle : Bool) {x y : Nat}
    (away : area.Has x y → (contentArea kit area showTitle).Has x y) :
    (if showTitle then drawTitle kit c area title else c).at? x y = c.at? x y := by
  cases showTitle with
  | false => rfl
  | true =>
    exact drawTitle_at? lawful c title fun has =>
      ((contentArea_has_iff lawful ..).mp (away has)).2 rfl

theorem titled_sized (frame : c.Sized width height) (title : String) (showTitle : Bool) :
    (if showTitle then drawTitle kit c area title else c).Sized width height := by
  cases showTitle with
  | false => exact frame
  | true => exact lawful.sized _ frame _

end Content

theorem placeCursor_rows (c : Canvas) (area : Area) (t : Terminal) :
    (placeCursor c area t).rows = c.rows := by
  unfold placeCursor
  dsimp only
  split <;> rfl

theorem placeCursor_cursor (c : Canvas) (area : Area) (t : Terminal) :
    (placeCursor c area t).cursor =
      let row := t.cursorPosition.1
      let column := t.cursorPosition.2
      if t.cursorVisible ∧ area.Has (area.x + column) (area.y + row) then
        some (area.x + column, area.y + row)
      else c.cursor := by
  have inside : ∀ column row, area.Has (area.x + column) (area.y + row) ↔
      column < area.width ∧ row < area.height := by
    intro column row
    exact ⟨fun ⟨_, right, _, low⟩ => by omega,
      fun ⟨wide, tall⟩ => ⟨by omega, by omega, by omega, by omega⟩⟩
  simp only [placeCursor, inside]
  split <;> rfl

theorem draw_at? (kit : Toolkit) (c : Canvas) (area : Area) (t : Terminal) (showTitle : Bool)
    (x y : Nat) :
    let titled := if showTitle then drawTitle kit c area t.title else c
    let content := contentArea kit area showTitle
    (draw kit c area t showTitle).at? x y =
      (kit.paragraph titled content (windowLines t content.width content.height)).at? x y := by
  intro titled content
  rw [draw, Canvas.at?, placeCursor_rows]
  rfl

theorem draw_inside (lawful : kit.Lawful) (frame : c.Sized width height)
    (inside : area.Inside width height) (holds : HoldsSingles kit t) (showTitle : Bool) {x y : Nat}
    (has : (contentArea kit area showTitle).Has x y) :
    let content := contentArea kit area showTitle
    (draw kit c area t showTitle).at? x y = (c.at? x y).map fun old =>
      (if x - content.x < min content.width t.window.columns ∧
          y - content.y < min content.height t.window.rows then
        some (cellSpan (t.visibleCell (x - content.x) (y - content.y)) t.cursor.reverseVideo)
      else none).elim old (·.glyph.onto old) := by
  intro content
  rw [draw_at?, lawful.singles (titled_sized lawful frame _ _) (contentArea_inside lawful inside _)
    (windowLines_single holds _ _) x y has, titled_at? lawful _ _ _ fun _ => has]
  simp only [windowLines_get?]
  rfl

theorem draw_outside (lawful : kit.Lawful) (c : Canvas) (t : Terminal) (showTitle : Bool)
    {x y : Nat} (away : ¬area.Has x y) : (draw kit c area t showTitle).at? x y = c.at? x y := by
  rw [draw_at?, lawful.confined, titled_at? lawful _ _ _ fun has => absurd has away]
  exact fun has => away ((contentArea_has_iff lawful ..).mp has).1

theorem draw_shows (lawful : kit.Lawful) (frame : c.Sized width height)
    (inside : area.Inside width height) (holds : HoldsSingles kit t) (showTitle : Bool) {x y : Nat}
    (wide : x < min (contentArea kit area showTitle).width t.window.columns)
    (tall : y < min (contentArea kit area showTitle).height t.window.rows) :
    let content := contentArea kit area showTitle
    let style := cellStyle (t.visibleCell x y).rendition t.cursor.reverseVideo
    ∃ old, c.at? (content.x + x) (content.y + y) = some old ∧
      (draw kit c area t showTitle).at? (content.x + x) (content.y + y) =
        some ⟨[t.visibleChar x y], style.onto old.style⟩ := by
  intro content style
  change x < min content.width t.window.columns at wide
  change y < min content.height t.window.rows at tall
  have room := contentArea_inside lawful inside showTitle
  have right : content.x + content.width ≤ width := room.right
  have low : content.y + content.height ≤ height := room.low
  have has : content.Has (content.x + x) (content.y + y) := ⟨by omega, by omega, by omega, by omega⟩
  obtain ⟨old, found⟩ := frame.at?_some (x := content.x + x) (y := content.y + y)
    (by omega) (by omega)
  refine ⟨old, found, ?_⟩
  rw [draw_inside lawful frame inside holds showTitle has, found, Nat.add_sub_cancel_left,
    Nat.add_sub_cancel_left, Option.map_some, if_pos ⟨wide, tall⟩]
  rfl

theorem draw_bare (lawful : kit.Lawful) (frame : c.Sized width height)
    (inside : area.Inside width height) (holds : HoldsSingles kit t) (showTitle : Bool) {x y : Nat}
    (has : (contentArea kit area showTitle).Has x y)
    (outside : t.window.columns ≤ x - (contentArea kit area showTitle).x ∨
      t.window.rows ≤ y - (contentArea kit area showTitle).y) :
    (draw kit c area t showTitle).at? x y = c.at? x y := by
  rw [draw_inside lawful frame inside holds showTitle has, if_neg (by omega)]
  exact congrFun Option.map_id_fun' _

theorem draw_sized (lawful : kit.Lawful) (frame : c.Sized width height) (t : Terminal)
    (showTitle : Bool) : (draw kit c area t showTitle).Sized width height := by
  rw [Canvas.Sized, draw, placeCursor_rows]
  exact lawful.sized _ (titled_sized lawful frame _ _) _

theorem draw_cursor (lawful : kit.Lawful) (c : Canvas) (area : Area) (t : Terminal)
    (showTitle : Bool) :
    (draw kit c area t showTitle).cursor =
      let content := contentArea kit area showTitle
      let row := t.cursorPosition.1
      let column := t.cursorPosition.2
      if t.cursorVisible ∧ content.Has (content.x + column) (content.y + row) then
        some (content.x + column, content.y + row)
      else c.cursor := by
  have titled : (if showTitle then drawTitle kit c area t.title else c).cursor = c.cursor := by
    cases showTitle with
    | false => rfl
    | true => exact lawful.cursor ..
  refine (placeCursor_cursor ..).trans ?_
  rw [lawful.cursor, titled]

-- Of any canvas, in any area inside it. What was switched on at a place before stays on;
-- a screen that was cleared first has nothing switched on.
theorem draw_clips (lawful : kit.Lawful) (frame : c.Sized width height)
    (inside : area.Inside width height) (holds : HoldsSingles kit t) (showTitle : Bool) :
    let content := contentArea kit area showTitle
    let drawn := draw kit c area t showTitle
    (∀ x y, content.Has x y ↔ area.Has x y ∧ (showTitle = true → y ≠ area.y)) ∧
      (∀ x y, x < min content.width t.window.columns → y < min content.height t.window.rows →
        let r := (t.visibleCell x y).rendition
        let swapped := r.reverse != t.cursor.reverseVideo
        let foreground := Paint.palette (if swapped then r.background else r.foreground)
        let background := Paint.palette (if swapped then r.foreground else r.background)
        let style : Style :=
          { foreground := if r.hidden then background else foreground
            background
            bold := r.bright || r.standout
            dim := r.dim
            underlined := r.underscore
            slowBlink := r.blink }
        ∃ old, c.at? (content.x + x) (content.y + y) = some old ∧
          drawn.at? (content.x + x) (content.y + y) =
            some ⟨[t.visibleChar x y], style.onto old.style⟩ ∧
          (old.style.isPlain = true → style.onto old.style = style)) ∧
      (∀ x y, content.Has x y →
        (t.window.columns ≤ x - content.x ∨ t.window.rows ≤ y - content.y) →
          drawn.at? x y = c.at? x y) ∧
      (∀ x y, ¬area.Has x y → drawn.at? x y = c.at? x y) ∧
      drawn.Sized width height ∧
      let row := t.cursorPosition.1
      let column := t.cursorPosition.2
      drawn.cursor =
        if t.cursorVisible ∧ content.Has (content.x + column) (content.y + row) then
          some (content.x + column, content.y + row)
        else c.cursor := by
  intro content drawn
  refine ⟨contentArea_has_iff lawful area showTitle, ?_, ?_, fun x y => draw_outside lawful c t _,
    draw_sized lawful frame t showTitle, draw_cursor lawful c area t showTitle⟩
  · intro x y wide tall r swapped foreground background style
    obtain ⟨old, found, shown⟩ := draw_shows lawful frame inside holds showTitle wide tall
    refine ⟨old, found, shown, fun plain => Style.onto_plain plain ?_ nofun⟩
    change (if r.hidden then background else foreground) ≠ .untouched
    split <;> nofun
  · intro x y has outside
    exact draw_bare lawful frame inside holds showTitle has outside

theorem draw_clips_titled :
    let reversed := Utf8.encodeString "\x1b]0;t\x07\x1b[7mab\r\n\x1b[0mcdefg"
    let t := ((Terminal.new ⟨5, 3⟩ {} true).feed reversed).2
    let drawn := draw .standard (Canvas.blank 6 4) ⟨1, 1, 3, 3⟩ t true
    drawn.at? 1 2 = some ⟨['a'], { foreground := .palette .black, background := .palette .white }⟩ ∧
      drawn.at? 4 3 = some {} ∧ drawn.at? 0 0 = some {} ∧ drawn.cursor = none := by
  intro reversed t drawn
  have frame : (Canvas.blank 6 4).Sized 6 4 := rfl
  have inside : Area.Inside ⟨1, 1, 3, 3⟩ 6 4 := ⟨by decide, by decide⟩
  have holds : HoldsSingles .standard t := by
    unfold HoldsSingles
    decide +kernel
  obtain ⟨-, shown, -, outside, -, cursor⟩ :=
    draw_clips Toolkit.standard_lawful frame inside holds true
  obtain ⟨old, found, first, fresh⟩ := shown 0 0 (by decide +kernel) (by decide +kernel)
  obtain rfl : ({} : Glyph) = old := Option.some.inj found
  refine ⟨?_, ?_, ?_, ?_⟩
  · rw [fresh rfl] at first
    exact first.trans (by decide +kernel)
  · exact outside 4 3 (by decide)
  · exact outside 0 0 (by decide)
  · exact cursor.trans (by decide +kernel)

end VideoTerminal.Screen

import VideoTerminal.Color

namespace VideoTerminal.Screen

inductive Paint where
  | untouched
  | palette (color : Color)
  | darkGray
  | brightWhite
  deriving DecidableEq, Repr, Inhabited

structure Style where
  foreground : Paint := .untouched
  background : Paint := .untouched
  bold : Bool := false
  dim : Bool := false
  underlined : Bool := false
  slowBlink : Bool := false
  deriving DecidableEq, Repr, Inhabited

namespace Style

def isPlain (s : Style) : Bool := !(s.bold || s.dim || s.underlined || s.slowBlink)

-- A colour that is not given leaves the old one, and what is switched on stays on.
def onto (new old : Style) : Style where
  foreground := if new.foreground = .untouched then old.foreground else new.foreground
  background := if new.background = .untouched then old.background else new.background
  bold := old.bold || new.bold
  dim := old.dim || new.dim
  underlined := old.underlined || new.underlined
  slowBlink := old.slowBlink || new.slowBlink

theorem onto_default (s : Style) : s.onto {} = s := by
  obtain ⟨foreground, background, _, _, _, _⟩ := s
  cases foreground <;> cases background <;> rfl

theorem onto_plain {new old : Style} (plain : old.isPlain = true)
    (foreground : new.foreground ≠ .untouched) (background : new.background ≠ .untouched) :
    new.onto old = new := by
  simp only [isPlain, Bool.not_eq_true', Bool.or_eq_false_iff] at plain
  obtain ⟨⟨⟨bold, dim⟩, underlined⟩, slowBlink⟩ := plain
  simp [onto, foreground, background, bold, dim, underlined, slowBlink]

end Style

structure Glyph where
  cluster : List Char := [' ']
  style : Style := {}
  deriving DecidableEq, Repr, Inhabited

def Glyph.onto (new old : Glyph) : Glyph := { new with style := new.style.onto old.style }

structure Span where
  text : List Char
  style : Style := {}
  deriving DecidableEq, Repr, Inhabited

def Span.glyph (s : Span) : Glyph := ⟨s.text, s.style⟩

structure Area where
  x : Nat
  y : Nat
  width : Nat
  height : Nat
  deriving DecidableEq, Repr, Inhabited

namespace Area

def within (x y width height : Nat) : Area :=
  ⟨x, y, min width (0xffff - x), min height (0xffff - y)⟩

structure Inside (area : Area) (width height : Nat) : Prop where
  right : area.x + area.width ≤ width
  low : area.y + area.height ≤ height

structure Has (area : Area) (x y : Nat) : Prop where
  left : area.x ≤ x
  right : x < area.x + area.width
  top : area.y ≤ y
  low : y < area.y + area.height

instance (area : Area) (x y : Nat) : Decidable (area.Has x y) :=
  decidable_of_iff
    ((area.x ≤ x ∧ x < area.x + area.width) ∧ area.y ≤ y ∧ y < area.y + area.height)
    ⟨fun ⟨⟨left, right⟩, top, low⟩ => ⟨left, right, top, low⟩,
      fun has => ⟨⟨has.left, has.right⟩, has.top, has.low⟩⟩

end Area

structure Canvas where
  rows : List (List Glyph)
  cursor : Option (Nat × Nat) := none
  deriving DecidableEq, Repr, Inhabited

namespace Canvas

def blank (width height : Nat) : Canvas :=
  { rows := List.replicate height (List.replicate width {}) }

def at? (c : Canvas) (x y : Nat) : Option Glyph := c.rows[y]?.bind fun row => row[x]?

def Sized (c : Canvas) (width height : Nat) : Prop :=
  c.rows.map List.length = List.replicate height width

variable {c d : Canvas} {width height : Nat}

theorem Sized.length (frame : c.Sized width height) : c.rows.length = height := by
  simpa using congrArg List.length frame

theorem Sized.row_length (frame : c.Sized width height) {row : List Glyph}
    (found : row ∈ c.rows) : row.length = width := by
  have listed : row.length ∈ List.replicate height width := frame ▸ List.mem_map_of_mem found
  exact List.eq_of_mem_replicate listed

theorem Sized.at?_some (frame : c.Sized width height) {x y : Nat} (wide : x < width)
    (tall : y < height) : ∃ g, c.at? x y = some g := by
  have below : y < c.rows.length := by rw [frame.length]; exact tall
  have room := frame.row_length (List.getElem_mem below)
  refine ⟨c.rows[y][x], ?_⟩
  simp [at?, below, room, wide]

theorem ext_at? (lengths : d.rows.map List.length = c.rows.map List.length)
    (shown : ∀ x y, d.at? x y = c.at? x y) (cursor : d.cursor = c.cursor) : d = c := by
  have rows : d.rows = c.rows := by
    refine List.ext_getElem (by simpa using congrArg List.length lengths) fun y inD inC => ?_
    refine List.ext_getElem? fun x => ?_
    simpa [at?, inD, inC] using shown x y
  obtain ⟨_, _⟩ := d
  obtain ⟨_, _⟩ := c
  cases rows
  cases cursor
  rfl

end Canvas

-- How many columns the picture of a character takes, the cut of an area below its
-- first row, and lines written into an area without wrapping. Every drawing here goes
-- through these; nothing else of the library is used.
structure Toolkit where
  columns : Char → Nat
  splitFirst : Area → Area × Area
  paragraph : Canvas → Area → List (List Span) → Canvas

def Toolkit.Single (kit : Toolkit) (span : Span) : Prop :=
  ∃ c, span.text = [c] ∧ kit.columns c = 1

-- What is relied on. Of text that is not made of single columns nothing is assumed
-- but that it keeps to its area.
structure Toolkit.Lawful (kit : Toolkit) : Prop where
  splitFirst : ∀ area, kit.splitFirst area =
    ({ area with height := min 1 area.height },
      { area with y := area.y + min 1 area.height, height := area.height - 1 })
  confined : ∀ c area lines x y, ¬area.Has x y → (kit.paragraph c area lines).at? x y = c.at? x y
  lengths : ∀ c area lines,
    (kit.paragraph c area lines).rows.map List.length = c.rows.map List.length
  cursor : ∀ c area lines, (kit.paragraph c area lines).cursor = c.cursor
  singles : ∀ {c : Canvas} {area : Area} {lines : List (List Span)} {width height : Nat},
    c.Sized width height → area.Inside width height →
    (∀ line ∈ lines, ∀ span ∈ line, kit.Single span) →
    ∀ x y, area.Has x y → (kit.paragraph c area lines).at? x y =
      (c.at? x y).map fun old =>
        (lines[y - area.y]?.bind fun spans => spans[x - area.x]?).elim old (·.glyph.onto old)

namespace Toolkit.Lawful

variable {kit : Toolkit} (lawful : kit.Lawful) (c : Canvas) (lines : List (List Span))
include lawful

theorem sized {c : Canvas} {width height : Nat} (frame : c.Sized width height) (area : Area) :
    (kit.paragraph c area lines).Sized width height :=
  (lawful.lengths c area lines).trans frame

theorem paragraph_flat {area : Area} (flat : area.height = 0) :
    kit.paragraph c area lines = c := by
  refine Canvas.ext_at? (lawful.lengths ..) (fun x y => lawful.confined _ _ _ x y ?_)
    (lawful.cursor ..)
  intro has
  have top := has.top
  have low := has.low
  omega

end Toolkit.Lawful

end VideoTerminal.Screen

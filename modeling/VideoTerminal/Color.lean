namespace VideoTerminal

inductive Color where
  | black
  | red
  | green
  | yellow
  | blue
  | magenta
  | cyan
  | white
  deriving DecidableEq, Repr, Inhabited

namespace Color

def all : List Color := [black, red, green, yellow, blue, magenta, cyan, white]

def index : Color → Nat
  | black => 0
  | red => 1
  | green => 2
  | yellow => 3
  | blue => 4
  | magenta => 5
  | cyan => 6
  | white => 7

def ofIndex? (index : Nat) : Option Color := all[index]?

def ofChannels (red green blue : Bool) : Color :=
  match red, green, blue with
  | false, false, false => .black
  | true, false, false => .red
  | false, true, false => .green
  | true, true, false => .yellow
  | false, false, true => .blue
  | true, false, true => .magenta
  | false, true, true => .cyan
  | true, true, true => .white

-- The palette colour that stands for an entry of the 256-colour table. Entries
-- below sixteen repeat the palette twice. In the cube of six levels a channel,
-- and in the greys that follow it, levels of the upper half count as lit; past
-- the greys everything is white.
def ofXterm256 (entry : Nat) : Color :=
  if entry < 16 then (ofIndex? (entry % 8)).getD .white
  else if entry < 232 then
    let cube := entry - 16
    ofChannels (decide (2 < cube / 36)) (decide (2 < cube / 6 % 6)) (decide (2 < cube % 6))
  else if entry < 244 then .black
  else .white

def ofRgb (red green blue : Nat) : Color :=
  ofChannels (decide (128 ≤ red)) (decide (128 ≤ green)) (decide (128 ≤ blue))

theorem index_lt (c : Color) : c.index < 8 := by
  cases c <;> decide

theorem ofIndex?_index (c : Color) : ofIndex? c.index = some c := by
  cases c <;> rfl

theorem index_of_ofIndex? {i : Nat} {c : Color} (found : ofIndex? i = some c) : c.index = i := by
  match i, found with
  | 0, found | 1, found | 2, found | 3, found | 4, found | 5, found | 6, found | 7, found =>
    cases Option.some.inj found; rfl
  | _ + 8, found => simp [ofIndex?, all] at found

end Color

end VideoTerminal

import VideoTerminal.Color

namespace VideoTerminal

structure Rendition where
  foreground : Color := .white
  background : Color := .black
  bright : Bool := false
  dim : Bool := false
  standout : Bool := false
  underscore : Bool := false
  blink : Bool := false
  reverse : Bool := false
  hidden : Bool := false
  deriving DecidableEq, Repr, Inhabited

namespace Rendition

def select (r : Rendition) (code : Nat) : Rendition :=
  match code with
  | 0 => {}
  | 1 => { r with bright := true }
  | 2 => { r with dim := true, bright := false }
  | 3 => { r with standout := true }
  | 4 => { r with underscore := true }
  | 5 => { r with blink := true }
  | 7 => { r with reverse := true }
  | 8 => { r with hidden := true }
  | 22 => { r with bright := false, dim := false }
  | 23 => { r with standout := false }
  | 24 => { r with underscore := false }
  | 25 => { r with blink := false }
  | 27 => { r with reverse := false }
  | 28 => { r with hidden := false }
  | 39 => { r with foreground := .white }
  | 49 => { r with background := .black }
  | code =>
    if 30 ≤ code ∧ code ≤ 37 then
      { r with foreground := (Color.ofIndex? (code - 30)).getD r.foreground }
    else if 40 ≤ code ∧ code ≤ 47 then
      { r with background := (Color.ofIndex? (code - 40)).getD r.background }
    else r

-- Reading of the extended colours: 38 and 48 open a group that selects a
-- foreground or a background from the 256-colour table (5, entry) or by its
-- channels (2, red, green, blue). A group folds to one palette code. A group
-- cut off by the end of the list yields nothing, and an opener that no 5 or 2
-- follows is dropped alone. The bright codes 90 to 97 and 100 to 107 fold onto
-- the plain ones.
def codes : List Nat → List Nat
  | [] => []
  | p :: rest =>
    if p = 38 ∨ p = 48 then
      match rest with
      | 5 :: entry :: rest => (p - 8 + (Color.ofXterm256 entry).index) :: codes rest
      | [5] => []
      | 2 :: red :: green :: blue :: rest =>
        (p - 8 + (Color.ofRgb red green blue).index) :: codes rest
      | 2 :: _ => []
      | rest => codes rest
    else if (90 ≤ p ∧ p ≤ 97) ∨ (100 ≤ p ∧ p ≤ 107) then (p - 60) :: codes rest
    else p :: codes rest

end Rendition

end VideoTerminal

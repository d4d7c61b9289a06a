import VideoTerminal.Proofs.Heir
import VideoTerminal.Proofs.Scanning

-- Input may arrive in pieces of any size, cut anywhere.
namespace VideoTerminal.Terminal
open Sequence

def feedAll (t : Terminal) : List (List UInt8) → Bool × Terminal
  | [] => (false, t)
  | bytes :: rest =>
    let (changed, fed) := t.feed bytes
    let (later, after) := fed.feedAll rest
    (changed || later, after)

theorem apply_without_unread (t : Terminal) (unread bytes : List UInt8) :
    { t with unread }.apply bytes = t.apply bytes := by
  have carried : { t with unread } = t.heir { unread := some unread } :=
    (t.heir_of_input false (some unread)).symm
  rw [carried, heir_apply, Past.afterAll_of_none rfl]
  exact heir_of_input _ false none

theorem apply_with_changed (t : Terminal) (changed : Bool) (bytes : List UInt8) :
    { t with changed := changed || t.changed }.apply bytes =
      { t.apply bytes with changed := changed || (t.apply bytes).changed } := by
  have carried : { t with changed := changed || t.changed } = t.heir { changed } :=
    (t.heir_of_input changed none).symm
  rw [carried, heir_apply, Past.afterAll_of_none rfl]
  exact heir_of_input _ changed none

-- Input in two parts: what the first leaves unread goes in front of the second.
theorem apply_append (t : Terminal) (bytes more : List UInt8) :
    t.apply (bytes ++ more) = (t.apply bytes).apply ((t.apply bytes).unread ++ more) := by
  induction t, bytes using apply.induct with
  | case1 t bytes scanned =>
    rw [apply_incomplete scanned]
    exact (apply_without_unread ..).symm
  | case2 t bytes fault rest scanned ih =>
    have later : scan t.encoding (bytes ++ more) = .malformed fault (rest ++ more) := by
      rw [scan_append more (by simp [scanned]), scanned]; rfl
    rw [apply_malformed scanned, apply_malformed later, ih]
  | case3 t bytes s rest scanned ih =>
    have later : scan t.encoding (bytes ++ more) = .unit s (rest ++ more) := by
      rw [scan_append more (by simp [scanned]), scanned]; rfl
    rw [apply_unit scanned, apply_unit later, ih]

theorem feed_append (t : Terminal) (bytes more : List UInt8) :
    t.feed (bytes ++ more) =
      ((t.feed bytes).1 || ((t.feed bytes).2.feed more).1, ((t.feed bytes).2.feed more).2) := by
  have parts := apply_append { t with unread := [], changed := false } (t.unread ++ bytes) more
  simp only [feed, ← List.append_assoc, parts]
  generalize { t with unread := [], changed := false }.apply (t.unread ++ bytes) = half
  have lowered := apply_with_changed { half with unread := [], changed := false } half.changed
    (half.unread ++ more)
  have whole : half.apply (half.unread ++ more) =
      { half with unread := [], changed := half.changed || false }.apply (half.unread ++ more) := by
    rw [Bool.or_false]
    exact (apply_without_unread half [] _).symm
  rw [whole, lowered, Bool.or_assoc]

theorem feedAll_flatten (t : Terminal) (first : List UInt8) (rest : List (List UInt8)) :
    t.feedAll (first :: rest) = t.feed (first :: rest).flatten := by
  induction rest generalizing t first with
  | nil => simp [feedAll]
  | cons next rest ih =>
    rw [List.flatten_cons, feed_append, ← ih]; rfl

end VideoTerminal.Terminal

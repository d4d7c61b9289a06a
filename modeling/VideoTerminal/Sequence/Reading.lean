import VideoTerminal.ByteReader
import VideoTerminal.Sequence.Scan

-- Taking units out of a byte reader. Each attempt is a transaction: it is
-- rolled back when the input runs out and committed otherwise.
namespace VideoTerminal.ByteReader
open Sequence

def next (encoding : Encoding) (r : ByteReader) : Option (Except Fault Sequence) × ByteReader :=
  let opened := r.mark
  let taken (rest : List UInt8) := opened.advance (opened.unread.length - rest.length)
  match scan encoding opened.unread with
  | .incomplete => (none, opened.rollback)
  | .malformed fault rest => (some (.error fault), (taken rest).commit)
  | .unit sequence rest => (some (.ok sequence), (taken rest).commit)

theorem next_remaining {encoding : Encoding} {r after : ByteReader}
    {found : Except Fault Sequence} (taken : r.next encoding = (some found, after)) :
    after.remaining < r.remaining := by
  have same : r.mark.unread = r.unread := rfl
  have length : r.unread.length = r.remaining := by simp [unread, remaining]
  simp only [next, same] at taken
  have shrinks : ∀ rest, (scan encoding r.unread).rest? = some rest →
      ((r.mark.advance (r.unread.length - rest.length)).commit).remaining < r.remaining := by
    intro rest left
    have shorter := scan_shorter left
    simp only [commit, advance, mark, remaining] at length shorter ⊢
    omega
  split at taken
  · cases taken
  · rename_i fault rest scanned
    cases taken
    exact shrinks rest (by rw [scanned]; rfl)
  · rename_i sequence rest scanned
    cases taken
    exact shrinks rest (by rw [scanned]; rfl)

def drain (encoding : Encoding) (r : ByteReader) :
    List (Except Fault Sequence) × ByteReader :=
  match _taken : r.next encoding with
  | (none, after) => ([], after)
  | (some found, after) =>
    let (others, final) := drain encoding after
    (found :: others, final)
termination_by r.remaining
decreasing_by exact next_remaining _taken

section Results

variable {encoding : Encoding} {r : ByteReader} {s : Sequence} {fault : Fault}
  {front rest : List UInt8}

theorem next_incomplete (scanned : scan encoding r.unread = .incomplete) :
    r.next encoding = (none, r) := by
  have same : r.mark.unread = r.unread := rfl
  simp only [next, same, scanned]
  rfl

theorem next_unit (parts : r.unread = front ++ rest)
    (scanned : scan encoding (front ++ rest) = .unit s rest) :
    r.next encoding = (some (.ok s), r.advance front.length) := by
  have same : r.mark.unread = front ++ rest := parts
  simp only [next, same, scanned, List.length_append, Nat.add_sub_cancel]
  rfl

theorem next_malformed (parts : r.unread = front ++ rest)
    (scanned : scan encoding (front ++ rest) = .malformed fault rest) :
    r.next encoding = (some (.error fault), r.advance front.length) := by
  have same : r.mark.unread = front ++ rest := parts
  simp only [next, same, scanned, List.length_append, Nat.add_sub_cancel]
  rfl

theorem drain_incomplete (scanned : scan encoding r.unread = .incomplete) :
    r.drain encoding = ([], r) := by
  have stopped := next_incomplete scanned
  rw [drain]
  split <;> simp_all

theorem drain_unit (parts : r.unread = front ++ rest)
    (scanned : scan encoding (front ++ rest) = .unit s rest) :
    r.drain encoding =
      (.ok s :: ((r.advance front.length).drain encoding).1,
        ((r.advance front.length).drain encoding).2) := by
  have taken := next_unit parts scanned
  rw [drain]
  split <;> simp_all

end Results

end VideoTerminal.ByteReader

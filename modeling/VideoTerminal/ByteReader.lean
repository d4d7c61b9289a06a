namespace VideoTerminal

-- A position in bytes that keep arriving, with nested transactions: a reader
-- may mark where it is, read on, and then either keep what it read or return
-- to the mark. The innermost mark comes first.
structure ByteReader where
  bytes : List UInt8 := []
  position : Nat := 0
  marks : List Nat := []
  deriving DecidableEq, Repr, Inhabited

namespace ByteReader

def add (r : ByteReader) (bytes : List UInt8) : ByteReader := { r with bytes := r.bytes ++ bytes }

def peek? (r : ByteReader) : Option UInt8 := r.bytes[r.position]?

def read? (r : ByteReader) : Option (UInt8 × ByteReader) :=
  r.peek?.map fun byte => (byte, { r with position := r.position + 1 })

def unread (r : ByteReader) : List UInt8 := r.bytes.drop r.position

def advance (r : ByteReader) (count : Nat) : ByteReader := { r with position := r.position + count }

def mark (r : ByteReader) : ByteReader := { r with marks := r.position :: r.marks }

def commit (r : ByteReader) : ByteReader := { r with marks := r.marks.tail }

def rollback (r : ByteReader) : ByteReader :=
  match r.marks with
  | [] => r
  | mark :: outer => { r with position := mark, marks := outer }

def flush (r : ByteReader) : ByteReader :=
  let start := r.marks.getLast?.getD r.position
  { bytes := r.bytes.drop start
    position := r.position - start
    marks := r.marks.map (· - start) }

def atEnd (r : ByteReader) : Bool := decide (r.bytes.length ≤ r.position)

def remaining (r : ByteReader) : Nat := r.bytes.length - r.position

def depth (r : ByteReader) : Nat := r.marks.length

theorem unread_advance {r : ByteReader} {front rest : List UInt8} (parts : r.unread = front ++ rest) :
    (r.advance front.length).unread = rest := by
  rw [unread, advance, ← List.drop_drop]
  exact (congrArg (List.drop front.length) parts).trans List.drop_left

theorem advance_advance (r : ByteReader) (first second : Nat) :
    (r.advance first).advance second = r.advance (first + second) := by
  simp only [advance, Nat.add_assoc]

end ByteReader

end VideoTerminal

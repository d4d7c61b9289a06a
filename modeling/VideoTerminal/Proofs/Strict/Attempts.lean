import VideoTerminal.Proofs.Scanning
import VideoTerminal.Proofs.Strict.Scan
import VideoTerminal.Sequence.Reading

-- Attempts at units, one after the other. One that the input runs out for leaves
-- the reader as it was. Any other moves the position over at least one byte and
-- changes nothing else, and it would have come to the same with more to read. So
-- only as many attempts come to something as there are unread bytes.
namespace VideoTerminal.Strict
open Sequence

def Outcome.found? : Outcome → Option (Except Fault Sequence)
  | incomplete => none
  | malformed fault => some (.error fault)
  | unit sequence => some (.ok sequence)

def Outcome.ofScan : Scan → Outcome
  | .incomplete => incomplete
  | .malformed fault _ => malformed fault
  | .unit sequence _ => unit sequence

inductive Attempt (encoding : Encoding) (r : ByteReader) : Outcome → ByteReader → Prop where
  | waits : Attempt encoding r .incomplete r
  | takes {outcome : Outcome} {count : Nat} (decided : outcome ≠ .incomplete)
      (positive : 0 < count) (stored : r.position + count ≤ r.bytes.length)
      (again : ∀ more, next encoding (r.add more) = some (outcome, (r.add more).advance count)) :
      Attempt encoding r outcome (r.advance count)

def attempts (encodings : Nat → Encoding) : Nat → ByteReader → Option (List Outcome × ByteReader)
  | 0, r => some ([], r)
  | count + 1, r => do
    let (outcome, after) ← next (encodings 0) r
    let (outcomes, last) ← attempts (fun i => encodings (i + 1)) count after
    return (outcome :: outcomes, last)

theorem Outcome.ofScan_eq_incomplete_iff {said : Scan} :
    ofScan said = incomplete ↔ said = .incomplete := by
  cases said <;> simp [ofScan]

theorem Outcome.ofScan_extend (more : List UInt8) (said : Scan) :
    ofScan (said.extend more) = ofScan said := by
  cases said <;> rfl

theorem rest?_extend (more : List UInt8) (said : Scan) :
    (said.extend more).rest? = said.rest?.map (· ++ more) := by
  cases said <;> rfl

theorem rest?_eq_none_iff {said : Scan} : said.rest? = none ↔ said = .incomplete := by
  cases said <;> simp [Scan.rest?]

variable {encoding : Encoding} {r after : ByteReader} {rest : List UInt8} {outcome : Outcome}

theorem position_lt (shorter : rest.length < r.unread.length) : r.position < r.bytes.length := by
  rw [ByteReader.unread, List.length_drop] at shorter
  omega

-- Bytes and marks stay, so what is left to read says where the position is.
theorem Took.eq_advance (took : Took r rest after) (shorter : rest.length < r.unread.length) :
    after = r.advance (r.unread.length - rest.length) := by
  have start := position_lt shorter
  have inside : after.position ≤ r.bytes.length := took.bytes ▸ took.inside
  have left : rest.length = r.bytes.length - after.position := by
    rw [← took.unread, ByteReader.unread, took.bytes, List.length_drop]
  have position : after.position = r.position + (r.unread.length - rest.length) := by
    rw [ByteReader.unread, List.length_drop] at shorter ⊢
    omega
  calc after = ByteReader.mk after.bytes after.position after.marks := rfl
    _ = r.advance (r.unread.length - rest.length) := by
      rw [took.bytes, took.marks, position]
      rfl

theorem next_decided (left : (scan encoding r.unread).rest? = some rest) :
    next encoding r =
      some (.ofScan (scan encoding r.unread), r.advance (r.unread.length - rest.length)) := by
  have shorter := scan_shorter left
  cases scanned : scan encoding r.unread with
  | incomplete => cases scanned ▸ left
  | malformed fault rest =>
    cases scanned ▸ left
    obtain ⟨after, found, took⟩ := next_malformed scanned
    rw [found, took.eq_advance shorter]
    rfl
  | unit s rest =>
    cases scanned ▸ left
    obtain ⟨after, found, took⟩ := next_unit scanned
    rw [found, took.eq_advance shorter]
    rfl

theorem next_decided_add (left : (scan encoding r.unread).rest? = some rest) (more : List UInt8) :
    next encoding (r.add more) =
      some (.ofScan (scan encoding r.unread),
        (r.add more).advance (r.unread.length - rest.length)) := by
  have unread := add_unread (Nat.le_of_lt (position_lt (scan_shorter left))) more
  have decided : scan encoding r.unread ≠ .incomplete := by
    rw [← rest?_eq_none_iff.ne, left]
    exact Option.some_ne_none rest
  have longer : scan encoding (r.add more).unread = (scan encoding r.unread).extend more :=
    unread ▸ scan_append more decided
  have later : (scan encoding (r.add more).unread).rest? = some (rest ++ more) := by
    rw [longer, rest?_extend, left]
    rfl
  rw [next_decided later, longer, Outcome.ofScan_extend, unread, List.length_append,
    List.length_append, Nat.add_sub_add_right]

theorem next_attempt (encoding : Encoding) (r : ByteReader) :
    ∃ outcome after,
      next encoding r = some (outcome, after) ∧ Attempt encoding r outcome after := by
  cases left : (scan encoding r.unread).rest? with
  | none => exact ⟨.incomplete, r, next_incomplete (rest?_eq_none_iff.mp left), .waits⟩
  | some rest =>
    have shorter := scan_shorter left
    have start := position_lt shorter
    refine ⟨_, _, next_decided left,
      .takes ?_ (Nat.sub_pos_of_lt shorter) ?_ (next_decided_add left)⟩
    · rw [Outcome.ofScan_eq_incomplete_iff.ne, ← rest?_eq_none_iff.ne, left]
      exact Option.some_ne_none rest
    · rw [ByteReader.unread, List.length_drop]
      omega

theorem found?_next (found : next encoding r = some (outcome, after)) :
    r.next encoding = (outcome.found?, after) := by
  have same : r.mark.unread = r.unread := rfl
  cases scanned : scan encoding r.unread with
  | incomplete =>
    cases (next_incomplete scanned).symm.trans found
    exact ByteReader.next_incomplete scanned
  | malformed fault rest =>
    cases (next_decided (by rw [scanned]; rfl)).symm.trans found
    simp only [ByteReader.next, same, scanned]
    rfl
  | unit s rest =>
    cases (next_decided (by rw [scanned]; rfl)).symm.trans found
    simp only [ByteReader.next, same, scanned]
    rfl

theorem attempts_succ {encodings : Nat → Encoding} {count : Nat} {outcomes : List Outcome}
    {last : ByteReader} (first : next (encodings 0) r = some (outcome, after))
    (later : attempts (fun i => encodings (i + 1)) count after = some (outcomes, last)) :
    attempts encodings (count + 1) r = some (outcome :: outcomes, last) := by
  rw [attempts, first, Option.bind_eq_bind, Option.bind_some]
  dsimp only
  rw [later]
  rfl

theorem attempts_end (encodings : Nat → Encoding) (r : ByteReader) :
    ∃ found after, attempts encodings (found.length + 1) r = some (found ++ [.incomplete], after) ∧
      .incomplete ∉ found ∧ found.length + after.unread.length ≤ r.unread.length := by
  generalize size : r.unread.length = limit
  induction limit using Nat.strongRecOn generalizing encodings r with
  | ind limit ih =>
    obtain ⟨outcome, middle, first, attempt⟩ := next_attempt (encodings 0) r
    cases attempt with
    | waits => exact ⟨[], r, attempts_succ first rfl, List.not_mem_nil, by simp [size]⟩
    | @takes _ count decided positive stored again =>
      have shorter : (r.advance count).unread.length + count = limit := by
        rw [← size, ByteReader.unread, ByteReader.unread, List.length_drop, List.length_drop]
        simp only [ByteReader.advance]
        omega
      obtain ⟨found, after, later, none, bound⟩ :=
        ih _ (by omega) (fun i => encodings (i + 1)) (r.advance count) rfl
      refine ⟨outcome :: found, after, attempts_succ first later, ?_, ?_⟩
      · rw [List.mem_cons, not_or]
        exact ⟨decided.symm, none⟩
      · rw [List.length_cons]
        omega

theorem next_waits_or_takes (r : ByteReader) :
    (∀ encoding, ∃ outcome after,
      next encoding r = some (outcome, after) ∧ r.next encoding = (outcome.found?, after) ∧
      after.bytes = r.bytes ∧ after.marks = r.marks ∧
      (outcome = .incomplete ∧ after.position = r.position ∨
        outcome ≠ .incomplete ∧ r.position < after.position ∧ after.position ≤ r.bytes.length ∧
          ∀ more, next encoding (r.add more) = some (outcome, after.add more))) ∧
    ∀ encodings : Nat → Encoding, ∃ found after,
      attempts encodings (found.length + 1) r = some (found ++ [.incomplete], after) ∧
      .incomplete ∉ found ∧ found.length + after.unread.length ≤ r.unread.length := by
  refine ⟨fun encoding => ?_, fun encodings => attempts_end encodings r⟩
  obtain ⟨outcome, after, found, attempt⟩ := next_attempt encoding r
  refine ⟨outcome, after, found, found?_next found, ?_⟩
  cases attempt with
  | waits => exact ⟨rfl, rfl, .inl ⟨rfl, rfl⟩⟩
  | takes decided positive stored again =>
    exact ⟨rfl, rfl, .inr ⟨decided, Nat.lt_add_of_pos_right positive, stored, again⟩⟩

end VideoTerminal.Strict

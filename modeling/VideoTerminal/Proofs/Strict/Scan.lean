import VideoTerminal.ByteReader
import VideoTerminal.Proofs.Strict.Steps
import VideoTerminal.Sequence.Scan

-- Reading units byte by byte out of a reader, in nested transactions and made of
-- partial steps: every subtraction, every narrowing to a signed word and every
-- cut of a list can fail. Positions and marks never get out of step with the
-- bytes, and what is read is what a scan of the unread bytes says.
namespace VideoTerminal.Strict
open Sequence

inductive Outcome where
  | incomplete
  | malformed (fault : Fault)
  | unit (sequence : Sequence)
  deriving Inhabited

abbrev Parser := ByteReader → Option (Outcome × ByteReader)

def transaction (parse : Parser) : Parser := fun r => do
  match ← parse r.mark with
  | (.incomplete, after) => return (.incomplete, after.rollback)
  | (outcome, after) => return (outcome, after.commit)

theorem peek?_remaining {r : ByteReader} {byte : UInt8} (peeked : r.peek? = some byte) :
    (r.advance 1).remaining < r.remaining := by
  obtain ⟨inside, -⟩ := List.getElem?_eq_some_iff.mp peeked
  simp only [ByteReader.remaining, ByteReader.advance]
  omega

def one (unit : UInt8 → Sequence) (r : ByteReader) : Outcome × ByteReader :=
  match r.read? with
  | none => (.incomplete, r)
  | some (byte, after) => (.unit (unit byte), after)

def accumulate (current : Option Nat) (digit : UInt8) : Option Nat := do
  let value ← sub digit.toNat 0x30
  return min maxParam (min maxParam (current.getD 0 * 10) + value)

def csiStep (d : CsiDraft) (byte : UInt8) : Option CsiStep :=
  if Byte.isDigit byte then do
    let current ← accumulate d.current byte
    return .more { d with atStart := false, current := some current }
  else some (d.step byte)

def csiLoop (d : CsiDraft) (r : ByteReader) : Option (Outcome × ByteReader) :=
  match _peeked : r.peek? with
  | none => some (.incomplete, r)
  | some byte =>
    if byte = Byte.escape then some (.malformed (.interrupted .csi byte), r)
    else do
      match ← csiStep d byte with
      | .more next => csiLoop next (r.advance 1)
      | .fault fault => return (.malformed fault, r.advance 1)
      | .final sequence => return (.unit sequence, r.advance 1)
termination_by r.remaining
decreasing_by exact peek?_remaining _peeked

def endString (body : Osc) (r : ByteReader) : Outcome × ByteReader :=
  let behind := (r.mark.read?.map (·.2)).getD r.mark
  match behind.read? with
  | none => (.incomplete, behind.rollback)
  | some (next, after) =>
    if next = Byte.backslash then (.unit (.osc body), after.commit)
    else (.malformed (.interrupted .osc Byte.escape), after.rollback)

def pendingAfter (pending : Nat) (byte : UInt8) : Option Nat :=
  if 0 < pending ∧ Utf8.isContinuation byte then sub pending 1 else sub (Utf8.announced byte) 1

def oscText (body : Osc) (pending : Nat) (text : List UInt8) (r : ByteReader) :
    Option (Outcome × ByteReader) :=
  match _peeked : r.peek? with
  | none => some (.incomplete, r)
  | some byte =>
    if byte = Byte.escape then some (endString (body.withText text) r)
    else if byte = Byte.bel ∨ (byte = Byte.stringTerminator ∧ pending = 0) then
      some (.unit (.osc (body.withText text)), r.advance 1)
    else if Byte.aborts byte then some (.malformed (.interrupted .osc byte), r.advance 1)
    else do
      let later ← pendingAfter pending byte
      oscText body later (byte :: text) (r.advance 1)
termination_by r.remaining
decreasing_by exact peek?_remaining _peeked

def oscLoop (body : Osc) (atStart : Bool) (current : Option Nat) (r : ByteReader) :
    Option (Outcome × ByteReader) :=
  match _peeked : r.peek? with
  | none => some (.incomplete, r)
  | some byte =>
    let closed : Osc := { body with params := body.params ++ current.toList }
    if byte = 0x3f ∧ atStart then oscLoop { body with query := true } atStart current (r.advance 1)
    else if byte = 0x3e ∧ atStart then
      oscLoop { body with send := true } atStart current (r.advance 1)
    else if byte = 0x21 ∧ atStart then
      oscLoop { body with bang := true } atStart current (r.advance 1)
    else if Byte.isDigit byte then do
      let value ← accumulate current byte
      oscLoop body false (some value) (r.advance 1)
    else if byte = 0x3b then
      match current with
      | none => some (.malformed (.unexpectedSeparator .osc), r.advance 1)
      | some _ => oscText closed 0 [] (r.advance 1)
    else if byte = Byte.bel ∨ byte = Byte.stringTerminator then
      some (.unit (.osc closed), r.advance 1)
    else if byte = Byte.escape then some (endString closed r)
    else if Byte.aborts byte then some (.malformed (.interrupted .osc byte), r.advance 1)
    else oscText closed 0 [] r
termination_by r.remaining
decreasing_by all_goals exact peek?_remaining _peeked

def vt52Move (r : ByteReader) : Option (Outcome × ByteReader) :=
  match r.read? with
  | none => some (.incomplete, r)
  | some (row, later) =>
    match later.read? with
    | none => some (.incomplete, later)
    | some (column, after) => do
      let row ← word ((row.toNat : Int) - 37)
      let column ← word ((column.toNat : Int) - 37)
      return (.unit (.vt52Move row column), after)

def escape (r : ByteReader) : Option (Outcome × ByteReader) :=
  match r.read? with
  | none => some (.incomplete, r)
  | some (byte, after) =>
    if byte = 0x5b then transaction (csiLoop {}) after
    else if byte = 0x5d then transaction (oscLoop {} true none) after
    else if byte = 0x23 then some (one (fun code => .lineSize (LineSize.ofCode code)) after)
    else if byte = 0x20 then some (one (fun code => .compliance (Char.ofUInt8 code)) after)
    else if byte = 0x25 then some (one (fun code => .unicode (Char.ofUInt8 code)) after)
    else if byte = 0x59 then vt52Move after
    else
      match Designator.ofByte? byte with
      | some designator =>
        some (one (fun code => .characterSet designator (CharacterSet.ofCode code)) after)
      | none => some (.unit (.escape (Char.ofUInt8 byte)), after)

inductive Follow where
  | short
  | cut
  | whole (bytes : List UInt8)
  deriving Inhabited

def collect (r : ByteReader) : Nat → Follow × ByteReader
  | 0 => (.whole [], r)
  | wanted + 1 =>
    match r.peek? with
    | none => (.short, r)
    | some byte =>
      if Utf8.isContinuation byte then
        match collect (r.advance 1) wanted with
        | (.whole bytes, after) => (.whole (byte :: bytes), after)
        | other => other
      else (.cut, r)

def character (lead : UInt8) (r : ByteReader) : Option (Outcome × ByteReader) :=
  if Utf8.announced lead = 1 then some (.unit (.character (Char.ofUInt8 lead)), r)
  else
    match collect r.mark (Utf8.announced lead - 1) with
    | (.short, after) => some (.incomplete, after.rollback)
    | (.cut, after) => some (.unit (.character (Char.ofUInt8 lead)), after.rollback)
    | (.whole bytes, after) => do
      let collected ← takeFront (Utf8.announced lead) ((lead :: bytes ++ [0, 0, 0]).take 4)
      match Utf8.decode? collected with
      | some [c] => return (.unit (.character c), after.commit)
      | _ => return (.unit (.character (Char.ofUInt8 lead)), after.rollback)

def unit (encoding : Encoding) (r : ByteReader) : Option (Outcome × ByteReader) :=
  match r.read? with
  | none => some (.incomplete, r)
  | some (byte, after) =>
    if byte = Byte.escape then transaction escape after
    else if byte = Byte.singleShift3 then some (one (fun code => .ss3 (Char.ofUInt8 code)) after)
    else
      match encoding with
      | .latin1 => some (.unit (.character (Char.ofUInt8 byte)), after)
      | .utf8 => character byte after

def next (encoding : Encoding) : Parser := transaction (unit encoding)

def flush (r : ByteReader) : Option ByteReader := do
  let start := r.marks.getLast?.getD r.position
  let bytes ← dropFront start r.bytes
  let position ← sub r.position start
  let marks ← r.marks.mapM fun mark => sub mark start
  return { bytes, position, marks }

def remaining (r : ByteReader) : Option Nat := sub r.bytes.length r.position

def Inside (r : ByteReader) : Prop := r.position ≤ r.bytes.length

structure Took (r : ByteReader) (rest : List UInt8) (after : ByteReader) : Prop where
  bytes : after.bytes = r.bytes
  marks : after.marks = r.marks
  unread : after.unread = rest
  inside : Inside after

-- A result that agrees with what a scan says of the unread bytes. Where the
-- input ran out the position does not matter: a rollback takes care of it.
inductive Reads (r : ByteReader) : Scan → Option (Outcome × ByteReader) → Prop where
  | incomplete {after : ByteReader} (bytes : after.bytes = r.bytes)
      (marks : after.marks = r.marks) :
      Reads r .incomplete (some (.incomplete, after))
  | malformed {fault : Fault} {rest : List UInt8} {after : ByteReader} (took : Took r rest after) :
      Reads r (.malformed fault rest) (some (.malformed fault, after))
  | unit {sequence : Sequence} {rest : List UInt8} {after : ByteReader} (took : Took r rest after) :
      Reads r (.unit sequence rest) (some (.unit sequence, after))

variable {r after : ByteReader} {rest : List UInt8} {said : Scan}
  {read : Option (Outcome × ByteReader)} {parse : Parser}

theorem Took.refl (inside : Inside r) : Took r r.unread r := ⟨rfl, rfl, rfl, inside⟩

theorem Took.trans {middle : ByteReader} {between : List UInt8} (one : Took r between middle)
    (two : Took middle rest after) : Took r rest after :=
  ⟨two.bytes.trans one.bytes, two.marks.trans one.marks, two.unread, two.inside⟩

theorem Took.reads {between : List UInt8} (took : Took r between after)
    (reads : Reads after said read) : Reads r said read := by
  cases reads with
  | incomplete bytes marks => exact .incomplete (bytes.trans took.bytes) (marks.trans took.marks)
  | malformed later => exact .malformed (took.trans later)
  | unit later => exact .unit (took.trans later)

-- What the next byte is shows in the unread bytes, and so does reading it.
theorem peek?_nil (empty : r.unread = []) : r.peek? = none := by
  rw [ByteReader.peek?, ← List.head?_drop]
  exact congrArg List.head? empty

theorem peek?_cons {byte : UInt8} (next : r.unread = byte :: rest) : r.peek? = some byte := by
  rw [ByteReader.peek?, ← List.head?_drop]
  exact congrArg List.head? next

theorem advance_took {byte : UInt8} (next : r.unread = byte :: rest) :
    Took r rest (r.advance 1) := by
  refine ⟨rfl, rfl, ?_, ?_⟩
  · rw [ByteReader.unread, ByteReader.advance, ← List.tail_drop]
    exact congrArg List.tail next
  · obtain ⟨inside, -⟩ := List.getElem?_eq_some_iff.mp (peek?_cons next)
    exact inside

theorem read?_nil (empty : r.unread = []) : r.read? = none := by
  rw [ByteReader.read?, peek?_nil empty]; rfl

theorem read?_cons {byte : UInt8} (next : r.unread = byte :: rest) :
    r.read? = some (byte, r.advance 1) := by
  rw [ByteReader.read?, peek?_cons next]; rfl

theorem rollback_eq (bytes : after.bytes = r.mark.bytes) (marks : after.marks = r.mark.marks) :
    after.rollback = r := by
  rw [ByteReader.rollback, marks]
  show { after with position := r.position, marks := r.marks } = r
  rw [bytes]
  rfl

theorem transaction_reads (reads : Reads r.mark said (parse r.mark)) :
    Reads r said (transaction parse r) := by
  unfold transaction
  generalize parse r.mark = result at reads
  cases reads with
  | incomplete bytes marks =>
    have back := rollback_eq bytes marks
    exact .incomplete (congrArg ByteReader.bytes back) (congrArg ByteReader.marks back)
  | malformed took =>
    exact .malformed ⟨took.bytes, congrArg List.tail took.marks, took.unread, took.inside⟩
  | unit took =>
    exact .unit ⟨took.bytes, congrArg List.tail took.marks, took.unread, took.inside⟩

theorem transaction_incomplete (reads : Reads r.mark .incomplete (parse r.mark)) :
    transaction parse r = some (.incomplete, r) := by
  unfold transaction
  generalize parse r.mark = result at reads
  cases reads with
  | incomplete bytes marks =>
    exact congrArg (fun back => some (Outcome.incomplete, back)) (rollback_eq bytes marks)

theorem one_reads (unit : UInt8 → Sequence) (r : ByteReader) :
    Reads r (scanOne unit r.unread) (some (one unit r)) := by
  unfold one
  cases left : r.unread with
  | nil => rw [read?_nil left]; exact .incomplete rfl rfl
  | cons byte rest => rw [read?_cons left]; exact .unit (advance_took left)

theorem accumulate_eq {current : Option Nat} {digit : UInt8} (isDigit : Byte.isDigit digit) :
    accumulate current digit = some (addDigit current digit) := by
  obtain ⟨least, -⟩ := of_decide_eq_true isDigit
  have positive : 0x30 ≤ digit.toNat := least
  rw [accumulate, sub_eq positive]
  refine congrArg some ?_
  rw [addDigit]
  omega

theorem csiStep_eq (d : CsiDraft) (byte : UInt8) : csiStep d byte = some (d.step byte) := by
  unfold csiStep
  by_cases isDigit : Byte.isDigit byte
  · obtain ⟨least, most⟩ := of_decide_eq_true isDigit
    have bounds : 0x30 ≤ byte.toNat ∧ byte.toNat ≤ 0x39 := ⟨least, most⟩
    have other {code : UInt8} (outside : 0x39 < code.toNat ∨ code.toNat < 0x30) : byte ≠ code := by
      rintro rfl
      omega
    rw [if_pos isDigit, accumulate_eq isDigit, CsiDraft.step,
      if_neg (fun h => other (by decide) h.1), if_neg (fun h => other (by decide) h.1),
      if_neg (fun h => other (by decide) h.1), if_neg (other (by decide)), if_pos isDigit]
    rfl
  · rw [if_neg isDigit]

theorem csiLoop_nil (d : CsiDraft) (empty : r.unread = []) :
    csiLoop d r = some (.incomplete, r) := by
  rw [csiLoop]
  split
  · rfl
  · rename_i found
    cases found.symm.trans (peek?_nil empty)

theorem csiLoop_cons (d : CsiDraft) {byte : UInt8} (next : r.unread = byte :: rest) :
    csiLoop d r =
      if byte = Byte.escape then some (.malformed (.interrupted .csi byte), r)
      else match d.step byte with
        | .more next => csiLoop next (r.advance 1)
        | .fault fault => some (.malformed fault, r.advance 1)
        | .final sequence => some (.unit sequence, r.advance 1) := by
  have peeked := peek?_cons next
  rw [csiLoop]
  split
  · rename_i found
    cases found.symm.trans peeked
  · rename_i same found
    cases Option.some.inj (found.symm.trans peeked)
    rw [csiStep_eq, Option.bind_eq_bind, Option.bind_some]
    cases d.step byte <;> rfl

theorem csiLoop_reads (d : CsiDraft) (inside : Inside r) :
    Reads r (scanCsi d r.unread) (csiLoop d r) := by
  generalize left : r.unread = bytes
  induction bytes generalizing d r with
  | nil => rw [csiLoop_nil d left]; exact .incomplete rfl rfl
  | cons byte rest ih =>
    have took := advance_took left
    rw [csiLoop_cons d left, scanCsi]
    split
    · exact .malformed (left ▸ Took.refl inside)
    · cases d.step byte with
      | more next => exact took.reads (ih next took.inside took.unread)
      | fault fault => exact .malformed took
      | final sequence => exact .unit took

theorem endString_reads (body : Osc) (inside : Inside r)
    (next : r.unread = Byte.escape :: rest) :
    Reads r (scanStringEscape body rest) (some (endString body r)) := by
  have opened : r.mark.read? = some (Byte.escape, r.mark.advance 1) := read?_cons (r := r.mark) next
  have took := advance_took (r := r.mark) next
  unfold endString
  rw [opened]
  dsimp only [Option.map_some, Option.getD_some]
  cases rest with
  | nil =>
    rw [read?_nil took.unread]
    exact .incomplete rfl rfl
  | cons byte rest =>
    have later := took.trans (advance_took took.unread)
    rw [read?_cons took.unread, scanStringEscape]
    dsimp only
    by_cases complete : byte = Byte.backslash
    · rw [if_pos complete, if_pos complete]
      exact .unit ⟨rfl, rfl, later.unread, later.inside⟩
    · rw [if_neg complete, if_neg complete]
      exact .malformed ⟨rfl, rfl, next, inside⟩

theorem announced_bounds (byte : UInt8) : 1 ≤ Utf8.announced byte ∧ Utf8.announced byte ≤ 4 := by
  unfold Utf8.announced
  repeat' split
  all_goals omega

theorem pendingAfter_eq (pending : Nat) (byte : UInt8) :
    pendingAfter pending byte =
      some (if 0 < pending ∧ Utf8.isContinuation byte then pending - 1
        else Utf8.announced byte - 1) := by
  have announced := (announced_bounds byte).1
  unfold pendingAfter
  by_cases more : 0 < pending ∧ Utf8.isContinuation byte
  · rw [if_pos more, if_pos more, sub_one_eq more.1]
  · rw [if_neg more, if_neg more, sub_eq announced]

theorem oscText_nil (body : Osc) (pending : Nat) (text : List UInt8) (empty : r.unread = []) :
    oscText body pending text r = some (.incomplete, r) := by
  rw [oscText]
  split
  · rfl
  · rename_i found
    cases found.symm.trans (peek?_nil empty)

theorem oscText_cons (body : Osc) (pending : Nat) (text : List UInt8) {byte : UInt8}
    (next : r.unread = byte :: rest) :
    oscText body pending text r =
      if byte = Byte.escape then some (endString (body.withText text) r)
      else if byte = Byte.bel ∨ (byte = Byte.stringTerminator ∧ pending = 0) then
        some (.unit (.osc (body.withText text)), r.advance 1)
      else if Byte.aborts byte then some (.malformed (.interrupted .osc byte), r.advance 1)
      else
        oscText body
          (if 0 < pending ∧ Utf8.isContinuation byte then pending - 1 else Utf8.announced byte - 1)
          (byte :: text) (r.advance 1) := by
  have peeked := peek?_cons next
  rw [oscText]
  split
  · rename_i found
    cases found.symm.trans peeked
  · rename_i same found
    cases Option.some.inj (found.symm.trans peeked)
    rw [pendingAfter_eq]
    rfl

theorem oscText_reads (body : Osc) (pending : Nat) (text : List UInt8) (inside : Inside r) :
    Reads r (scanOscText body pending text r.unread) (oscText body pending text r) := by
  generalize left : r.unread = bytes
  induction bytes generalizing pending text r with
  | nil => rw [oscText_nil _ _ _ left]; exact .incomplete rfl rfl
  | cons byte rest ih =>
    have took := advance_took left
    rw [oscText_cons _ _ _ left, scanOscText]
    split
    · rename_i escaped
      subst escaped
      exact endString_reads _ inside left
    · split
      · exact .unit took
      · split
        · exact .malformed took
        · exact took.reads (ih _ _ took.inside took.unread)

theorem oscLoop_nil (body : Osc) (atStart : Bool) (current : Option Nat) (empty : r.unread = []) :
    oscLoop body atStart current r = some (.incomplete, r) := by
  rw [oscLoop]
  split
  · rfl
  · rename_i found
    cases found.symm.trans (peek?_nil empty)

theorem oscLoop_cons (body : Osc) (atStart : Bool) (current : Option Nat) {byte : UInt8}
    (next : r.unread = byte :: rest) :
    oscLoop body atStart current r =
      let closed : Osc := { body with params := body.params ++ current.toList }
      if byte = 0x3f ∧ atStart then
        oscLoop { body with query := true } atStart current (r.advance 1)
      else if byte = 0x3e ∧ atStart then
        oscLoop { body with send := true } atStart current (r.advance 1)
      else if byte = 0x21 ∧ atStart then
        oscLoop { body with bang := true } atStart current (r.advance 1)
      else if Byte.isDigit byte then
        oscLoop body false (some (addDigit current byte)) (r.advance 1)
      else if byte = 0x3b then
        match current with
        | none => some (.malformed (.unexpectedSeparator .osc), r.advance 1)
        | some _ => oscText closed 0 [] (r.advance 1)
      else if byte = Byte.bel ∨ byte = Byte.stringTerminator then
        some (.unit (.osc closed), r.advance 1)
      else if byte = Byte.escape then some (endString closed r)
      else if Byte.aborts byte then some (.malformed (.interrupted .osc byte), r.advance 1)
      else oscText closed 0 [] r := by
  have peeked := peek?_cons next
  rw [oscLoop]
  split
  · rename_i found
    cases found.symm.trans peeked
  · rename_i same found
    cases Option.some.inj (found.symm.trans peeked)
    by_cases isDigit : Byte.isDigit byte
    · rw [accumulate_eq isDigit]; rfl
    · simp only [if_neg isDigit]

theorem oscLoop_reads (body : Osc) (atStart : Bool) (current : Option Nat) (inside : Inside r) :
    Reads r (scanOsc body atStart current r.unread) (oscLoop body atStart current r) := by
  generalize left : r.unread = bytes
  induction bytes generalizing body atStart current r with
  | nil => rw [oscLoop_nil _ _ _ left]; exact .incomplete rfl rfl
  | cons byte rest ih =>
    have took := advance_took left
    have again (body : Osc) (atStart : Bool) (current : Option Nat) :=
      took.reads (ih body atStart current took.inside took.unread)
    rw [oscLoop_cons _ _ _ left, scanOsc.eq_def]
    dsimp only
    by_cases query : byte = 0x3f ∧ atStart
    · rw [if_pos query, if_pos query]; exact again _ _ _
    by_cases send : byte = 0x3e ∧ atStart
    · rw [if_neg query, if_neg query, if_pos send, if_pos send]; exact again _ _ _
    by_cases bang : byte = 0x21 ∧ atStart
    · rw [if_neg query, if_neg query, if_neg send, if_neg send, if_pos bang, if_pos bang]
      exact again _ _ _
    rw [if_neg query, if_neg query, if_neg send, if_neg send, if_neg bang, if_neg bang]
    by_cases digit : Byte.isDigit byte
    · rw [if_pos digit, if_pos digit]; exact again _ _ _
    rw [if_neg digit, if_neg digit]
    by_cases separator : byte = 0x3b
    · rw [if_pos separator, if_pos separator]
      cases current with
      | none => exact .malformed took
      | some value => exact took.reads (took.unread ▸ oscText_reads _ _ _ took.inside)
    rw [if_neg separator, if_neg separator]
    by_cases terminated : byte = Byte.bel ∨ byte = Byte.stringTerminator
    · rw [if_pos terminated, if_pos terminated]; exact .unit took
    rw [if_neg terminated, if_neg terminated]
    by_cases escaped : byte = Byte.escape
    · rw [if_pos escaped, if_pos escaped]
      subst escaped
      exact endString_reads _ inside left
    rw [if_neg escaped, if_neg escaped]
    by_cases aborted : Byte.aborts byte
    · rw [if_pos aborted, if_pos aborted]; exact .malformed took
    · rw [if_neg aborted, if_neg aborted]
      exact left ▸ oscText_reads _ _ _ inside

theorem word_coordinate (byte : UInt8) :
    word ((byte.toNat : Int) - 37) = some ((byte.toNat : Int) - 37) := by
  have small := byte.toNat_lt
  exact word_eq (by omega) (by omega)

theorem vt52Move_reads (r : ByteReader) : Reads r (scanVt52Move r.unread) (vt52Move r) := by
  unfold vt52Move
  cases left : r.unread with
  | nil => rw [read?_nil left]; exact .incomplete rfl rfl
  | cons row rest =>
    have took := advance_took left
    rw [read?_cons left]
    dsimp only
    cases rest with
    | nil => rw [read?_nil took.unread]; exact .incomplete rfl rfl
    | cons column rest =>
      rw [read?_cons took.unread]
      dsimp only
      rw [word_coordinate, word_coordinate]
      exact .unit (took.trans (advance_took took.unread))

theorem escape_reads (r : ByteReader) : Reads r (scanEscape r.unread) (escape r) := by
  unfold escape
  cases left : r.unread with
  | nil => rw [read?_nil left]; exact .incomplete rfl rfl
  | cons byte rest =>
    have took := advance_took left
    have single (unit : UInt8 → Sequence) :
        Reads r (scanOne unit rest) (some (one unit (r.advance 1))) :=
      took.reads (took.unread ▸ one_reads unit _)
    rw [read?_cons left, scanEscape]
    dsimp only
    split
    · exact took.reads (transaction_reads (took.unread ▸ csiLoop_reads {} took.inside))
    · split
      · exact took.reads
          (transaction_reads (took.unread ▸ oscLoop_reads {} true none took.inside))
      · iterate 3
          split
          · exact single _
        split
        · exact took.reads (took.unread ▸ vt52Move_reads _)
        · cases Designator.ofByte? byte with
          | none => exact .unit took
          | some designator => exact single _

def following (wanted : Nat) (bytes : List UInt8) : List UInt8 :=
  (bytes.take wanted).takeWhile Utf8.isContinuation

inductive Collected (r : ByteReader) (wanted : Nat) : Follow × ByteReader → Prop where
  | whole {after : ByteReader} (full : (following wanted r.unread).length = wanted)
      (took : Took r (r.unread.drop wanted) after) :
      Collected r wanted (.whole (following wanted r.unread), after)
  | short {after : ByteReader} (bytes : after.bytes = r.bytes) (marks : after.marks = r.marks)
      (fewer : (following wanted r.unread).length ≠ wanted)
      (ended : (following wanted r.unread).length = r.unread.length) :
      Collected r wanted (.short, after)
  | cut {after : ByteReader} (bytes : after.bytes = r.bytes) (marks : after.marks = r.marks)
      (fewer : (following wanted r.unread).length ≠ wanted)
      (other : (following wanted r.unread).length ≠ r.unread.length) :
      Collected r wanted (.cut, after)

theorem collect_collected (inside : Inside r) (wanted : Nat) :
    Collected r wanted (collect r wanted) := by
  induction wanted generalizing r with
  | zero => exact .whole rfl (.refl inside)
  | succ wanted ih =>
    unfold collect
    cases left : r.unread with
    | nil =>
      rw [peek?_nil left]
      exact .short rfl rfl (by rw [left]; exact (Nat.succ_ne_zero wanted).symm) (by rw [left]; rfl)
    | cons byte rest =>
      have took := advance_took left
      have more := ih took.inside
      rw [peek?_cons left]
      dsimp only
      by_cases continues : Utf8.isContinuation byte
      · have longer : following (wanted + 1) r.unread = byte :: following wanted rest := by
          rw [left, following, List.take_succ_cons, List.takeWhile_cons, if_pos continues]; rfl
        rw [if_pos continues]
        generalize collect (r.advance 1) wanted = found at more
        cases more with
        | whole full later =>
          rw [took.unread] at full later ⊢
          dsimp only
          rw [← longer]
          refine .whole ?_ (took.trans ?_)
          · rw [longer, List.length_cons, full]
          · rw [left]; exact later
        | short bytes marks fewer ended =>
          rw [took.unread] at fewer ended
          refine .short bytes marks ?_ ?_ <;> rw [longer, List.length_cons]
          · omega
          · rw [ended, left]; rfl
        | cut bytes marks fewer other =>
          rw [took.unread] at fewer other
          refine .cut bytes marks ?_ ?_ <;> rw [longer, List.length_cons]
          · omega
          · rw [left, List.length_cons]; omega
      · have none : following (wanted + 1) r.unread = [] := by
          rw [left, following, List.take_succ_cons, List.takeWhile_cons, if_neg continues]
        rw [if_neg continues]
        refine .cut rfl rfl ?_ ?_ <;> rw [none]
        · exact (Nat.succ_ne_zero wanted).symm
        · rw [left]; exact (Nat.succ_ne_zero rest.length).symm

theorem decode?_alone {byte : UInt8} {c : Char} (decoded : Utf8.decode? [byte] = some [c]) :
    c = Char.ofUInt8 byte := by
  have written := Utf8.encode_of_decode? decoded
  unfold Utf8.decode? at decoded
  split at decoded
  · have read := Option.some.inj decoded
    unfold Utf8.decodeLossy at read
    by_cases plain : byte < 0x80
    · rw [if_pos plain] at read
      exact (List.cons.inj read).1.symm
    · have replaced : c = Utf8.replacement := by
        rw [if_neg plain] at read
        split at read <;> exact (List.cons.inj read).1.symm
      have three : (Utf8.encode [Utf8.replacement]).length = 3 := by decide
      rw [replaced] at written
      rw [written] at three
      cases three
  · cases decoded

theorem takeFront_collected (lead : UInt8) {bytes : List UInt8}
    (full : bytes.length = Utf8.announced lead - 1) :
    takeFront (Utf8.announced lead) ((lead :: bytes ++ [0, 0, 0]).take 4) =
      some (lead :: bytes) := by
  have bounds := announced_bounds lead
  have length : (lead :: bytes).length = Utf8.announced lead := by rw [List.length_cons]; omega
  rw [takeFront, if_pos (by simp only [List.length_take, List.length_append, length]; omega),
    List.take_take, Nat.min_eq_left bounds.2, ← length, List.take_left']
  rfl

theorem character_reads (lead : UInt8) (inside : Inside r) :
    Reads r (scanCharacter lead r.unread) (character lead r) := by
  unfold character scanCharacter
  dsimp only
  by_cases alone : Utf8.announced lead = 1
  · rw [if_pos alone, alone, Nat.sub_self, List.take_zero, List.takeWhile_nil, List.length_nil,
      if_pos rfl, List.drop_zero]
    split
    · rename_i c decoded
      rw [decode?_alone decoded]
      exact .unit (.refl inside)
    · exact .unit (.refl inside)
  · have collected := collect_collected (r := r.mark) inside (Utf8.announced lead - 1)
    have unread : r.mark.unread = r.unread := rfl
    rw [if_neg alone]
    generalize collect r.mark (Utf8.announced lead - 1) = found at collected
    cases collected with
    | @whole after full took =>
      rw [unread] at full took ⊢
      unfold following at full ⊢
      rw [if_pos full]
      dsimp only
      rw [takeFront_collected lead full, Option.bind_eq_bind, Option.bind_some,
        rollback_eq took.bytes took.marks]
      generalize Utf8.decode? _ = decoded
      match decoded with
      | some [c] =>
        exact .unit ⟨took.bytes, congrArg List.tail took.marks, took.unread, took.inside⟩
      | none | some [] | some (_ :: _ :: _) => exact .unit (.refl inside)
    | @short after bytes marks fewer ended =>
      rw [unread] at fewer ended
      unfold following at fewer ended
      rw [if_neg fewer, if_pos ended]
      have back := rollback_eq bytes marks
      exact .incomplete (congrArg ByteReader.bytes back) (congrArg ByteReader.marks back)
    | cut bytes marks fewer other =>
      rw [unread] at fewer other
      unfold following at fewer other
      rw [if_neg fewer, if_neg other]
      dsimp only
      rw [rollback_eq bytes marks]
      exact .unit (.refl inside)

theorem unit_reads (encoding : Encoding) (r : ByteReader) :
    Reads r (scan encoding r.unread) (unit encoding r) := by
  unfold unit
  cases left : r.unread with
  | nil =>
    rw [read?_nil left, scan.eq_def]
    exact .incomplete rfl rfl
  | cons byte rest =>
    have took := advance_took left
    rw [read?_cons left, scan.eq_def]
    dsimp only
    split
    · exact took.reads (transaction_reads (took.unread ▸ escape_reads _))
    · split
      · exact took.reads (took.unread ▸ one_reads _ _)
      · cases encoding with
        | latin1 => exact .unit took
        | utf8 => exact took.reads (took.unread ▸ character_reads byte took.inside)

section Next

variable {encoding : Encoding} {fault : Fault} {s : Sequence}

theorem next_incomplete (scanned : scan encoding r.unread = .incomplete) :
    next encoding r = some (.incomplete, r) :=
  transaction_incomplete (scanned ▸ unit_reads encoding r.mark)

theorem next_malformed (scanned : scan encoding r.unread = .malformed fault rest) :
    ∃ after, next encoding r = some (.malformed fault, after) ∧ Took r rest after := by
  have reads : Reads r (scan encoding r.unread) (next encoding r) :=
    transaction_reads (unit_reads encoding r.mark)
  rw [scanned] at reads
  generalize next encoding r = read at reads
  cases reads with
  | malformed took => exact ⟨_, rfl, took⟩

theorem next_unit (scanned : scan encoding r.unread = .unit s rest) :
    ∃ after, next encoding r = some (.unit s, after) ∧ Took r rest after := by
  have reads : Reads r (scan encoding r.unread) (next encoding r) :=
    transaction_reads (unit_reads encoding r.mark)
  rw [scanned] at reads
  generalize next encoding r = read at reads
  cases reads with
  | unit took => exact ⟨_, rfl, took⟩

theorem remaining_eq_length (r : ByteReader) : r.remaining = r.unread.length :=
  (List.length_drop ..).symm

theorem Took.shorter (took : Took r rest after)
    (left : (scan encoding r.unread).rest? = some rest) : after.remaining < r.remaining := by
  have shorter := scan_shorter left
  rwa [remaining_eq_length, remaining_eq_length, took.unread]

theorem next_shorter {outcome : Outcome} (found : next encoding r = some (outcome, after))
    (decided : outcome ≠ .incomplete) : after.remaining < r.remaining := by
  cases scanned : scan encoding r.unread with
  | incomplete =>
    rw [next_incomplete scanned] at found
    cases found
    exact absurd rfl decided
  | malformed fault rest =>
    obtain ⟨_, same, took⟩ := next_malformed scanned
    rw [same] at found
    cases found
    exact took.shorter (by rw [scanned]; rfl)
  | unit s rest =>
    obtain ⟨_, same, took⟩ := next_unit scanned
    rw [same] at found
    cases found
    exact took.shorter (by rw [scanned]; rfl)

end Next

structure Settled (r : ByteReader) : Prop where
  marks : r.marks = []
  inside : Inside r

theorem Took.settled (took : Took r rest after) (settled : Settled r) : Settled after :=
  ⟨took.marks.trans settled.marks, took.inside⟩

theorem Inside.add (inside : Inside r) (bytes : List UInt8) : Inside (r.add bytes) := by
  refine Nat.le_trans inside ?_
  rw [ByteReader.add, List.length_append]
  exact Nat.le_add_right ..

theorem Settled.add (settled : Settled r) (bytes : List UInt8) : Settled (r.add bytes) :=
  ⟨settled.marks, settled.inside.add bytes⟩

theorem add_unread (inside : Inside r) (bytes : List UInt8) :
    (r.add bytes).unread = r.unread ++ bytes :=
  List.drop_append_of_le_length inside

theorem flush_unmarked (settled : Settled r) : r.flush = { bytes := r.unread } := by
  unfold ByteReader.flush ByteReader.unread
  rw [settled.marks]
  dsimp only [List.getLast?_nil, Option.getD_none]
  rw [Nat.sub_self]
  rfl

theorem remaining_eq (settled : Settled r) : remaining r = some r.remaining := sub_eq settled.inside

end VideoTerminal.Strict

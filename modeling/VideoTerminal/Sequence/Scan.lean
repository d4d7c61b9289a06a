import VideoTerminal.Sequence
import VideoTerminal.Sequence.Fault
import VideoTerminal.Text.Utf8

-- Reading one unit from the front of the input. A unit that is not complete
-- takes nothing, and the next attempt starts at its first byte again.
namespace VideoTerminal

inductive Encoding where
  | utf8
  | latin1
  deriving DecidableEq, Repr, Inhabited

namespace Byte

def bel : UInt8 := 0x07
def backspace : UInt8 := 0x08
def verticalTab : UInt8 := 0x0b
def carriageReturn : UInt8 := 0x0d
def cancel : UInt8 := 0x18
def substitute : UInt8 := 0x1a
def escape : UInt8 := 0x1b
def backslash : UInt8 := 0x5c
def singleShift3 : UInt8 := 0x8f
def stringTerminator : UInt8 := 0x9c

def isDigit (byte : UInt8) : Bool := decide (0x30 ≤ byte ∧ byte ≤ 0x39)

def aborts (byte : UInt8) : Bool := decide (byte = cancel ∨ byte = substitute)

end Byte

def Osc.withText (body : Osc) (collected : List UInt8) : Osc :=
  { body with text := String.ofList (Utf8.decodeLossy collected.reverse) }

namespace Sequence

inductive Scan where
  | incomplete
  | malformed (fault : Fault) (rest : List UInt8)
  | unit (sequence : Sequence) (rest : List UInt8)
  deriving Inhabited

def Scan.rest? : Scan → Option (List UInt8)
  | incomplete => none
  | malformed _ rest => some rest
  | unit _ rest => some rest

def maxParam : Nat := 0xffffffff

def addDigit (current : Option Nat) (digit : UInt8) : Nat :=
  min maxParam (current.getD 0 * 10 + (digit.toNat - 0x30))

-- A control sequence half read: what its body holds so far, the parameter
-- whose digits are arriving, the intermediate byte and the control bytes met
-- on the way. Markers count only before the first parameter byte.
structure CsiDraft where
  body : Csi := {}
  first : List Sequence := []
  atStart : Bool := true
  current : Option Nat := none
  modifier : Option UInt8 := none
  deriving Inhabited

inductive CsiStep where
  | more (draft : CsiDraft)
  | fault (fault : Fault)
  | final (sequence : Sequence)
  deriving Inhabited

namespace CsiDraft

def flushed (d : CsiDraft) : CsiDraft :=
  { d with
    body := { d.body with params := d.body.params ++ d.current.toList }
    current := none }

def finish (d : CsiDraft) (final : UInt8) : Sequence :=
  let command := (d.modifier.toList ++ [final]).map Char.ofUInt8
  .csi { d.flushed.body with command := String.ofList command } d.first

def step (d : CsiDraft) (byte : UInt8) : CsiStep :=
  if byte = 0x3f ∧ d.atStart then .more { d with body := { d.body with query := true } }
  else if byte = 0x3e ∧ d.atStart then .more { d with body := { d.body with send := true } }
  else if byte = 0x21 ∧ d.atStart then .more { d with body := { d.body with bang := true } }
  else if byte = 0x3b then
    .more { d with
      body := { d.body with params := d.body.params ++ [d.current.getD 0] }
      atStart := false
      current := none }
  else if Byte.isDigit byte then
    .more { d with atStart := false, current := some (addDigit d.current byte) }
  else if 0x3a ≤ byte ∧ byte ≤ 0x3f then
    .more { d with body := { d.body with privateParams := true }, atStart := false }
  else if byte = 0x24 ∨ byte = 0x22 ∨ byte = 0x20 then
    match d.modifier with
    | some earlier => .fault (.duplicateModifier (Char.ofUInt8 earlier) (Char.ofUInt8 byte))
    | none => .more { d.flushed with modifier := some byte }
  else if Byte.aborts byte then .fault (.interrupted .csi byte)
  else if byte = Byte.backspace ∨ byte = Byte.carriageReturn ∨ byte = Byte.verticalTab then
    .more { d with first := d.first ++ [.character (Char.ofUInt8 byte)] }
  else .final (d.finish byte)

end CsiDraft

-- ESC breaks a control sequence off and stays unread: it opens the next unit.
def scanCsi (d : CsiDraft) : List UInt8 → Scan
  | [] => .incomplete
  | byte :: rest =>
    if byte = Byte.escape then .malformed (.interrupted .csi byte) (byte :: rest)
    else
      match d.step byte with
      | .more next => scanCsi next rest
      | .fault fault => .malformed fault rest
      | .final sequence => .unit sequence rest

def scanStringEscape (body : Osc) : List UInt8 → Scan
  | [] => .incomplete
  | next :: rest =>
    if next = Byte.backslash then .unit (.osc body) rest
    else .malformed (.interrupted .osc Byte.escape) (Byte.escape :: next :: rest)

-- The text of an operating system command. A terminator byte inside a
-- character that is still being written belongs to the character; `pending`
-- counts the continuation bytes that its lead byte announced.
def scanOscText (body : Osc) (pending : Nat) (text : List UInt8) : List UInt8 → Scan
  | [] => .incomplete
  | byte :: rest =>
    if byte = Byte.escape then scanStringEscape (body.withText text) rest
    else if byte = Byte.bel ∨ (byte = Byte.stringTerminator ∧ pending = 0) then
      .unit (.osc (body.withText text)) rest
    else if Byte.aborts byte then .malformed (.interrupted .osc byte) rest
    else
      let pending :=
        if 0 < pending ∧ Utf8.isContinuation byte then pending - 1 else Utf8.announced byte - 1
      scanOscText body pending (byte :: text) rest

def scanOsc (body : Osc) (atStart : Bool) (current : Option Nat) : List UInt8 → Scan
  | [] => .incomplete
  | byte :: rest =>
    let closed : Osc := { body with params := body.params ++ current.toList }
    if byte = 0x3f ∧ atStart then scanOsc { body with query := true } atStart current rest
    else if byte = 0x3e ∧ atStart then scanOsc { body with send := true } atStart current rest
    else if byte = 0x21 ∧ atStart then scanOsc { body with bang := true } atStart current rest
    else if Byte.isDigit byte then scanOsc body false (some (addDigit current byte)) rest
    else if byte = 0x3b then
      match current with
      | none => .malformed (.unexpectedSeparator .osc) rest
      | some _ => scanOscText closed 0 [] rest
    else if byte = Byte.bel ∨ byte = Byte.stringTerminator then .unit (.osc closed) rest
    else if byte = Byte.escape then scanStringEscape closed rest
    else if Byte.aborts byte then .malformed (.interrupted .osc byte) rest
    else scanOscText closed 0 [] (byte :: rest)

def scanOne (unit : UInt8 → Sequence) : List UInt8 → Scan
  | [] => .incomplete
  | byte :: rest => .unit (unit byte) rest

def scanVt52Move : List UInt8 → Scan
  | row :: column :: rest =>
    .unit (.vt52Move ((row.toNat : Int) - 37) ((column.toNat : Int) - 37)) rest
  | _ => .incomplete

def scanEscape : List UInt8 → Scan
  | [] => .incomplete
  | byte :: rest =>
    if byte = 0x5b then scanCsi {} rest
    else if byte = 0x5d then scanOsc {} true none rest
    else if byte = 0x23 then scanOne (fun code => .lineSize (LineSize.ofCode code)) rest
    else if byte = 0x20 then scanOne (fun code => .compliance (Char.ofUInt8 code)) rest
    else if byte = 0x25 then scanOne (fun code => .unicode (Char.ofUInt8 code)) rest
    else if byte = 0x59 then scanVt52Move rest
    else
      match Designator.ofByte? byte with
      | some designator =>
        scanOne (fun code => .characterSet designator (CharacterSet.ofCode code)) rest
      | none => .unit (.escape (Char.ofUInt8 byte)) rest

-- A character in UTF-8. Where the continuation bytes run out with the input
-- the character may still become complete; where they are cut short by another
-- byte, or are no well-formed character, the lead byte stands for itself.
def scanCharacter (lead : UInt8) (rest : List UInt8) : Scan :=
  let wanted := Utf8.announced lead - 1
  let follow := (rest.take wanted).takeWhile Utf8.isContinuation
  if follow.length = wanted then
    match Utf8.decode? (lead :: follow) with
    | some [c] => .unit (.character c) (rest.drop wanted)
    | _ => .unit (.character (Char.ofUInt8 lead)) rest
  else if follow.length = rest.length then .incomplete
  else .unit (.character (Char.ofUInt8 lead)) rest

def scan (encoding : Encoding) : List UInt8 → Scan
  | [] => .incomplete
  | byte :: rest =>
    if byte = Byte.escape then scanEscape rest
    else if byte = Byte.singleShift3 then scanOne (fun code => .ss3 (Char.ofUInt8 code)) rest
    else
      match encoding with
      | .latin1 => .unit (.character (Char.ofUInt8 byte)) rest
      | .utf8 => scanCharacter byte rest

theorem scanCsi_step {d next : CsiDraft} {byte : UInt8} {rest : List UInt8}
    (plain : byte ≠ Byte.escape) (step : d.step byte = .more next) :
    scanCsi d (byte :: rest) = scanCsi next rest := by
  rw [scanCsi, if_neg plain, step]

theorem scan_csi (encoding : Encoding) (rest : List UInt8) :
    scan encoding (0x1b :: 0x5b :: rest) = scanCsi {} rest := by
  cases encoding <;> rfl

-- What a scan leaves is never longer than what it was given, and `scan` takes
-- at least one byte: that ends every loop over the input.
def Scan.Within (limit : Nat) (s : Scan) : Prop :=
  ∀ rest, s.rest? = some rest → rest.length ≤ limit

theorem Scan.within_incomplete (limit : Nat) : Scan.Within limit .incomplete := by
  intro rest found; cases found

theorem Scan.within_malformed {limit : Nat} {fault : Fault} {rest : List UInt8}
    (bound : rest.length ≤ limit) : Scan.Within limit (.malformed fault rest) := by
  intro _ found; cases found; exact bound

theorem Scan.within_unit {limit : Nat} {sequence : Sequence} {rest : List UInt8}
    (bound : rest.length ≤ limit) : Scan.Within limit (.unit sequence rest) := by
  intro _ found; cases found; exact bound

theorem Scan.Within.mono {small large : Nat} {s : Scan} (inside : Scan.Within small s)
    (bound : small ≤ large) : Scan.Within large s :=
  fun rest found => Nat.le_trans (inside rest found) bound

theorem scanCsi_within (d : CsiDraft) (bytes : List UInt8) :
    (scanCsi d bytes).Within bytes.length := by
  induction bytes generalizing d with
  | nil => exact Scan.within_incomplete _
  | cons byte rest ih =>
    unfold scanCsi
    split
    · exact Scan.within_malformed (Nat.le_refl _)
    · split
      · exact (ih _).mono (Nat.le_succ _)
      · exact Scan.within_malformed (Nat.le_succ _)
      · exact Scan.within_unit (Nat.le_succ _)

theorem scanStringEscape_within (body : Osc) (bytes : List UInt8) :
    (scanStringEscape body bytes).Within (bytes.length + 1) := by
  cases bytes with
  | nil => exact Scan.within_incomplete _
  | cons next rest =>
    rw [scanStringEscape]
    split
    · exact Scan.within_unit (by rw [List.length_cons]; omega)
    · exact Scan.within_malformed (Nat.le_refl _)

theorem scanOscText_within (body : Osc) (pending : Nat) (text bytes : List UInt8) :
    (scanOscText body pending text bytes).Within bytes.length := by
  induction bytes generalizing pending text with
  | nil => exact Scan.within_incomplete _
  | cons byte rest ih =>
    unfold scanOscText
    dsimp only
    split
    · exact scanStringEscape_within _ _
    · split
      · exact Scan.within_unit (Nat.le_succ _)
      · split
        · exact Scan.within_malformed (Nat.le_succ _)
        · exact (ih _ _).mono (Nat.le_succ _)

theorem scanOsc_within (body : Osc) (atStart : Bool) (current : Option Nat) (bytes : List UInt8) :
    (scanOsc body atStart current bytes).Within bytes.length := by
  induction bytes generalizing body atStart current with
  | nil => exact Scan.within_incomplete _
  | cons byte rest ih =>
    unfold scanOsc
    dsimp only
    iterate 4
      split
      · exact (ih _ _ _).mono (Nat.le_succ _)
    split
    · split
      · exact Scan.within_malformed (Nat.le_succ _)
      · exact (scanOscText_within _ _ _ _).mono (Nat.le_succ _)
    · split
      · exact Scan.within_unit (Nat.le_succ _)
      · split
        · exact scanStringEscape_within _ _
        · split
          · exact Scan.within_malformed (Nat.le_succ _)
          · exact scanOscText_within _ _ _ _

theorem scanOne_within (unit : UInt8 → Sequence) (bytes : List UInt8) :
    (scanOne unit bytes).Within bytes.length := by
  cases bytes with
  | nil => exact Scan.within_incomplete _
  | cons byte rest => exact Scan.within_unit (Nat.le_succ _)

theorem scanVt52Move_within (bytes : List UInt8) : (scanVt52Move bytes).Within bytes.length := by
  unfold scanVt52Move
  split
  · exact Scan.within_unit (by simp only [List.length_cons]; omega)
  · exact Scan.within_incomplete _

theorem scanEscape_within (bytes : List UInt8) : (scanEscape bytes).Within bytes.length := by
  cases bytes with
  | nil => exact Scan.within_incomplete _
  | cons byte rest =>
    have shorter : rest.length ≤ (byte :: rest).length := Nat.le_succ _
    rw [scanEscape]
    repeat' split
    · exact (scanCsi_within _ _).mono shorter
    · exact (scanOsc_within _ _ _ _).mono shorter
    · exact (scanOne_within _ _).mono shorter
    · exact (scanOne_within _ _).mono shorter
    · exact (scanOne_within _ _).mono shorter
    · exact (scanVt52Move_within _).mono shorter
    · exact (scanOne_within _ _).mono shorter
    · exact Scan.within_unit shorter

theorem scanCharacter_within (lead : UInt8) (rest : List UInt8) :
    (scanCharacter lead rest).Within rest.length := by
  unfold scanCharacter
  dsimp only
  split
  · split
    · exact Scan.within_unit (by rw [List.length_drop]; omega)
    · exact Scan.within_unit (Nat.le_refl _)
  · split
    · exact Scan.within_incomplete _
    · exact Scan.within_unit (Nat.le_refl _)

theorem scan_within (encoding : Encoding) (byte : UInt8) (rest : List UInt8) :
    (scan encoding (byte :: rest)).Within rest.length := by
  rw [scan.eq_def]
  dsimp only
  split
  · exact scanEscape_within _
  · split
    · exact scanOne_within _ _
    · cases encoding with
      | latin1 => exact Scan.within_unit (Nat.le_refl _)
      | utf8 => exact scanCharacter_within _ _

theorem scan_shorter {encoding : Encoding} {bytes rest : List UInt8}
    (found : (scan encoding bytes).rest? = some rest) : rest.length < bytes.length := by
  cases bytes with
  | nil => cases found
  | cons byte tail => exact Nat.lt_succ_of_le (scan_within encoding byte tail rest found)

end Sequence

end VideoTerminal

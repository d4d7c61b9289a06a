import Mathlib.Tactic.Ring
import VideoTerminal.Sequence.Reading

-- A control sequence is read as it was written, however many parameters it has
-- and however long their digits are.
namespace VideoTerminal

inductive Marker where
  | query
  | send
  | bang
  deriving DecidableEq, Repr

def Marker.byte : Marker → UInt8
  | query => 0x3f
  | send => 0x3e
  | bang => 0x21

inductive Intermediate where
  | dollar
  | quote
  | space
  deriving DecidableEq, Repr

def Intermediate.char : Intermediate → Char
  | dollar => '$'
  | quote => '"'
  | space => ' '

def Intermediate.byte : Intermediate → UInt8
  | dollar => 0x24
  | quote => 0x22
  | space => 0x20

abbrev Digits := List (Fin 10)

namespace Digits

def byte (d : Fin 10) : UInt8 := UInt8.ofNat (0x30 + d.val)

def bytes (digits : Digits) : List UInt8 := digits.map byte

def decimal : Digits → Nat
  | [] => 0
  | d :: rest => d.val * 10 ^ rest.length + decimal rest

def value (digits : Digits) : Nat := min (decimal digits) (2 ^ 32 - 1)

end Digits

-- What a sender writes: every parameter but the last has a separator behind it.
structure CsiText where
  marker : Option Marker := none
  earlier : List Digits := []
  last : Digits := []
  intermediate : Option Intermediate := none
  final : UInt8
  ends : 0x40 ≤ final ∧ final ≤ 0x7e

namespace CsiText

def parameters (t : CsiText) : List UInt8 :=
  t.earlier.flatMap (fun digits => digits.bytes ++ [0x3b]) ++ t.last.bytes

def bytes (t : CsiText) : List UInt8 :=
  [0x1b, 0x5b] ++ t.marker.toList.map Marker.byte ++ t.parameters ++
    t.intermediate.toList.map Intermediate.byte ++ [t.final]

-- An empty place is a zero, but behind the last separator it is no parameter.
def body (t : CsiText) : Csi where
  params := t.earlier.map Digits.value ++ if t.last = [] then [] else [t.last.value]
  query := t.marker = some .query
  send := t.marker = some .send
  bang := t.marker = some .bang
  privateParams := false
  command := String.ofList (t.intermediate.toList.map Intermediate.char ++ [Char.ofUInt8 t.final])

end CsiText

namespace Sequence

theorem isDigit_byte (d : Fin 10) : Byte.isDigit (Digits.byte d) = true := by
  revert d
  decide

theorem addDigit_byte (n : Nat) (d : Fin 10) :
    addDigit (some n) (Digits.byte d) = min (n * 10 + d.val) maxParam := by
  have digit : (Digits.byte d).toNat - 0x30 = d.val := by
    revert d
    decide
  rw [addDigit, digit, Option.getD_some, Nat.min_comm]

variable {d : CsiDraft} {byte : UInt8}

namespace CsiDraft

theorem step_marker (start : d.atStart = true) (marker : Marker) :
    d.step marker.byte = .more { d with body := { d.body with
      query := d.body.query || marker = .query
      send := d.body.send || marker = .send
      bang := d.body.bang || marker = .bang } } := by
  cases marker <;> simp [step, start, Marker.byte]

theorem step_separator :
    d.step 0x3b = .more { d with
      body := { d.body with params := d.body.params ++ [d.current.getD 0] }
      atStart := false
      current := none } := by
  simp [step]

theorem step_digit (digit : Byte.isDigit byte = true) :
    d.step byte = .more { d with atStart := false, current := some (addDigit d.current byte) } := by
  have other : ∀ code : UInt8, Byte.isDigit code = false → byte ≠ code := by
    rintro code none rfl
    rw [digit] at none
    cases none
  have query := other 0x3f (by decide)
  have send := other 0x3e (by decide)
  have bang := other 0x21 (by decide)
  have separator := other 0x3b (by decide)
  simp [step, query, send, bang, separator, digit]

theorem step_intermediate (unmodified : d.modifier = none) (i : Intermediate) :
    d.step i.byte = .more { d.flushed with modifier := some i.byte } := by
  cases i <;> simp [step, unmodified, Intermediate.byte, Byte.isDigit]

theorem step_final (ends : 0x40 ≤ byte ∧ byte ≤ 0x7e) : d.step byte = .final (d.finish byte) := by
  have other : ∀ code : UInt8, code < 0x40 → byte ≠ code := by
    rintro code low rfl
    exact absurd ends.1 (UInt8.not_le.mpr low)
  have digit : Byte.isDigit byte = false := by
    rw [Byte.isDigit, decide_eq_false_iff_not]
    rintro ⟨-, most⟩
    exact absurd (UInt8.le_trans ends.1 most) (by decide)
  have reserved : ¬(0x3a ≤ byte ∧ byte ≤ 0x3f) := by
    rintro ⟨-, most⟩
    exact absurd (UInt8.le_trans ends.1 most) (by decide)
  simp [step, other, digit, reserved, Byte.aborts, Byte.cancel, Byte.substitute, Byte.backspace,
    Byte.carriageReturn, Byte.verticalTab]

end CsiDraft

def accumulated (current : Option Nat) (digits : Digits) : Option Nat :=
  digits.foldl (fun current d => some (addDigit current (Digits.byte d))) current

theorem accumulated_some (n : Nat) (digits : Digits) :
    accumulated (some (min n maxParam)) digits =
      some (min (n * 10 ^ digits.length + digits.decimal) maxParam) := by
  induction digits generalizing n with
  | nil => simp [accumulated, Digits.decimal]
  | cons d rest ih =>
    have digit : addDigit (some (min n maxParam)) (Digits.byte d) = min (n * 10 + d.val) maxParam := by
      rw [addDigit_byte]
      omega
    have places : (n * 10 + d.val) * 10 ^ rest.length + Digits.decimal rest =
        n * 10 ^ (d :: rest).length + Digits.decimal (d :: rest) := by
      simp only [Digits.decimal, List.length_cons]
      ring
    rw [← places, ← ih, ← digit]
    rfl

theorem accumulated_none (digits : Digits) :
    accumulated none digits = if digits = [] then none else some digits.value := by
  cases digits with
  | nil => rfl
  | cons d rest =>
    have read := accumulated_some 0 (d :: rest)
    rw [Nat.zero_mul, Nat.zero_add] at read
    exact read

theorem scanCsi_digits (d : CsiDraft) (digits : Digits) (rest : List UInt8) :
    scanCsi d (digits.bytes ++ rest) = scanCsi { d with
      atStart := d.atStart && digits.isEmpty
      current := accumulated d.current digits } rest := by
  induction digits generalizing d with
  | nil => simp [accumulated, Digits.bytes]
  | cons digit others ih =>
    have plain : Digits.byte digit ≠ Byte.escape := by
      revert digit
      decide
    rw [Digits.bytes, List.map_cons, List.cons_append,
      scanCsi_step plain (CsiDraft.step_digit (isDigit_byte digit))]
    refine (ih _).trans ?_
    simp [accumulated]

theorem scanCsi_earlier {d : CsiDraft} (idle : d.current = none) (earlier : List Digits)
    (rest : List UInt8) :
    scanCsi d (earlier.flatMap (fun digits => digits.bytes ++ [0x3b]) ++ rest) = scanCsi { d with
      body := { d.body with params := d.body.params ++ earlier.map Digits.value }
      atStart := d.atStart && earlier.isEmpty } rest := by
  induction earlier generalizing d with
  | nil => simp
  | cons digits others ih =>
    have number : (accumulated none digits).getD 0 = digits.value := by
      rw [accumulated_none]
      cases digits <;> rfl
    rw [List.flatMap_cons, List.append_assoc, List.append_assoc, scanCsi_digits, List.singleton_append,
      scanCsi_step (by decide) CsiDraft.step_separator]
    dsimp only
    rw [ih rfl, idle, number]
    simp

theorem scanCsi_end {d : CsiDraft} (unmodified : d.modifier = none) (t : CsiText)
    (rest : List UInt8) :
    scanCsi d (t.intermediate.toList.map Intermediate.byte ++ ([t.final] ++ rest)) =
      .unit (.csi { d.flushed.body with command := t.body.command } d.first) rest := by
  have plain : t.final ≠ Byte.escape := by
    intro same
    have range := same ▸ t.ends.1
    exact absurd range (by decide)
  have final (e : CsiDraft) : scanCsi e ([t.final] ++ rest) = .unit (e.finish t.final) rest := by
    rw [List.singleton_append, scanCsi, if_neg plain, CsiDraft.step_final t.ends]
  cases inter : t.intermediate with
  | none =>
    rw [Option.toList_none, List.map_nil, List.nil_append, final]
    simp [CsiDraft.finish, unmodified, CsiText.body, inter]
  | some i =>
    have other : i.byte ≠ Byte.escape := by cases i <;> decide
    have glyph : Char.ofUInt8 i.byte = i.char := by cases i <;> rfl
    rw [Option.toList_some, List.map_singleton, List.singleton_append,
      scanCsi_step other (CsiDraft.step_intermediate unmodified i), final]
    simp [CsiDraft.finish, CsiDraft.flushed, CsiText.body, inter, glyph]

theorem scanCsi_parameters {d : CsiDraft} (idle : d.current = none) (t : CsiText)
    (rest : List UInt8) :
    scanCsi d (t.parameters ++ rest) = scanCsi { d with
      body := { d.body with params := d.body.params ++ t.earlier.map Digits.value }
      atStart := d.atStart && t.earlier.isEmpty && t.last.isEmpty
      current := if t.last = [] then none else some t.last.value } rest := by
  rw [CsiText.parameters, List.append_assoc, scanCsi_earlier idle, scanCsi_digits]
  simp only [idle, accumulated_none]

theorem scan_written (encoding : Encoding) (t : CsiText) (rest : List UInt8) :
    scan encoding (t.bytes ++ rest) = .unit (.csi t.body []) rest := by
  have marked : ∀ tail, scanCsi {} (t.marker.toList.map Marker.byte ++ tail) = scanCsi { body := {
      query := t.marker = some .query
      send := t.marker = some .send
      bang := t.marker = some .bang } } tail := by
    intro tail
    cases t.marker with
    | none => rfl
    | some marker =>
      have plain : marker.byte ≠ Byte.escape := by cases marker <;> decide
      rw [Option.toList_some, List.map_singleton, List.singleton_append,
        scanCsi_step plain (CsiDraft.step_marker rfl marker)]
      simp
  rw [CsiText.bytes]
  simp only [List.append_assoc, List.cons_append, List.nil_append]
  rw [scan_csi, marked, scanCsi_parameters rfl]
  refine (scanCsi_end rfl t rest).trans ?_
  simp only [CsiDraft.flushed, CsiText.body, List.nil_append]
  split <;> rfl

end Sequence

theorem ByteReader.next_reads_written (t : CsiText) (encoding : Encoding) (before rest : List UInt8)
    (marks : List Nat) :
    (ByteReader.mk (before ++ t.bytes ++ rest) before.length marks).next encoding =
      (some (.ok (.csi t.body [])),
        ⟨before ++ t.bytes ++ rest, before.length + t.bytes.length, marks⟩) := by
  have parts : (ByteReader.mk (before ++ t.bytes ++ rest) before.length marks).unread =
      t.bytes ++ rest := by
    rw [ByteReader.unread, List.append_assoc, List.drop_left]
  exact ByteReader.next_unit parts (Sequence.scan_written encoding t rest)

example :
    let t : CsiText :=
      { marker := some .query, earlier := [[], [0, 7]], final := 0x68, ends := by decide }
    t.bytes = Utf8.encodeString "\x1b[?;07;h" ∧ t.body.params = [0, 7] := by
  decide

end VideoTerminal

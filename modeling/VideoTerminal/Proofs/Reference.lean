import Mathlib.Data.List.TakeWhile
import VideoTerminal.Proofs.Decoding
import VideoTerminal.Proofs.Scanning
import VideoTerminal.Sequence.Reading

-- Plain input against a reference decoder. The reference sees all the input that
-- is left at each unit, so it has nothing to look ahead for or to take back.
namespace VideoTerminal.Reference
open Sequence

-- The character that is written at the front, as the standard library decodes it.
-- Overlong forms, surrogates and numbers past the last one are no characters.
def front? (bytes : List UInt8) : Option Char := bytes.toByteArray.utf8DecodeChar? 0

def asked (lead : UInt8) : Nat := if lead < 0xe0 then 1 else if lead < 0xf0 then 2 else 3

def CutShort : List UInt8 → Prop
  | [] => False
  | lead :: follow =>
    (0xc0 ≤ lead ∧ lead ≤ 0xf7) ∧ (∀ byte ∈ follow, 0x80 ≤ byte ∧ byte ≤ 0xbf) ∧
      follow.length < asked lead

instance : DecidablePred CutShort
  | [] => inferInstanceAs (Decidable False)
  | lead :: follow =>
    -- Down the list: a search over all 256 bytes is too long to evaluate.
    have : Decidable (∀ byte ∈ follow, 0x80 ≤ byte ∧ byte ≤ 0xbf) := List.decidableBAll _ follow
    inferInstanceAs (Decidable ((0xc0 ≤ lead ∧ lead ≤ 0xf7) ∧
      (∀ byte ∈ follow, 0x80 ≤ byte ∧ byte ≤ 0xbf) ∧ follow.length < asked lead))

def first? : List UInt8 → Option (Sequence × List UInt8)
  | [] => none
  | byte :: rest =>
    if byte = 0x8f then
      match rest with
      | [] => none
      | code :: rest => some (.ss3 (Char.ofUInt8 code), rest)
    else
      match front? (byte :: rest) with
      | some c => some (.character c, (byte :: rest).drop c.utf8Size)
      | none =>
        if CutShort (byte :: rest) then none else some (.character (Char.ofUInt8 byte), rest)

theorem first?_suffix {bytes rest : List UInt8} {s : Sequence}
    (found : first? bytes = some (s, rest)) : rest <:+ bytes ∧ rest.length < bytes.length := by
  match bytes with
  | [] => cases found
  | byte :: behind =>
    simp only [first?] at found
    split at found
    · split at found
      · cases found
      · cases found
        exact ⟨⟨[byte, _], rfl⟩, by simp only [List.length_cons]; omega⟩
    · split at found
      · rename_i c _
        cases found
        have positive := c.utf8Size_pos
        exact ⟨List.drop_suffix _ _, by simp only [List.length_drop, List.length_cons]; omega⟩
      · split at found
        · cases found
        · cases found
          exact ⟨⟨[byte], rfl⟩, Nat.lt_succ_self _⟩

def read (bytes : List UInt8) : List Sequence × List UInt8 :=
  match _found : first? bytes with
  | none => ([], bytes)
  | some (s, rest) =>
    let (others, left) := read rest
    (s :: others, left)
termination_by bytes.length
decreasing_by exact (first?_suffix _found).2

theorem read_stopped {bytes : List UInt8} (found : first? bytes = none) :
    read bytes = ([], bytes) := by
  rw [read]
  split <;> simp_all

theorem read_found {bytes rest : List UInt8} {s : Sequence}
    (found : first? bytes = some (s, rest)) : read bytes = (s :: (read rest).1, (read rest).2) := by
  rw [read]
  split <;> simp_all

theorem front?_iff {bytes : List UInt8} {c : Char} :
    front? bytes = some c ↔ ∃ rest, bytes = String.utf8EncodeChar c ++ rest := by
  constructor
  · intro found
    obtain ⟨rest, whole⟩ := ByteArray.exists_of_utf8DecodeChar?_eq_some found
    refine ⟨rest.data.toList, ?_⟩
    have items := congrArg (·.data.toList) whole
    simpa only [ByteArray.data_append, Array.toList_append, List.toList_data_toByteArray] using items
  · rintro ⟨rest, rfl⟩
    rw [front?, List.toByteArray_append, ByteArray.utf8DecodeChar?_utf8EncodeChar_append]

theorem asked_eq {lead : UInt8} (range : 0xc0 ≤ lead ∧ lead ≤ 0xf7) :
    asked lead = Utf8.announced lead - 1 := by
  simp only [UInt8.le_iff_toNat_le, UInt8.reduceToNat] at range
  simp only [asked, Utf8.announced, UInt8.lt_iff_toNat_lt, UInt8.le_iff_toNat_le, UInt8.reduceToNat]
  split <;> rename_i two
  · rw [if_pos (by omega)]
  split <;> rename_i three
  · rw [if_neg (by omega), if_pos (by omega)]
  · rw [if_neg (by omega), if_neg (by omega), if_pos (by omega)]

theorem announces {lead : UInt8} (more : 1 < Utf8.announced lead) : 0xc0 ≤ lead ∧ lead ≤ 0xf7 := by
  simp only [Utf8.announced, UInt8.le_iff_toNat_le, UInt8.reduceToNat] at more ⊢
  split at more
  · omega
  split at more
  · omega
  split at more
  · omega
  · omega

theorem cutShort_iff (lead : UInt8) (rest : List UInt8) :
    CutShort (lead :: rest) ↔
      let follow := (rest.take (Utf8.announced lead - 1)).takeWhile Utf8.isContinuation
      follow.length ≠ Utf8.announced lead - 1 ∧ follow.length = rest.length := by
  have bytes (byte : UInt8) : (0x80 ≤ byte ∧ byte ≤ 0xbf) ↔ Utf8.isContinuation byte = true := by
    rw [Utf8.isContinuation, decide_eq_true_iff]
  simp only [CutShort, bytes]
  constructor
  · rintro ⟨range, continuations, few⟩
    rw [asked_eq range] at few
    rw [List.take_of_length_le (Nat.le_of_lt few), List.takeWhile_eq_self_iff.mpr continuations]
    exact ⟨Nat.ne_of_lt few, rfl⟩
  · rintro ⟨short, whole⟩
    have bound := takeWhile_take_length_le Utf8.isContinuation (Utf8.announced lead - 1) rest
    have range : 0xc0 ≤ lead ∧ lead ≤ 0xf7 := announces (by omega)
    have all : (rest.take (Utf8.announced lead - 1)).takeWhile Utf8.isContinuation = rest :=
      ((List.takeWhile_prefix _).trans (List.take_prefix _ _)).eq_of_length whole
    refine ⟨range, ?_, by rw [asked_eq range]; omega⟩
    intro byte member
    rw [← all] at member
    exact List.mem_takeWhile_imp member

theorem scanCharacter_unwritten {byte : UInt8} {rest : List UInt8}
    (found : front? (byte :: rest) = none) :
    scanCharacter byte rest =
      if CutShort (byte :: rest) then .incomplete
      else .unit (.character (Char.ofUInt8 byte)) rest := by
  have unwritten : ∀ c : Char, ∀ behind, byte :: rest ≠ String.utf8EncodeChar c ++ behind := by
    intro c behind same
    rw [front?_iff.mpr ⟨behind, same⟩] at found
    cases found
  unfold scanCharacter
  simp only [cutShort_iff]
  generalize Utf8.announced byte - 1 = wanted
  by_cases full : ((rest.take wanted).takeWhile Utf8.isContinuation).length = wanted
  · rw [if_pos full, if_neg (fun cut => cut.1 full)]
    split
    · rename_i c decoded
      have front := Utf8.encode_of_decode? decoded
      have parts : rest = (rest.take wanted).takeWhile Utf8.isContinuation ++ rest.drop wanted := by
        have taken : (rest.take wanted).takeWhile Utf8.isContinuation = rest.take wanted :=
          (List.takeWhile_prefix _).eq_of_length_le (by rw [full]; exact List.length_take_le _ _)
        rw [taken, List.take_append_drop]
      refine absurd ?_ (unwritten c (rest.drop wanted))
      rw [show String.utf8EncodeChar c = Utf8.encode [c] from (List.append_nil _).symm, front,
        List.cons_append, ← parts]
    · rfl
  · rw [if_neg full]
    simp only [ne_eq, full, not_false_eq_true, true_and]

theorem scan_first? {bytes : List UInt8} (plain : Byte.escape ∉ bytes) :
    scan .utf8 bytes =
      match first? bytes with
      | none => .incomplete
      | some (s, rest) => .unit s rest := by
  match bytes with
  | [] => rfl
  | byte :: rest =>
    have other : byte ≠ Byte.escape := fun same => plain (same ▸ List.mem_cons_self)
    by_cases shift : byte = 0x8f
    · rw [scan.eq_def, first?.eq_def]
      dsimp only
      rw [if_neg other, if_pos shift, if_pos (show byte = Byte.singleShift3 from shift)]
      cases rest with
      | nil => rfl
      | cons code rest => rfl
    · cases found : front? (byte :: rest) with
      | some c =>
        obtain ⟨behind, same⟩ := front?_iff.mp found
        have unescaped : c.toNat ≠ 0x1b := by
          intro escape
          obtain rfl : c = '\x1b' := Char.toNat_inj.mp escape
          exact other (List.cons.inj same).1
        rw [first?.eq_def]
        dsimp only
        rw [if_neg shift, found, same, scan_character unescaped]
        dsimp only
        rw [List.drop_left' (String.length_utf8EncodeChar c)]
      | none =>
        rw [scan.eq_def, first?.eq_def]
        dsimp only
        rw [if_neg other, if_neg shift, if_neg (show byte ≠ Byte.singleShift3 from shift), found,
          scanCharacter_unwritten found]
        dsimp only
        split <;> rfl

theorem read_suffix (bytes : List UInt8) : (read bytes).2 <:+ bytes := by
  induction bytes using read.induct with
  | case1 bytes found => exact ⟨[], congrArg Prod.snd (read_stopped found)⟩
  | case2 bytes s rest found _ _ _ ih =>
    rw [read_found found]
    exact ih.trans (first?_suffix found).1

theorem first?_left (bytes : List UInt8) : first? (read bytes).2 = none := by
  induction bytes using read.induct with
  | case1 bytes found => rwa [read_stopped found]
  | case2 bytes s rest found _ _ _ ih => rwa [read_found found]

theorem asked_le (lead : UInt8) : asked lead ≤ 3 := by
  unfold asked
  split
  · decide
  · split <;> decide

theorem length_of_stopped {bytes : List UInt8} (found : first? bytes = none) :
    bytes.length ≤ 3 := by
  match bytes with
  | [] => exact Nat.zero_le _
  | byte :: rest =>
    simp only [first?] at found
    split at found
    · split at found
      · exact Nat.le_of_ble_eq_true rfl
      · cases found
    · split at found
      · cases found
      · split at found
        · rename_i cut
          have bound := asked_le byte
          have few := cut.2.2
          rw [List.length_cons]
          omega
        · cases found

theorem drain_read {r : ByteReader} (plain : Byte.escape ∉ r.unread) :
    r.drain .utf8 = ((read r.unread).1.map .ok,
      r.advance (r.unread.length - (read r.unread).2.length)) := by
  generalize whole : r.unread = bytes at plain ⊢
  have scanned := scan_first? plain
  induction bytes using read.induct generalizing r with
  | case1 bytes found =>
    rw [found] at scanned
    rw [ByteReader.drain_incomplete (whole ▸ scanned), read_stopped found, Nat.sub_self]
    rfl
  | case2 bytes s rest found _ _ _ ih =>
    rw [found] at scanned
    obtain ⟨front, rfl⟩ := (first?_suffix found).1
    have later : Byte.escape ∉ rest := fun member => plain (List.mem_append_right _ member)
    have bound := (read_suffix rest).length_le
    rw [ByteReader.drain_unit whole scanned, read_found found,
      ih (ByteReader.unread_advance whole) later (scan_first? later)]
    simp only [ByteReader.advance_advance, List.map_cons, List.length_append]
    rw [Nat.add_sub_assoc bound]

theorem drain_text {r : ByteReader} {text : List Char} (plain : '\x1b' ∉ text)
    (written : r.unread = Utf8.encode text) :
    r.drain .utf8 = (text.map fun c => .ok (.character c), r.advance r.unread.length) := by
  induction text generalizing r with
  | nil =>
    have stopped : scan .utf8 r.unread = .incomplete := by rw [written]; rfl
    rw [ByteReader.drain_incomplete stopped, written]
    rfl
  | cons c rest ih =>
    have unescaped : c.toNat ≠ 0x1b := by
      intro escape
      obtain rfl : c = '\x1b' := Char.toNat_inj.mp escape
      exact plain List.mem_cons_self
    have parts : r.unread = String.utf8EncodeChar c ++ Utf8.encode rest := written
    have left := ByteReader.unread_advance parts
    have later := ih (fun member => plain (List.mem_cons_of_mem _ member)) left
    rw [ByteReader.drain_unit parts (scan_character unescaped _), later, left]
    simp only [ByteReader.advance_advance, List.map_cons]
    rw [parts, List.length_append]

theorem drain_reads_reference (r : ByteReader) :
    (Byte.escape ∉ r.unread →
      r.drain .utf8 = ((read r.unread).1.map .ok,
        r.advance (r.unread.length - (read r.unread).2.length)) ∧
      (r.drain .utf8).2.unread = (read r.unread).2 ∧ (read r.unread).2.length ≤ 3) ∧
    ∀ text : String, '\x1b' ∉ text.toList → r.unread = Utf8.encodeString text →
      r.drain .utf8 = (text.toList.map fun c => .ok (.character c), r.advance r.unread.length) ∧
      (r.drain .utf8).2.unread = [] := by
  refine ⟨fun plain => ?_, fun text plain written => ?_⟩
  · have drained := drain_read plain
    refine ⟨drained, ?_, length_of_stopped (first?_left _)⟩
    obtain ⟨taken, parts⟩ := read_suffix r.unread
    have length := congrArg List.length parts
    rw [List.length_append] at length
    rw [drained, show r.unread.length - (read r.unread).2.length = taken.length by omega]
    exact ByteReader.unread_advance parts.symm
  · have drained := drain_text plain written
    refine ⟨drained, ?_⟩
    rw [drained]
    exact ByteReader.unread_advance (List.append_nil _).symm

theorem drain_reads_reference_mixed :
    let r : ByteReader := ⟨[0xc3, 0xa9, 0x8f, 0x50, 0xe0, 0x41, 0xe2, 0x82], 0, []⟩
    let control : ByteReader := ⟨[0xc2, 0x9c], 0, []⟩
    r.drain .utf8 =
      ([.ok (.character 'é'), .ok (.ss3 'P'), .ok (.character 'à'), .ok (.character 'A')],
        r.advance 6) ∧
      control.drain .utf8 = ([.ok (.character '\u009c')], control.advance 2) := by
  intro r control
  have whole : first? r.unread =
      some (.character 'é', [0x8f, 0x50, 0xe0, 0x41, 0xe2, 0x82]) := rfl
  have shift : first? [0x8f, 0x50, 0xe0, 0x41, 0xe2, 0x82] =
      some (.ss3 'P', [0xe0, 0x41, 0xe2, 0x82]) := rfl
  have broken : first? [0xe0, 0x41, 0xe2, 0x82] =
      some (.character 'à', [0x41, 0xe2, 0x82]) := rfl
  have letter : first? [0x41, 0xe2, 0x82] = some (.character 'A', [0xe2, 0x82]) := rfl
  have short : first? [0xe2, 0x82] = none := rfl
  have units : read r.unread =
      ([.character 'é', .ss3 'P', .character 'à', .character 'A'], [0xe2, 0x82]) := by
    rw [read_found whole, read_found shift, read_found broken, read_found letter,
      read_stopped short]
  obtain ⟨drained, -, -⟩ := (drain_reads_reference r).1 (by decide)
  obtain ⟨written, -⟩ := (drain_reads_reference control).2 "\u009c" (by simp) (by decide)
  rw [units] at drained
  exact ⟨drained, written⟩

end VideoTerminal.Reference

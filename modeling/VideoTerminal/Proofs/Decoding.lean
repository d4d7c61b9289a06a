import VideoTerminal.Sequence.Scan

-- What is written as UTF-8 is read as the same text.
namespace VideoTerminal

namespace Utf8

-- The bytes of a character by their number, with the bits that each carries.
inductive Written (c : Char) : List UInt8 → Prop where
  | one {a : UInt8} (most : c.toNat < 0x80) (lead : a.toNat = c.toNat) : Written c [a]
  | two {a b : UInt8} (least : 0x80 ≤ c.toNat) (most : c.toNat < 0x800)
      (lead : a.toNat = 0xc0 + c.toNat / 64) (last : b.toNat = 0x80 + c.toNat % 64) :
      Written c [a, b]
  | three {a b d : UInt8} (least : 0x800 ≤ c.toNat) (most : c.toNat < 0x10000)
      (lead : a.toNat = 0xe0 + c.toNat / 4096) (second : b.toNat = 0x80 + c.toNat / 64 % 64)
      (last : d.toNat = 0x80 + c.toNat % 64) : Written c [a, b, d]
  | four {a b d e : UInt8} (least : 0x10000 ≤ c.toNat)
      (lead : a.toNat = 0xf0 + c.toNat / 262144) (second : b.toNat = 0x80 + c.toNat / 4096 % 64)
      (third : d.toNat = 0x80 + c.toNat / 64 % 64) (last : e.toNat = 0x80 + c.toNat % 64) :
      Written c [a, b, d, e]

theorem toNat_lt (c : Char) : c.toNat < 0x110000 := by
  rcases c.valid with low | ⟨-, high⟩
  · exact Nat.lt_trans low (by decide)
  · exact high

theorem not_surrogate (c : Char) : c.toNat < 0xd800 ∨ 0xdfff < c.toNat := by
  rcases c.valid with low | ⟨high, -⟩
  · exact .inl low
  · exact .inr high

theorem written (c : Char) : Written c (String.utf8EncodeChar c) := by
  have bound := toNat_lt c
  have value : c.val.toNat = c.toNat := rfl
  unfold String.utf8EncodeChar
  simp only [value]
  split
  · refine .one (by omega) ?_
    rw [UInt8.toNat_ofNat']
    omega
  split
  · refine .two (by omega) (by omega) ?_ ?_ <;> rw [UInt8.toNat_ofNat'] <;> omega
  split
  · refine .three (by omega) (by omega) ?_ ?_ ?_ <;> rw [UInt8.toNat_ofNat'] <;> omega
  · refine .four (by omega) ?_ ?_ ?_ ?_ <;> rw [UInt8.toNat_ofNat'] <;> omega

theorem isContinuation_iff (byte : UInt8) :
    isContinuation byte = true ↔ 0x80 ≤ byte.toNat ∧ byte.toNat ≤ 0xbf := by
  simp [isContinuation, UInt8.le_iff_toNat_le]

theorem mayFollow_iff (lead next : UInt8) :
    mayFollow lead next = true ↔ 0x80 ≤ next.toNat ∧ next.toNat ≤ 0xbf ∧
      (lead.toNat = 0xe0 → 0xa0 ≤ next.toNat) ∧ (lead.toNat = 0xed → next.toNat ≤ 0x9f) ∧
      (lead.toNat = 0xf0 → 0x90 ≤ next.toNat) ∧ (lead.toNat = 0xf4 → next.toNat ≤ 0x8f) := by
  simp only [mayFollow, isContinuation, ← UInt8.toNat_inj, UInt8.le_iff_toNat_le]
  split
  · simp_all; omega
  split
  · simp_all; omega
  split
  · simp_all; omega
  split
  · simp_all; omega
  simp_all

theorem ofNat_eq {c : Char} {n : Nat} (same : n = c.toNat) : Char.ofNat n = c := by
  rw [same, Char.ofNat_toNat]

theorem ofUInt8_eq {c : Char} {a : UInt8} (same : a.toNat = c.toNat) : Char.ofUInt8 a = c := by
  refine Char.ext (UInt32.toNat_inj.mp ?_)
  exact (UInt8.toNat_toUInt32 a).trans same

-- Each length goes down one path of the reader, and the bits put together again
-- make the number of the character.
theorem decodeLossy_written {c : Char} {bytes : List UInt8} (written : Written c bytes)
    (rest : List UInt8) : decodeLossy (bytes ++ rest) = c :: decodeLossy rest := by
  have bound := toNat_lt c
  have surrogate := not_surrogate c
  cases written with
  | @one a most lead =>
    simp only [List.cons_append, List.nil_append]
    rw [decodeLossy.eq_def]
    simp only [UInt8.lt_iff_toNat_lt, lead, UInt8.reduceToNat]
    rw [if_pos most, ofUInt8_eq lead]
  | @two a b least most lead last =>
    have second : mayFollow a b = true := by
      rw [mayFollow_iff]
      omega
    simp only [List.cons_append, List.nil_append]
    rw [decodeLossy.eq_def]
    simp only [UInt8.lt_iff_toNat_lt, UInt8.le_iff_toNat_le, lead, second, UInt8.reduceToNat]
    rw [if_neg (by omega), if_pos (by omega), if_pos trivial, if_pos (by omega), ofNat_eq]
    unfold payload
    omega
  | @three a b d least most lead second last =>
    have next : mayFollow a b = true := by
      rw [mayFollow_iff]
      omega
    have third : isContinuation d = true := by
      rw [isContinuation_iff]
      omega
    simp only [List.cons_append, List.nil_append]
    rw [decodeLossy.eq_def]
    simp only [UInt8.lt_iff_toNat_lt, UInt8.le_iff_toNat_le, lead, next, third, UInt8.reduceToNat]
    rw [if_neg (by omega), if_pos (by omega), if_pos trivial, if_neg (by omega), if_pos trivial,
      if_pos (by omega), ofNat_eq]
    unfold payload
    omega
  | @four a b d e least lead second third last =>
    have next : mayFollow a b = true := by
      rw [mayFollow_iff]
      omega
    have follow : isContinuation d = true ∧ isContinuation e = true := by
      rw [isContinuation_iff, isContinuation_iff]
      omega
    simp only [List.cons_append, List.nil_append]
    rw [decodeLossy.eq_def]
    simp only [UInt8.lt_iff_toNat_lt, UInt8.le_iff_toNat_le, lead, next, follow, UInt8.reduceToNat]
    rw [if_neg (by omega), if_pos (by omega), if_pos trivial, if_neg (by omega), if_pos trivial,
      if_neg (by omega), if_pos trivial, ofNat_eq]
    unfold payload
    omega

theorem decodeLossy_encode (text : List Char) : decodeLossy (encode text) = text := by
  induction text with
  | nil => rfl
  | cons c rest ih => exact (decodeLossy_written (written c) (encode rest)).trans (by rw [ih])

theorem decode?_encode (text : List Char) : decode? (encode text) = some text := by
  rw [decode?, decodeLossy_encode, if_pos rfl]

theorem Written.shape {c : Char} {bytes : List UInt8} (written : Written c bytes) :
    ∃ lead follow, bytes = lead :: follow ∧ announced lead - 1 = follow.length ∧
      (∀ byte ∈ follow, isContinuation byte = true) ∧
      (lead.toNat = c.toNat ∧ c.toNat < 0x80 ∨ 0xc0 ≤ lead.toNat) := by
  have bound := toNat_lt c
  cases written with
  | @one a most lead =>
    refine ⟨a, [], rfl, ?_, by simp, .inl ⟨lead, most⟩⟩
    simp only [announced, UInt8.le_iff_toNat_le, lead, UInt8.reduceToNat]
    rw [if_neg (by omega), if_neg (by omega), if_neg (by omega)]
    rfl
  | @two a b least most lead last =>
    refine ⟨a, [b], rfl, ?_, ?_, .inr (by omega)⟩
    · simp only [announced, UInt8.le_iff_toNat_le, lead, UInt8.reduceToNat]
      rw [if_pos (by omega)]
      rfl
    · simp only [List.forall_mem_singleton, isContinuation_iff]
      omega
  | @three a b d least most lead second last =>
    refine ⟨a, [b, d], rfl, ?_, ?_, .inr (by omega)⟩
    · simp only [announced, UInt8.le_iff_toNat_le, lead, UInt8.reduceToNat]
      rw [if_neg (by omega), if_pos (by omega)]
      rfl
    · simp only [List.forall_mem_cons, isContinuation_iff]
      exact ⟨by omega, by omega, nofun⟩
  | @four a b d e least lead second third last =>
    refine ⟨a, [b, d, e], rfl, ?_, ?_, .inr (by omega)⟩
    · simp only [announced, UInt8.le_iff_toNat_le, lead, UInt8.reduceToNat]
      rw [if_neg (by omega), if_neg (by omega), if_pos (by omega)]
      rfl
    · simp only [List.forall_mem_cons, isContinuation_iff]
      exact ⟨by omega, by omega, by omega, nofun⟩

end Utf8

namespace Sequence

theorem scan_character {c : Char} (plain : c.toNat ≠ 0x1b) (rest : List UInt8) :
    scan .utf8 (String.utf8EncodeChar c ++ rest) = .unit (.character c) rest := by
  obtain ⟨lead, follow, bytes, wanted, continuations, range⟩ := (Utf8.written c).shape
  have read : Utf8.decode? (lead :: follow) = some [c] := by
    have one : Utf8.encode [c] = lead :: follow := by
      rw [← bytes]
      exact List.append_nil _
    rw [← one, Utf8.decode?_encode]
  have noEscape : lead ≠ Byte.escape := by
    rintro rfl
    have escape : Byte.escape.toNat = 0x1b := rfl
    omega
  have noShift : lead ≠ Byte.singleShift3 := by
    rintro rfl
    have shift : Byte.singleShift3.toNat = 0x8f := rfl
    omega
  have whole : ((follow ++ rest).take follow.length).takeWhile Utf8.isContinuation = follow := by
    have kept : (follow ++ []).takeWhile Utf8.isContinuation = follow ++ [] :=
      List.takeWhile_append_of_pos continuations
    rw [List.take_left]
    simpa only [List.append_nil] using kept
  rw [bytes, List.cons_append, scan.eq_def]
  simp only [if_neg noEscape, if_neg noShift]
  unfold scanCharacter
  simp only [wanted, whole, read, List.drop_left, if_pos]

end Sequence

end VideoTerminal

import VideoTerminal.Proofs.CsiText
import VideoTerminal.Terminal.Perform

-- Numbers in decimal as the parameters of a control sequence. They arrive as they
-- are, as far as 32 bits hold them.
namespace VideoTerminal

namespace Digits

def ofNat (n : Nat) : Digits :=
  if small : n < 10 then [⟨n, small⟩]
  else ofNat (n / 10) ++ [⟨n % 10, Nat.mod_lt n (by decide)⟩]

theorem ofNat_small {n : Nat} (small : n < 10) : ofNat n = [⟨n, small⟩] := by
  rw [ofNat, dif_pos small]

theorem ofNat_large {n : Nat} (large : ¬n < 10) :
    ofNat n = ofNat (n / 10) ++ [⟨n % 10, Nat.mod_lt n (by decide)⟩] := by
  rw [ofNat, dif_neg large]

theorem ofNat_ne_nil (n : Nat) : ofNat n ≠ [] := by
  by_cases small : n < 10
  · rw [ofNat_small small]
    exact List.cons_ne_nil _ _
  · rw [ofNat_large small]
    exact List.append_ne_nil_of_right_ne_nil _ (List.cons_ne_nil _ _)

theorem encode_digitChar (d : Fin 10) : Utf8.encode [Nat.digitChar d.val] = [byte d] := by
  revert d
  decide

theorem bytes_ofNat (n : Nat) : (ofNat n).bytes = Terminal.decimal n := by
  induction n using Nat.strongRecOn with
  | ind n ih =>
    by_cases small : n < 10
    · rw [ofNat_small small, Terminal.decimal, Nat.toDigits_of_lt_base small]
      exact (encode_digitChar ⟨n, small⟩).symm
    · have last := encode_digitChar ⟨n % 10, Nat.mod_lt n (by decide)⟩
      have front := ih (n / 10) (by omega)
      rw [ofNat_large small, Terminal.decimal,
        Nat.toDigits_of_base_le (by decide) (Nat.le_of_not_lt small), Utf8.encode,
        List.flatMap_append]
      rw [bytes, List.map_append]
      exact congr (congrArg _ front) last.symm

theorem decimal_concat (digits : Digits) (d : Fin 10) :
    decimal (digits ++ [d]) = decimal digits * 10 + d.val := by
  induction digits with
  | nil => simp [decimal]
  | cons first rest ih =>
    simp only [List.cons_append, decimal, ih, List.length_append, List.length_singleton, pow_succ]
    ring

theorem decimal_ofNat (n : Nat) : decimal (ofNat n) = n := by
  induction n using Nat.strongRecOn with
  | ind n ih =>
    by_cases small : n < 10
    · rw [ofNat_small small]
      simp [decimal]
    · rw [ofNat_large small, decimal_concat, ih (n / 10) (by omega)]
      exact Nat.div_add_mod' n 10

theorem value_ofNat (n : Nat) : (ofNat n).value = min n Sequence.maxParam := by
  rw [value, decimal_ofNat]
  rfl

end Digits

def csiBytes (marker : Option Marker) (numbers : List Nat) (final : UInt8) : List UInt8 :=
  [0x1b, 0x5b] ++ marker.toList.map Marker.byte ++
    [0x3b].intercalate (numbers.map Terminal.decimal) ++ [final]

namespace Sequence

variable {final : UInt8}

def numberedCsi (marker : Option Marker) (numbers : List Nat) (final : UInt8) : Csi where
  params := numbers
  query := marker = some .query
  send := marker = some .send
  bang := marker = some .bang
  command := String.ofList [Char.ofUInt8 final]

def textOfNumbers (marker : Option Marker) (numbers : List Nat)
    (ends : 0x40 ≤ final ∧ final ≤ 0x7e) : CsiText where
  marker
  earlier := numbers.dropLast.map Digits.ofNat
  last := (numbers.getLast?.map Digits.ofNat).getD []
  final
  ends

variable (marker : Option Marker) (numbers : List Nat) (ends : 0x40 ≤ final ∧ final ≤ 0x7e)
include ends

theorem textOfNumbers_bytes :
    (textOfNumbers marker numbers ends).bytes = csiBytes marker numbers final := by
  have parameters : (textOfNumbers marker numbers ends).parameters =
      [0x3b].intercalate (numbers.map Terminal.decimal) := by
    induction numbers with
    | nil => rfl
    | cons n rest ih =>
      cases rest with
      | nil => simp [CsiText.parameters, textOfNumbers, Digits.bytes_ofNat]
      | cons m rest =>
        simp only [List.map_cons, List.intercalate_cons_cons] at ih ⊢
        rw [← ih]
        simp [CsiText.parameters, textOfNumbers, Digits.bytes_ofNat]
  rw [CsiText.bytes, parameters]
  simp [textOfNumbers, csiBytes]

theorem textOfNumbers_body :
    (textOfNumbers marker numbers ends).body =
      numberedCsi marker (numbers.map (min · maxParam)) final := by
  have params : (textOfNumbers marker numbers ends).body.params =
      numbers.map (min · maxParam) := by
    induction numbers with
    | nil => rfl
    | cons n rest ih =>
      cases rest with
      | nil => simp [CsiText.body, textOfNumbers, Digits.value_ofNat, Digits.ofNat_ne_nil]
      | cons m rest =>
        rw [List.map_cons, ← ih]
        simp [CsiText.body, textOfNumbers, Digits.value_ofNat]
  rw [← params]
  rfl

theorem scan_numbers (encoding : Encoding) (rest : List UInt8) :
    scan encoding (csiBytes marker numbers final ++ rest) =
      .unit (.csi (numberedCsi marker (numbers.map (min · maxParam)) final) []) rest := by
  rw [← textOfNumbers_bytes marker numbers ends, ← textOfNumbers_body marker numbers ends]
  exact scan_written encoding _ rest

end Sequence

end VideoTerminal

import VideoTerminal.Sequence.Scan

-- Input that arrives later never changes a verdict: once the bytes at hand
-- decide a unit or a fault, any bytes behind them are left for the next scan.
namespace VideoTerminal.Sequence

def Scan.extend (more : List UInt8) : Scan → Scan
  | .incomplete => .incomplete
  | .malformed fault rest => .malformed fault (rest ++ more)
  | .unit sequence rest => .unit sequence (rest ++ more)

def Scan.Grows (more : List UInt8) (earlier later : Scan) : Prop :=
  earlier = .incomplete ∨ later = earlier.extend more

theorem Scan.Grows.of_incomplete {more : List UInt8} {later : Scan} :
    Scan.Grows more .incomplete later := .inl rfl

theorem Scan.Grows.of_extend {more : List UInt8} {earlier : Scan} :
    Scan.Grows more earlier (earlier.extend more) := .inr rfl

variable (more : List UInt8)

theorem scanCsi_grows (d : CsiDraft) (bytes : List UInt8) :
    Scan.Grows more (scanCsi d bytes) (scanCsi d (bytes ++ more)) := by
  induction bytes generalizing d with
  | nil => exact .of_incomplete
  | cons byte rest ih =>
    rw [List.cons_append, scanCsi, scanCsi]
    split
    · exact .of_extend
    · cases d.step byte with
      | more next => exact ih next
      | fault fault => exact .of_extend
      | final sequence => exact .of_extend

theorem scanStringEscape_grows (body : Osc) (bytes : List UInt8) :
    Scan.Grows more (scanStringEscape body bytes) (scanStringEscape body (bytes ++ more)) := by
  cases bytes with
  | nil => exact .of_incomplete
  | cons next rest =>
    rw [List.cons_append, scanStringEscape, scanStringEscape]
    split <;> exact .of_extend

theorem scanOscText_grows (body : Osc) (pending : Nat) (text bytes : List UInt8) :
    Scan.Grows more (scanOscText body pending text bytes)
      (scanOscText body pending text (bytes ++ more)) := by
  induction bytes generalizing pending text with
  | nil => exact .of_incomplete
  | cons byte rest ih =>
    rw [List.cons_append, scanOscText, scanOscText]
    split
    · exact scanStringEscape_grows more _ rest
    · split
      · exact .of_extend
      · split
        · exact .of_extend
        · exact ih _ _

theorem scanOsc_grows (body : Osc) (atStart : Bool) (current : Option Nat) (bytes : List UInt8) :
    Scan.Grows more (scanOsc body atStart current bytes)
      (scanOsc body atStart current (bytes ++ more)) := by
  induction bytes generalizing body atStart current with
  | nil => exact .of_incomplete
  | cons byte rest ih =>
    rw [List.cons_append]
    unfold scanOsc
    dsimp only
    -- Three markers and a digit go round the loop again.
    iterate 4
      split
      · exact ih _ _ _
    split
    · cases current with
      | none => exact .of_extend
      | some value => exact scanOscText_grows more _ _ _ rest
    · split
      · exact .of_extend
      · split
        · exact scanStringEscape_grows more _ rest
        · split
          · exact .of_extend
          · exact scanOscText_grows more _ _ _ (byte :: rest)

theorem scanOne_grows (unit : UInt8 → Sequence) (bytes : List UInt8) :
    Scan.Grows more (scanOne unit bytes) (scanOne unit (bytes ++ more)) := by
  cases bytes with
  | nil => exact .of_incomplete
  | cons byte rest => exact .of_extend

theorem scanVt52Move_grows (bytes : List UInt8) :
    Scan.Grows more (scanVt52Move bytes) (scanVt52Move (bytes ++ more)) := by
  match bytes with
  | [] => exact .of_incomplete
  | [_] => exact .of_incomplete
  | _ :: _ :: _ => exact .of_extend

theorem scanEscape_grows (bytes : List UInt8) :
    Scan.Grows more (scanEscape bytes) (scanEscape (bytes ++ more)) := by
  cases bytes with
  | nil => exact .of_incomplete
  | cons byte rest =>
    rw [List.cons_append, scanEscape, scanEscape]
    split
    · exact scanCsi_grows more _ rest
    · split
      · exact scanOsc_grows more _ _ _ rest
      · iterate 3
          split
          · exact scanOne_grows more _ rest
        split
        · exact scanVt52Move_grows more rest
        · cases Designator.ofByte? byte with
          | none => exact .of_extend
          | some designator => exact scanOne_grows more _ rest

theorem takeWhile_take_append {α : Type} {keep : α → Bool} {wanted : Nat} {items : List α}
    (decided : ((items.take wanted).takeWhile keep).length = wanted ∨
      ((items.take wanted).takeWhile keep).length ≠ items.length) (later : List α) :
    ((items ++ later).take wanted).takeWhile keep = (items.take wanted).takeWhile keep := by
  induction items generalizing wanted with
  | nil =>
    rcases decided with full | short
    · have none : wanted = 0 := by simpa using full.symm
      subst none; rfl
    · exact absurd (by simp) short
  | cons item rest ih =>
    cases wanted with
    | zero => rfl
    | succ wanted =>
      rw [List.cons_append, List.take_succ_cons, List.take_succ_cons, List.takeWhile_cons,
        List.takeWhile_cons]
      split
      · rename_i kept
        rw [List.take_succ_cons, List.takeWhile_cons, if_pos kept] at decided
        rw [ih (by simpa using decided)]
      · rfl

theorem takeWhile_take_length_le {α : Type} (keep : α → Bool) (wanted : Nat) (items : List α) :
    ((items.take wanted).takeWhile keep).length ≤ min wanted items.length := by
  have bound := (List.takeWhile_sublist (p := keep) (l := items.take wanted)).length_le
  rwa [List.length_take] at bound

theorem scanCharacter_grows (lead : UInt8) (rest : List UInt8) :
    Scan.Grows more (scanCharacter lead rest) (scanCharacter lead (rest ++ more)) := by
  unfold scanCharacter
  dsimp only
  generalize Utf8.announced lead - 1 = wanted
  have bound := takeWhile_take_length_le Utf8.isContinuation wanted rest
  by_cases full : ((rest.take wanted).takeWhile Utf8.isContinuation).length = wanted
  · -- All announced bytes are here, so the input reaches at least that far.
    have reach : wanted ≤ rest.length := by omega
    rw [takeWhile_take_append (.inl full) more, if_pos full, if_pos full]
    split
    · rw [List.drop_append_of_le_length reach]; exact .of_extend
    · exact .of_extend
  · rw [if_neg full]
    by_cases ended : ((rest.take wanted).takeWhile Utf8.isContinuation).length = rest.length
    · rw [if_pos ended]; exact .of_incomplete
    · have cut : ((rest.take wanted).takeWhile Utf8.isContinuation).length ≠
          (rest ++ more).length := by
        rw [List.length_append]
        omega
      rw [if_neg ended, takeWhile_take_append (.inr ended) more, if_neg full, if_neg cut]
      exact .of_extend

theorem scan_grows (encoding : Encoding) (bytes : List UInt8) :
    Scan.Grows more (scan encoding bytes) (scan encoding (bytes ++ more)) := by
  cases bytes with
  | nil => exact .of_incomplete
  | cons byte rest =>
    rw [List.cons_append, scan.eq_def, scan.eq_def]
    dsimp only
    split
    · exact scanEscape_grows more rest
    · split
      · exact scanOne_grows more _ rest
      · cases encoding with
        | latin1 => exact .of_extend
        | utf8 => exact scanCharacter_grows more byte rest

theorem scan_append {encoding : Encoding} {bytes : List UInt8}
    (decided : scan encoding bytes ≠ .incomplete) :
    scan encoding (bytes ++ more) = (scan encoding bytes).extend more :=
  (scan_grows more encoding bytes).resolve_left decided

end VideoTerminal.Sequence

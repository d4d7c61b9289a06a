import VideoTerminal.Proofs.Chunking
import VideoTerminal.Proofs.Decoding
import VideoTerminal.Sequence.Reading

-- Control bytes that arrive inside a control sequence take effect as if they
-- had arrived in front of it, wherever inside they stand.
namespace VideoTerminal

def innerControls : List UInt8 := [Byte.backspace, Byte.carriageReturn, Byte.verticalTab]

def controlUnit (byte : UInt8) : Sequence := .character (Char.ofUInt8 byte)

inductive Inserted : List UInt8 → List UInt8 → List UInt8 → Prop where
  | nil : Inserted [] [] []
  | kept (byte : UInt8) {before controls after : List UInt8} :
      Inserted before controls after → Inserted (byte :: before) controls (byte :: after)
  | control {byte : UInt8} {before controls after : List UInt8} (inner : byte ∈ innerControls) :
      Inserted before controls after → Inserted before (byte :: controls) (byte :: after)

theorem Inserted.none (bytes : List UInt8) : Inserted bytes [] bytes := by
  induction bytes with
  | nil => exact .nil
  | cons byte _ ih => exact .kept byte ih

theorem Inserted.inner {before controls after : List UInt8}
    (inserted : Inserted before controls after) : ∀ byte ∈ controls, byte ∈ innerControls := by
  induction inserted with
  | nil => exact nofun
  | kept _ _ ih => exact ih
  | control inner _ ih => exact List.forall_mem_cons.mpr ⟨inner, ih⟩

def InsertedInside (whole controls mixed : List UInt8) : Prop :=
  ∃ before final after, whole = [0x1b, 0x5b] ++ before ++ [final] ∧
    mixed = [0x1b, 0x5b] ++ after ++ [final] ∧ Inserted before controls after

namespace Sequence

def CsiStep.withFirst (first : List Sequence) : CsiStep → CsiStep
  | .more next => .more { next with first }
  | .final (.csi body _) => .final (.csi body first)
  | other => other

variable {d : CsiDraft} {byte : UInt8}

namespace CsiDraft

theorem step_inner (inner : byte ∈ innerControls) :
    d.step byte = .more { d with first := d.first ++ [controlUnit byte] } := by
  simp only [innerControls, List.mem_cons, List.not_mem_nil, or_false] at inner
  rcases inner with rfl | rfl | rfl
  · rfl
  · rfl
  · rfl

-- Any other byte neither looks at the control bytes met so far nor adds to them.
theorem step_withFirst (outer : byte ∉ innerControls) (first : List Sequence) :
    { d with first }.step byte = (d.step byte).withFirst first := by
  have others : ¬(byte = Byte.backspace ∨ byte = Byte.carriageReturn ∨ byte = Byte.verticalTab) := by
    simpa only [innerControls, List.mem_cons, List.not_mem_nil, or_false] using outer
  obtain ⟨body, early, atStart, current, modifier⟩ := d
  unfold step
  cases modifier <;> simp only [if_neg others, apply_ite (CsiStep.withFirst first)] <;> rfl

end CsiDraft

variable {body : Csi} {early : List Sequence} {bytes rest : List UInt8} {final : UInt8}

theorem scanCsi_cons {s : Sequence} (scanned : scanCsi d (byte :: bytes) = .unit s rest) :
    byte ≠ Byte.escape ∧
      ((∃ next, d.step byte = .more next ∧ scanCsi next bytes = .unit s rest) ∨
        (d.step byte = .final s ∧ bytes = rest)) := by
  rw [scanCsi] at scanned
  split at scanned
  · cases scanned
  · rename_i plain
    refine ⟨plain, ?_⟩
    cases stepped : d.step byte with
    | more next =>
      rw [stepped] at scanned
      exact .inl ⟨next, rfl, scanned⟩
    | fault fault =>
      rw [stepped] at scanned
      cases scanned
    | final s =>
      rw [stepped] at scanned
      cases scanned
      exact .inr ⟨rfl, rfl⟩

theorem scanCsi_whole {first : List Sequence} (scanned : scanCsi d bytes = .unit (.csi body first) []) :
    ∃ before final, bytes = before ++ [final] ∧ final ∉ innerControls ∧
      first = d.first ++ (before.filter (· ∈ innerControls)).map controlUnit := by
  induction bytes generalizing d with
  | nil => cases scanned
  | cons byte others ih =>
    obtain ⟨-, step⟩ := scanCsi_cons scanned
    by_cases inner : byte ∈ innerControls
    · rw [CsiDraft.step_inner inner] at step
      obtain ⟨next, more, later⟩ | ⟨stop, -⟩ := step
      · cases more
        obtain ⟨before, final, rfl, outer, kept⟩ := ih later
        exact ⟨byte :: before, final, rfl, outer, by simp [kept, inner]⟩
      · cases stop
    · have kept : d.step byte = (d.step byte).withFirst d.first :=
        CsiDraft.step_withFirst inner d.first
      obtain ⟨next, more, later⟩ | ⟨stop, rfl⟩ := step
      · rw [more] at kept
        obtain ⟨before, final, rfl, outer, found⟩ := ih later
        have same : next.first = d.first := congrArg (·.first) (CsiStep.more.inj kept)
        exact ⟨byte :: before, final, rfl, outer, by simp [found, same, inner]⟩
      · rw [stop] at kept
        have same : first = d.first := congrArg Sequence.first (CsiStep.final.inj kept)
        exact ⟨[], byte, rfl, inner, by simp [same]⟩

-- What is read with control bytes inserted. The draft is the same throughout but
-- for the control bytes it has met.
theorem scanCsi_inserted {before controls after : List UInt8}
    (inserted : Inserted before controls after) (outside : ∀ byte ∈ before, byte ∉ innerControls)
    (outer : final ∉ innerControls) (first : List Sequence)
    (scanned : scanCsi d (before ++ [final]) = .unit (.csi body early) []) :
    scanCsi { d with first } (after ++ [final]) =
      .unit (.csi body (first ++ controls.map controlUnit)) [] := by
  induction inserted generalizing d first with
  | nil =>
    obtain ⟨plain, step⟩ := scanCsi_cons scanned
    have same := CsiDraft.step_withFirst outer (d := d) first
    obtain ⟨next, -, later⟩ | ⟨stop, -⟩ := step
    · cases later
    · rw [stop] at same
      rw [List.nil_append, scanCsi, if_neg plain, same]
      simp [CsiStep.withFirst]
  | kept byte _ ih =>
    obtain ⟨plain, step⟩ := scanCsi_cons scanned
    have same := CsiDraft.step_withFirst (outside byte List.mem_cons_self) (d := d) first
    obtain ⟨next, more, later⟩ | ⟨-, none⟩ := step
    · rw [more] at same
      rw [List.cons_append, scanCsi_step plain same]
      exact ih (fun byte member => outside byte (List.mem_cons_of_mem _ member)) first later
    · exact absurd none (List.append_ne_nil_of_right_ne_nil _ (List.cons_ne_nil _ _))
  | @control byte before controls after inner _ ih =>
    have plain : byte ≠ Byte.escape := by
      rintro rfl
      exact absurd inner (by decide)
    rw [List.cons_append, scanCsi_step plain (CsiDraft.step_inner inner)]
    have later := ih outside (first ++ [controlUnit byte]) scanned
    rw [List.append_assoc] at later
    exact later

def Scan.Yields (kind : Kind) (scanned : Scan) : Prop :=
  ∀ s rest, scanned = .unit s rest → s.kind = kind

theorem Scan.yields_incomplete (kind : Kind) : Scan.Yields kind .incomplete := nofun

theorem Scan.yields_malformed (kind : Kind) (fault : Fault) (rest : List UInt8) :
    Scan.Yields kind (.malformed fault rest) := nofun

theorem Scan.yields_unit (s : Sequence) (rest : List UInt8) : Scan.Yields s.kind (.unit s rest) := by
  rintro _ _ ⟨⟩
  rfl

theorem scanStringEscape_yields (body : Osc) (bytes : List UInt8) :
    (scanStringEscape body bytes).Yields .osc := by
  cases bytes with
  | nil => exact Scan.yields_incomplete _
  | cons next rest =>
    rw [scanStringEscape]
    split
    · exact Scan.yields_unit _ _
    · exact Scan.yields_malformed _ _ _

theorem scanOscText_yields (body : Osc) (pending : Nat) (text bytes : List UInt8) :
    (scanOscText body pending text bytes).Yields .osc := by
  induction bytes generalizing pending text with
  | nil => exact Scan.yields_incomplete _
  | cons byte rest ih =>
    rw [scanOscText]
    split
    · exact scanStringEscape_yields _ _
    split
    · exact Scan.yields_unit _ _
    split
    · exact Scan.yields_malformed _ _ _
    · exact ih _ _

theorem scanOsc_yields (body : Osc) (atStart : Bool) (current : Option Nat) (bytes : List UInt8) :
    (scanOsc body atStart current bytes).Yields .osc := by
  induction bytes generalizing body atStart current with
  | nil => exact Scan.yields_incomplete _
  | cons byte rest ih =>
    unfold scanOsc
    dsimp only
    iterate 4
      split
      · exact ih _ _ _
    split
    · split
      · exact Scan.yields_malformed _ _ _
      · exact scanOscText_yields _ _ _ _
    split
    · exact Scan.yields_unit _ _
    split
    · exact scanStringEscape_yields _ _
    split
    · exact Scan.yields_malformed _ _ _
    · exact scanOscText_yields _ _ _ _

theorem scanOne_yields (kind : Kind) {unit : UInt8 → Sequence} (made : ∀ byte, (unit byte).kind = kind)
    (bytes : List UInt8) : (scanOne unit bytes).Yields kind := by
  cases bytes with
  | nil => exact Scan.yields_incomplete _
  | cons byte rest =>
    rw [scanOne, ← made byte]
    exact Scan.yields_unit _ _

theorem scanCharacter_yields (lead : UInt8) (rest : List UInt8) :
    (scanCharacter lead rest).Yields .character := by
  unfold scanCharacter
  dsimp only
  split
  · split <;> exact Scan.yields_unit _ _
  split
  · exact Scan.yields_incomplete _
  · exact Scan.yields_unit _ _

theorem Scan.Yields.not_csi {kind : Kind} {found : Scan} {first : List Sequence}
    (yields : found.Yields kind) (no : kind ≠ .csi) : found ≠ .unit (.csi body first) rest :=
  fun scanned => no (yields _ _ scanned).symm

theorem bracket_of_csi {first : List Sequence}
    (scanned : scanEscape bytes = .unit (.csi body first) rest) : ∃ tail, bytes = 0x5b :: tail := by
  cases bytes with
  | nil => cases scanned
  | cons next tail =>
    by_cases opens : next = 0x5b
    · exact ⟨tail, by rw [opens]⟩
    have one (kind : Kind) {unit : UInt8 → Sequence} (no : kind ≠ .csi)
        (made : ∀ byte, (unit byte).kind = kind) :
        scanOne unit tail ≠ .unit (.csi body first) rest :=
      (scanOne_yields kind made tail).not_csi no
    exfalso
    rw [scanEscape, if_neg opens] at scanned
    split at scanned
    · exact (scanOsc_yields _ _ _ _).not_csi (by decide) scanned
    split at scanned
    · exact one .lineSize (by decide) (fun _ => rfl) scanned
    split at scanned
    · exact one .compliance (by decide) (fun _ => rfl) scanned
    split at scanned
    · exact one .unicode (by decide) (fun _ => rfl) scanned
    split at scanned
    · unfold scanVt52Move at scanned
      split at scanned <;> cases scanned
    split at scanned
    · exact one .characterSet (by decide) (fun _ => rfl) scanned
    · cases scanned

theorem opened_of_csi {encoding : Encoding} {first : List Sequence}
    (scanned : scan encoding bytes = .unit (.csi body first) rest) :
    ∃ tail, bytes = 0x1b :: 0x5b :: tail := by
  cases bytes with
  | nil => cases scanned
  | cons byte bytes =>
    rw [scan.eq_def] at scanned
    dsimp only at scanned
    split at scanned
    · rename_i escape
      obtain ⟨tail, rfl⟩ := bracket_of_csi scanned
      exact ⟨tail, by rw [escape]; rfl⟩
    split at scanned
    · exact absurd scanned ((scanOne_yields .ss3 (fun _ => rfl) _).not_csi (by decide))
    · cases encoding with
      | latin1 => cases scanned
      | utf8 => exact absurd scanned ((scanCharacter_yields _ _).not_csi (by decide))

theorem ends_of_csi {encoding : Encoding} {whole : List UInt8} {first : List Sequence}
    (scanned : scan encoding whole = .unit (.csi body first) []) :
    ∃ before final, whole = [0x1b, 0x5b] ++ before ++ [final] := by
  obtain ⟨tail, rfl⟩ := opened_of_csi scanned
  rw [scan_csi] at scanned
  obtain ⟨before, final, rfl, -⟩ := scanCsi_whole scanned
  exact ⟨before, final, rfl⟩

theorem scan_inserted {encoding : Encoding} {whole controls mixed : List UInt8}
    (scanned : scan encoding whole = .unit (.csi body []) [])
    (inside : InsertedInside whole controls mixed) (other : Encoding) :
    scan other mixed = .unit (.csi body (controls.map controlUnit)) [] := by
  obtain ⟨before, final, after, rfl, rfl, inserted⟩ := inside
  have drafted : scanCsi {} (before ++ [final]) = .unit (.csi body []) [] :=
    (scan_csi encoding _).symm.trans scanned
  obtain ⟨front, last, parts, outer, none⟩ := scanCsi_whole drafted
  obtain ⟨rfl, rfl⟩ : before = front ∧ final = last := by simpa using parts
  have outside : ∀ byte ∈ before, byte ∉ innerControls := by
    have empty : (before.filter (· ∈ innerControls)).map controlUnit = [] := none.symm
    simpa using empty
  exact (scan_csi other _).trans (scanCsi_inserted inserted outside outer [] drafted)

theorem ownOperations_first (body : Csi) (first : List Sequence) :
    (csi body first).ownOperations = (csi body []).ownOperations := by
  have handled : ∀ rule ∈ Dispatch.table,
      rule.operations (csi body first) = rule.operations (csi body []) := by
    have all : Dispatch.table.map (·.operations (csi body first)) =
        Dispatch.table.map (·.operations (csi body [])) := rfl
    exact List.map_inj_left.mp all
  have ruled : (csi body first).rule? = (csi body []).rule? := rfl
  have alone : ((csi body first).rule?.map (·.operations (csi body first))).getD [] =
      ((csi body []).rule?.map (·.operations (csi body []))).getD [] := by
    rw [ruled]
    cases found : (csi body []).rule? with
    | none => rfl
    | some rule => exact handled rule (List.mem_of_find?_eq_some found)
  simp only [ownOperations, singles]
  split
  · rfl
  · simpa using alone

end Sequence

def ByteReader.Takes (encoding : Encoding) (bytes : List UInt8) (s : Sequence) : Prop :=
  ∀ r : ByteReader, r.unread = bytes →
    r.next encoding = (some (.ok s), r.advance bytes.length)

theorem ByteReader.takes_iff {encoding : Encoding} {bytes : List UInt8} {s : Sequence} :
    Takes encoding bytes s ↔ Sequence.scan encoding bytes = .unit s [] := by
  constructor
  · intro takes
    have taken := takes ⟨bytes, 0, []⟩ rfl
    have same : (ByteReader.mk bytes 0 []).mark.unread = bytes := rfl
    simp only [next, same] at taken
    split at taken
    · cases taken
    · cases taken
    · rename_i found rest scanned
      have shorter := Sequence.scan_shorter (by rw [scanned]; rfl)
      have position := congrArg (·.2.position) taken
      simp only [commit, advance, mark, Nat.zero_add] at position
      obtain rfl : rest = [] := List.length_eq_zero_iff.mp (by omega)
      cases taken
      exact scanned
  · intro scanned r parts
    exact next_unit (parts.trans (List.append_nil bytes).symm)
      ((congrArg _ (List.append_nil bytes)).trans scanned)

namespace Terminal
open Sequence

theorem scan_control (encoding : Encoding) {byte : UInt8} (inner : byte ∈ innerControls)
    (more : List UInt8) : scan encoding (byte :: more) = .unit (controlUnit byte) more := by
  simp only [innerControls, List.mem_cons, List.not_mem_nil, or_false] at inner
  cases encoding with
  | latin1 => rcases inner with rfl | rfl | rfl <;> rfl
  | utf8 =>
    rcases inner with rfl | rfl | rfl
    · exact scan_character (c := '\x08') (by decide) more
    · exact scan_character (c := '\r') (by decide) more
    · exact scan_character (c := '\x0b') (by decide) more

theorem apply_controls {controls : List UInt8} (inner : ∀ byte ∈ controls, byte ∈ innerControls)
    (t : Terminal) (more : List UInt8) :
    t.apply (controls ++ more) =
      (t.performAll (operationsOfAll (controls.map controlUnit))).apply more := by
  induction controls generalizing t with
  | nil => rfl
  | cons byte others ih =>
    have scanned := scan_control t.encoding (inner byte List.mem_cons_self) (others ++ more)
    rw [List.cons_append, apply_unit scanned, ih (List.forall_mem_cons.mp inner).2, dispatch,
      ← performAll_append]
    rfl

theorem dispatch_inner (t : Terminal) (body : Csi) (first : List Sequence) :
    t.dispatch (.csi body first) =
      (t.performAll (operationsOfAll first)).dispatch (.csi body []) := by
  rw [dispatch, operations, performAll_append, ownOperations_first]
  rfl

theorem inner_controls_commute {encoding : Encoding} {whole : List UInt8} {body : Csi}
    (alone : ByteReader.Takes encoding whole (.csi body [])) :
    (∃ before final, whole = [0x1b, 0x5b] ++ before ++ [final]) ∧
      ∀ controls mixed, InsertedInside whole controls mixed →
        (∀ other, ByteReader.Takes other mixed (.csi body (controls.map controlUnit))) ∧
          ∀ t : Terminal, t.unread = [] →
            t.feed mixed = t.feed (controls ++ whole) ∧
              t.feed mixed = t.feedAll [controls, whole] := by
  have scanned := ByteReader.takes_iff.mp alone
  obtain ⟨before, final, parts⟩ := ends_of_csi scanned
  refine ⟨⟨before, final, parts⟩, ?_⟩
  intro controls mixed inside
  have read := scan_inserted scanned inside
  have plain := scan_inserted scanned ⟨before, final, before, parts, parts, .none before⟩
  refine ⟨fun other => ByteReader.takes_iff.mpr (read other), ?_⟩
  intro t settled
  have inner : ∀ byte ∈ controls, byte ∈ innerControls := by
    obtain ⟨_, _, _, -, -, inserted⟩ := inside
    exact inserted.inner
  have applied (u : Terminal) : u.apply mixed = u.apply (controls ++ whole) :=
    calc u.apply mixed
      _ = (u.dispatch (.csi body (controls.map controlUnit))).apply [] := apply_unit (read _)
      _ = ((u.performAll (operationsOfAll (controls.map controlUnit))).dispatch
            (.csi body [])).apply [] := by rw [dispatch_inner]
      _ = (u.performAll (operationsOfAll (controls.map controlUnit))).apply whole :=
          (apply_unit (plain _)).symm
      _ = u.apply (controls ++ whole) := (apply_controls inner u whole).symm
  have together : t.feed mixed = t.feed (controls ++ whole) := by
    simp only [feed, settled, List.nil_append, applied]
  exact ⟨together, together.trans (by simp [feedAll, feed_append])⟩

theorem inner_controls_commute_show_cursor :
    let whole : List UInt8 := [0x1b, 0x5b, 0x3f, 0x32, 0x35, 0x68]
    let mixed : List UInt8 := [0x1b, 0x5b, 0x0d, 0x3f, 0x08, 0x32, 0x0b, 0x35, 0x08, 0x68]
    let controls : List UInt8 := [0x0d, 0x08, 0x0b, 0x08]
    let body : Csi := { params := [25], query := true, command := "h" }
    let t := new ⟨3, 2⟩ {} true
    ByteReader.Takes .latin1 mixed (.csi body (controls.map controlUnit)) ∧
      t.feed mixed = t.feedAll [controls, whole] := by
  intro whole mixed controls body t
  have alone : ByteReader.Takes .utf8 whole (.csi body []) := ByteReader.takes_iff.mpr rfl
  have inserted : Inserted [0x3f, 0x32, 0x35] controls
      [0x0d, 0x3f, 0x08, 0x32, 0x0b, 0x35, 0x08] :=
    .control (by decide) (.kept _ (.control (by decide) (.kept _
      (.control (by decide) (.kept _ (.control (by decide) .nil))))))
  have inside : InsertedInside whole controls mixed := ⟨_, 0x68, _, rfl, rfl, inserted⟩
  obtain ⟨-, mixes⟩ := inner_controls_commute alone
  obtain ⟨taken, fed⟩ := mixes controls mixed inside
  exact ⟨taken .latin1, (fed t rfl).2⟩

end Terminal

end VideoTerminal

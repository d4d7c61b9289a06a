import VideoTerminal.Proofs.Run
import VideoTerminal.Sequence.Reading

-- A sequence that is broken off leaves no trace. All that had been read of it is
-- given up, and reading goes on behind the byte that broke it off or, where this
-- is an ESC, at the byte itself.
namespace VideoTerminal

namespace Sequence

def Context.opening : Context → List UInt8
  | .csi => [0x1b, 0x5b]
  | .osc => [0x1b, 0x5d]

def Context.Decides : Context → List UInt8 → Scan → Prop
  | .csi, tail, outcome => ∀ d, scanCsi d tail = outcome
  | .osc, tail, outcome =>
    (∀ body atStart current, scanOsc body atStart current tail = outcome) ∧
      ∀ body pending collected, scanOscText body pending collected tail = outcome

variable {part tail : List UInt8} {outcome : Scan}

theorem scanCsi_through {d : CsiDraft} (decides : Context.csi.Decides tail outcome)
    (waits : scanCsi d part = .incomplete) : scanCsi d (part ++ tail) = outcome := by
  induction part generalizing d with
  | nil => exact decides d
  | cons byte others ih =>
    rw [scanCsi] at waits
    split at waits
    · cases waits
    · rename_i plain
      split at waits
      · rename_i next step
        rw [List.cons_append, scanCsi_step plain step]
        exact ih waits
      · cases waits
      · cases waits

theorem scanStringEscape_waits {body : Osc} {bytes : List UInt8}
    (waits : scanStringEscape body bytes = .incomplete) : bytes = [] := by
  cases bytes with
  | nil => rfl
  | cons next rest =>
    rw [scanStringEscape] at waits
    split at waits <;> cases waits

theorem last_of_cons {byte last : UInt8} {others : List UInt8}
    (plain : (byte :: others).getLast? ≠ some last) : others.getLast? ≠ some last := by
  intro found
  rw [List.getLast?_cons, found] at plain
  exact plain rfl

theorem escape_last {body : Osc} {byte : UInt8} {others : List UInt8} (escape : byte = Byte.escape)
    (waits : scanStringEscape body others = .incomplete) :
    (byte :: others).getLast? = some Byte.escape := by
  rw [scanStringEscape_waits waits, escape]
  rfl

theorem scanOscText_through {body : Osc} {pending : Nat} {collected : List UInt8}
    (decides : Context.osc.Decides tail outcome) (plain : part.getLast? ≠ some Byte.escape)
    (waits : scanOscText body pending collected part = .incomplete) :
    scanOscText body pending collected (part ++ tail) = outcome := by
  induction part generalizing pending collected with
  | nil => exact decides.2 body pending collected
  | cons byte others ih =>
    rw [scanOscText] at waits
    rw [List.cons_append, scanOscText]
    split at waits
    · rename_i escape
      exact absurd (escape_last escape waits) plain
    · rename_i goes
      rw [if_neg goes]
      split at waits
      · cases waits
      · rename_i goesOn
        rw [if_neg goesOn]
        split at waits
        · cases waits
        · rename_i keeps
          rw [if_neg keeps]
          exact ih (last_of_cons plain) waits

theorem scanOsc_through {body : Osc} {atStart : Bool} {current : Option Nat}
    (decides : Context.osc.Decides tail outcome) (plain : part.getLast? ≠ some Byte.escape)
    (waits : scanOsc body atStart current part = .incomplete) :
    scanOsc body atStart current (part ++ tail) = outcome := by
  induction part generalizing body atStart current with
  | nil => exact decides.1 body atStart current
  | cons byte others ih =>
    have later := last_of_cons plain
    rw [List.cons_append]
    unfold scanOsc at waits ⊢
    dsimp only at waits ⊢
    -- Three markers and a digit go round the loop again.
    iterate 4
      split at waits
      · rename_i here
        rw [if_pos here]
        exact ih later waits
      rename_i here
      rw [if_neg here]
      clear here
    split at waits
    · rename_i separator
      rw [if_pos separator]
      cases current with
      | none => cases waits
      | some value => exact scanOscText_through decides later waits
    rename_i digits
    rw [if_neg digits]
    split at waits
    · cases waits
    rename_i goesOn
    rw [if_neg goesOn]
    split at waits
    · rename_i escape
      exact absurd (escape_last escape waits) plain
    rename_i goes
    rw [if_neg goes]
    split at waits
    · cases waits
    rename_i keeps
    rw [if_neg keeps]
    have text := scanOscText_through decides plain waits
    exact text

theorem scan_opening (encoding : Encoding) (context : Context) (bytes : List UInt8) :
    scan encoding (context.opening ++ bytes) =
      match context with
      | .csi => scanCsi {} bytes
      | .osc => scanOsc {} true none bytes := by
  cases encoding <;> cases context <;> rfl

theorem scan_through {context : Context} {encoding : Encoding}
    (waits : scan encoding (context.opening ++ part) = .incomplete)
    (plain : part.getLast? ≠ some Byte.escape) (decides : context.Decides tail outcome)
    (other : Encoding) : scan other (context.opening ++ (part ++ tail)) = outcome := by
  rw [scan_opening] at waits ⊢
  cases context with
  | csi => exact scanCsi_through decides waits
  | osc => exact scanOsc_through decides plain waits

theorem aborts_decides (context : Context) {byte : UInt8} (aborts : Byte.aborts byte = true)
    (rest : List UInt8) :
    context.Decides (byte :: rest) (.malformed (.interrupted context byte) rest) := by
  have either : byte = Byte.cancel ∨ byte = Byte.substitute := of_decide_eq_true aborts
  rcases either with rfl | rfl <;> cases context
  · exact fun _ => rfl
  · exact ⟨fun _ _ _ => rfl, fun _ _ _ => rfl⟩
  · exact fun _ => rfl
  · exact ⟨fun _ _ _ => rfl, fun _ _ _ => rfl⟩

theorem escape_decides (context : Context) {rest : List UInt8}
    (decided : context = .osc → rest ≠ [] ∧ rest.head? ≠ some Byte.backslash) :
    context.Decides (Byte.escape :: rest)
      (.malformed (.interrupted context Byte.escape) (Byte.escape :: rest)) := by
  cases context with
  | csi => exact fun _ => rfl
  | osc =>
    obtain ⟨present, other⟩ := decided rfl
    cases rest with
    | nil => exact absurd rfl present
    | cons next rest =>
      have different : next ≠ Byte.backslash := by
        rintro rfl
        exact other rfl
      have refused : ∀ body, scanStringEscape body (next :: rest) =
          .malformed (.interrupted .osc Byte.escape) (Byte.escape :: next :: rest) := by
        intro body
        rw [scanStringEscape, if_neg different]
      exact ⟨fun _ _ _ => refused _, fun _ _ _ => refused _⟩

end Sequence

namespace ByteReader
open Sequence

def Waits (encoding : Encoding) (bytes : List UInt8) : Prop :=
  ∀ r : ByteReader, r.unread = bytes → r.next encoding = (none, r)

def Refuses (encoding : Encoding) (bytes : List UInt8) (fault : Fault) (rest : List UInt8) : Prop :=
  ∀ r : ByteReader, r.unread = bytes →
    ∃ after, r.next encoding = (some (.error fault), after) ∧ after.unread = rest

variable {encoding : Encoding} {front rest : List UInt8} {fault : Fault}

theorem Waits.scanned (waits : Waits encoding rest) : scan encoding rest = .incomplete := by
  have found := congrArg Prod.fst (waits ⟨rest, 0, []⟩ rfl)
  have same : (ByteReader.mk rest 0 []).mark.unread = rest := rfl
  simp only [next, same] at found
  split at found
  · assumption
  · cases found
  · cases found

theorem refuses_of_scan (scanned : scan encoding (front ++ rest) = .malformed fault rest) :
    Refuses encoding (front ++ rest) fault rest :=
  fun _ parts => ⟨_, next_malformed parts scanned, unread_advance parts⟩

end ByteReader

namespace Terminal
open Sequence

theorem feed_malformed {t : Terminal} {bytes rest : List UInt8} {fault : Fault}
    (settled : t.unread = []) (scanned : scan t.encoding bytes = .malformed fault rest) :
    t.feed bytes = t.feed rest := by
  simp only [feed, settled, List.nil_append,
    apply_malformed (t := { t with unread := [], changed := false }) scanned]

-- From any unfinished control sequence or operating system command, and for all
-- that follows. A string that ends in an ESC so far is left out: whether this ESC
-- belongs to it is not known yet.
theorem aborted_leaves_no_trace {encoding : Encoding} {context : Context} {part : List UInt8}
    (waits : ByteReader.Waits encoding (context.opening ++ part))
    (plain : part.getLast? ≠ some Byte.escape) (rest : List UInt8) :
    (∀ byte ∈ [Byte.cancel, Byte.substitute],
      let whole := context.opening ++ part ++ byte :: rest
      (∀ other, ByteReader.Refuses other whole (.interrupted context byte) rest) ∧
        ∀ t : Terminal, t.unread = [] → t.feed whole = t.feed rest) ∧
    ((context = .osc → rest ≠ [] ∧ rest.head? ≠ some Byte.backslash) →
      let whole := context.opening ++ part ++ Byte.escape :: rest
      (∀ other, ByteReader.Refuses other whole (.interrupted context Byte.escape)
          (Byte.escape :: rest)) ∧
        ∀ t : Terminal, t.unread = [] → t.feed whole = t.feed (Byte.escape :: rest)) := by
  have through {tail : List UInt8} {outcome : Scan} (decides : context.Decides tail outcome) :
      ∀ other, scan other (context.opening ++ part ++ tail) = outcome := by
    rw [List.append_assoc]
    exact scan_through waits.scanned plain decides
  constructor
  · intro byte breaking whole
    have aborts : Byte.aborts byte = true := by simpa [Byte.aborts] using breaking
    have scanned := through (aborts_decides context aborts rest)
    have parts : whole = (context.opening ++ part ++ [byte]) ++ rest := by simp [whole]
    refine ⟨fun other => ?_, fun t settled => feed_malformed settled (scanned _)⟩
    rw [parts]
    exact ByteReader.refuses_of_scan (parts ▸ scanned other)
  · intro decided whole
    have scanned := through (escape_decides context decided)
    exact ⟨fun other => ByteReader.refuses_of_scan (scanned other),
      fun t settled => feed_malformed settled (scanned _)⟩

theorem aborted_leaves_no_trace_inside_character :
    let part : List UInt8 := [0x32, 0x3b, 0x61, 0xe2, 0x9c]
    let t := new ⟨3, 2⟩ {} true
    ByteReader.Waits .utf8 (Context.osc.opening ++ part) ∧
      t.feed (Context.osc.opening ++ part ++ Byte.substitute :: [0x93, 0x62]) =
        t.feed [0x93, 0x62] ∧
      t.feed (Context.osc.opening ++ part ++ Byte.escape :: [0x63]) = t.feed [0x1b, 0x63] := by
  intro part t
  have waits : ByteReader.Waits .utf8 (Context.osc.opening ++ part) :=
    fun r parts => ByteReader.next_incomplete (parts ▸ rfl)
  have cancelled := (aborted_leaves_no_trace waits (by decide) [0x93, 0x62]).1
  have escaped := (aborted_leaves_no_trace waits (by decide) [0x63]).2
  exact ⟨waits, (cancelled Byte.substitute (by decide)).2 t rfl,
    (escaped fun _ => by decide).2 t rfl⟩

end Terminal

end VideoTerminal

import VideoTerminal.Proofs.Chunking
import VideoTerminal.Proofs.NumberText

-- A mode sequence with several parameters does what as many sequences with one
-- parameter each do, in the same order.
namespace VideoTerminal

inductive ModeForm where
  | set
  | reset
  | setPrivate
  | resetPrivate
  | savePrivate
  | restorePrivate
  deriving DecidableEq, Repr

namespace ModeForm

def marker : ModeForm → Option Marker
  | set | reset => none
  | _ => some .query

def final : ModeForm → UInt8
  | set | setPrivate => 0x68
  | reset | resetPrivate => 0x6c
  | savePrivate => 0x73
  | restorePrivate => 0x72

def text (form : ModeForm) (modes : List Nat) : List UInt8 :=
  csiBytes form.marker modes form.final

def known : ModeForm → List Nat
  | set | reset => [4, 20]
  | setPrivate | resetPrivate =>
    [1, 3, 4, 5, 6, 7, 8, 12, 25, 40, 45, 47, 1000, 1002, 1006, 1047, 1049, 2004]
  | savePrivate | restorePrivate => [1, 47, 1000, 1002, 1006, 1047, 1049, 2004]

def sequence (form : ModeForm) (modes : List Nat) : Sequence :=
  .csi (Sequence.numberedCsi form.marker modes form.final) []

def asked (form : ModeForm) (mode : Nat) : List Operation :=
  (form.sequence [min mode Sequence.maxParam]).operations

theorem final_ends (form : ModeForm) : 0x40 ≤ form.final ∧ form.final ≤ 0x7e := by
  cases form <;> decide

theorem scan_text (form : ModeForm) (modes : List Nat) (encoding : Encoding) (rest : List UInt8) :
    Sequence.scan encoding (form.text modes ++ rest) =
      .unit (form.sequence (modes.map (min · Sequence.maxParam))) rest :=
  Sequence.scan_numbers form.marker modes form.final_ends encoding rest

end ModeForm

namespace Sequence

variable (form : ModeForm)

theorem singles_modes {modes : List Nat} (several : 2 ≤ modes.length) :
    (form.sequence modes).singles = modes.map fun mode => form.sequence [mode] := by
  have perParameter : ∀ body : Csi, body = numberedCsi form.marker modes form.final →
      (body.command == "h" || body.command == "l" ||
        ((body.command == "s" || body.command == "r") && body.query)) = true := by
    rintro _ rfl
    cases form <;> rfl
  exact if_pos ⟨perParameter _ rfl, several⟩

theorem singles_mode (mode : Nat) : (form.sequence [mode]).singles = [form.sequence [mode]] :=
  if_neg fun both => absurd both.2 (Nat.lt_irrefl 1)

theorem operations_sequence (modes : List Nat) :
    (form.sequence modes).operations = (form.sequence modes).ownOperations := rfl

theorem operations_modes (modes : List Nat) :
    (form.sequence modes).operations =
      modes.flatMap fun mode => (form.sequence [mode]).operations := by
  match modes with
  | [] => cases form <;> rfl
  | [mode] => rw [List.flatMap_singleton]
  | first :: second :: rest =>
    have several : 2 ≤ (first :: second :: rest).length := Nat.le_add_left ..
    simp only [operations_sequence, ownOperations, singles_modes form several, singles_mode,
      List.flatMap_map, List.flatMap_singleton]

theorem rule?_unknown {mode : Nat} (unknown : mode ∉ form.known) :
    (form.sequence [mode]).rule? = none := by
  have listed : ∀ rule ∈ Dispatch.table, rule.kind = (form.sequence [0]).kind →
      rule.acceptsCommand (form.sequence [0]) = true →
      (form.sequence [0]).markers = rule.markers → rule.params.accepts 1 = true →
      rule.firstParam ≠ [] ∧ ∀ mode ∈ rule.firstParam, mode ∈ form.known := by
    cases form <;> decide +kernel
  refine List.find?_eq_none.mpr fun rule member accepted => ?_
  simp only [Rule.accepts, Bool.and_eq_true, decide_eq_true_eq] at accepted
  obtain ⟨⟨⟨⟨⟨kind, command⟩, markers⟩, -⟩, count⟩, first⟩ := accepted
  obtain ⟨some, all⟩ := listed rule member kind command markers count
  simp only [Rule.acceptsFirstParam, Bool.or_eq_true, List.isEmpty_iff,
    List.contains_iff_mem] at first
  rcases first with none | found
  · exact some none
  · exact unknown (all mode found)

theorem operations_unknown {mode : Nat} (unknown : mode ∉ form.known) :
    (form.sequence [mode]).operations = [] := by
  rw [operations_sequence, ownOperations, singles_mode, List.flatMap_singleton,
    rule?_unknown form unknown]
  rfl

end Sequence

namespace ModeForm

variable (form : ModeForm)

theorem asked_unknown {mode : Nat} (unknown : mode ∉ form.known) : form.asked mode = [] := by
  refine Sequence.operations_unknown form ?_
  rcases Nat.le_total mode Sequence.maxParam with fits | beyond
  · rwa [Nat.min_eq_left fits]
  · rw [Nat.min_eq_right beyond]
    cases form <;> decide

theorem asked_known : ∀ mode ∈ form.known, form.asked mode ≠ [] := by
  cases form <;> decide +kernel

theorem asked_eq_nil_iff (mode : Nat) : form.asked mode = [] ↔ mode ∉ form.known :=
  ⟨fun none known => form.asked_known mode known none, form.asked_unknown⟩

theorem asked_filter (modes : List Nat) :
    (modes.filter (· ∈ form.known)).flatMap form.asked = modes.flatMap form.asked := by
  induction modes with
  | nil => rfl
  | cons mode rest ih =>
    by_cases known : mode ∈ form.known
    · rw [List.filter_cons_of_pos (by simpa using known), List.flatMap_cons, List.flatMap_cons, ih]
    · rw [List.filter_cons_of_neg (by simpa using known), List.flatMap_cons,
        asked_unknown form known, List.nil_append, ih]

end ModeForm

namespace Terminal
open Sequence

variable {t : Terminal} (form : ModeForm)

theorem apply_modes (t : Terminal) (modes : List Nat) (more : List UInt8) :
    t.apply (form.text modes ++ more) = (t.performAll (modes.flatMap form.asked)).apply more := by
  rw [apply_unit (form.scan_text modes t.encoding more), dispatch, operations_modes,
    List.flatMap_map]
  rfl

def eachAlone (modes : List Nat) : List (List UInt8) := modes.map fun mode => form.text [mode]

theorem apply_eachAlone (t : Terminal) (modes : List Nat) (more : List UInt8) :
    t.apply ((eachAlone form modes).flatten ++ more) =
      (t.performAll (modes.flatMap form.asked)).apply more := by
  induction modes generalizing t with
  | nil => rfl
  | cons mode rest ih =>
    have first := apply_modes form t [mode] ((eachAlone form rest).flatten ++ more)
    rw [List.flatMap_singleton] at first
    rw [List.flatMap_cons, performAll_append, ← ih, ← first, ← List.append_assoc]
    rfl

theorem feed_modes (settled : t.unread = []) (modes : List Nat) :
    t.feed (form.text modes) = t.feed (eachAlone form modes).flatten := by
  have whole (u : Terminal) := apply_modes form u modes []
  have parts (u : Terminal) := apply_eachAlone form u modes []
  simp only [List.append_nil] at whole parts
  simp only [feed, settled, List.nil_append, whole, parts]

theorem feed_nil (settled : t.unread = []) : t.feed [] = (false, t) := by
  simp only [feed, settled, List.append_nil, apply_nil, Bool.or_false]
  rw [← settled]

theorem feed_mode_unread (settled : t.unread = []) (mode : Nat) :
    (t.feed (form.text [mode])).2.unread = [] := by
  have scanned := form.scan_text [mode] t.encoding []
  rw [List.append_nil] at scanned
  rw [feed_unit settled scanned]

theorem feedAll_eachAlone (settled : t.unread = []) (modes : List Nat) :
    t.feedAll (eachAlone form modes) = t.feed (eachAlone form modes).flatten := by
  induction modes generalizing t with
  | nil => exact (feed_nil settled).symm
  | cons mode rest ih =>
    have later := ih (feed_mode_unread form settled mode)
    have parts : (eachAlone form (mode :: rest)).flatten =
        form.text [mode] ++ (eachAlone form rest).flatten := rfl
    rw [parts, feed_append, ← later]
    rfl

-- In pieces or at once, repeated modes included. A mode without a rule drops out
-- by itself and takes none of the others with it.
theorem modes_one_by_one (settled : t.unread = []) (form : ModeForm) (modes : List Nat) :
    t.feed (form.text modes) = t.feedAll (eachAlone form modes) ∧
      t.feed (form.text modes) = t.feed (eachAlone form modes).flatten ∧
      t.feed (form.text modes) = t.feedAll (eachAlone form (modes.filter (· ∈ form.known))) ∧
      ∀ mode, form.asked mode = [] ↔ mode ∉ form.known := by
  have together := feed_modes form settled
  have apart := feedAll_eachAlone form settled
  have kept : t.feed (form.text modes) = t.feed (form.text (modes.filter (· ∈ form.known))) := by
    have whole (u : Terminal) (modes : List Nat) := apply_modes form u modes []
    simp only [List.append_nil] at whole
    simp only [feed, settled, List.nil_append, whole, form.asked_filter]
  exact ⟨(together modes).trans (apart modes).symm, together modes,
    kept.trans ((together _).trans (apart _).symm), form.asked_eq_nil_iff⟩

theorem modes_one_by_one_unknown :
    let t : Terminal := ((new ⟨3, 2⟩ {} true).feed (Utf8.encodeString "abcd")).2
    let form := ModeForm.setPrivate
    form.text [1049, 9999, 3, 47] = Utf8.encodeString "\x1b[?1049;9999;3;47h" ∧
      t.feed (form.text [1049, 9999, 3, 47]) =
        t.feedAll [form.text [1049], form.text [3], form.text [47]] := by
  intro t form
  have settled : t.unread = [] := by decide +kernel
  exact ⟨by decide +kernel, (modes_one_by_one settled form [1049, 9999, 3, 47]).2.2.1⟩

end Terminal

end VideoTerminal

import Mathlib.Tactic.Tauto
import VideoTerminal.Dispatch

-- What an operation may take for granted about its arguments when a sequence asks for
-- it. The parameters of the sequence are any numbers at all, or none.
namespace VideoTerminal
open Dispatch
open Text (isControl)

namespace Operation

structure IsStep (distance : Int) : Prop where
  moves : distance ≠ 0
  fits : distance.natAbs ≤ 0x7fffffff

def InBounds : Operation → Prop
  | .moveCursor right down => (IsStep right ∧ down = 0) ∨ (right = 0 ∧ IsStep down)
  | .setCursorPosition column row => 1 ≤ column ∧ 1 ≤ row
  | .setCursorColumn column => 1 ≤ column
  | .setCursorRow row => 1 ≤ row
  | .setScrollRegion top _ => 1 ≤ top
  | .scrollUp count | .scrollDown count | .insertLines count | .deleteLines count
  | .insertBlanks count | .deleteCharacters count | .eraseCharacters count => 1 ≤ count
  | .putChar c => isControl c = false
  | _ => True

end Operation

namespace Dispatch
open Operation

theorem param_pos (s : Sequence) (i : Nat) {default : Nat} (pos : 1 ≤ default) :
    1 ≤ param s i default := by
  unfold param
  split
  · exact pos
  · exact Nat.one_le_iff_ne_zero.mpr ‹_›

theorem count_step (s : Sequence) : IsStep (count s) := by
  have pos := param_pos s 0 (Nat.le_refl 1)
  constructor <;> unfold count <;> omega

theorem count_back (s : Sequence) : IsStep (-count s) := by
  obtain ⟨moves, fits⟩ := count_step s
  exact ⟨Int.neg_ne_zero.mpr moves, by rwa [Int.natAbs_neg]⟩

def Bounded (operations : Sequence → List Operation) : Prop :=
  ∀ s, ∀ operation ∈ operations s, operation.InBounds

theorem nil_bounded : Bounded fun _ => [] := by
  simp [Bounded]

theorem cons_bounded {asked : Sequence → Operation} {more : Sequence → List Operation} :
    Bounded (fun s => asked s :: more s) ↔ (∀ s, (asked s).InBounds) ∧ Bounded more := by
  simp [Bounded, forall_and]

theorem always_bounded {operation : Operation} :
    Bounded (always operation) ↔ operation.InBounds := by
  simp [Bounded, always]

theorem withParam_bounded {asked : Nat → Operation} :
    Bounded (withParam asked) ↔ ∀ s, (asked (param s 0 1)).InBounds := by
  simp [Bounded, withParam]

theorem setPosition_bounded : Bounded setPosition :=
  cons_bounded.mpr
    ⟨fun s => ⟨param_pos s 1 (Nat.le_refl 1), param_pos s 0 (Nat.le_refl 1)⟩, nil_bounded⟩

theorem printable_bounded : Bounded printable := by
  intro s operation found
  unfold printable at found
  split at found
  · split at found
    · cases found
    · rename_i shown
      rw [List.mem_singleton.mp found]
      exact Bool.eq_false_iff.mpr shown
  · cases found

theorem selectRendition_bounded : Bounded selectRendition := by
  intro s operation found
  unfold selectRendition at found
  split at found
  · rw [List.mem_singleton.mp found]
    trivial
  · obtain ⟨code, -, rfl⟩ := List.mem_map.mp found
    trivial

theorem vt52Address_bounded : Bounded vt52Address := by
  intro s operation found
  cases s with
  | vt52Move row column =>
    rw [List.mem_singleton.mp found]
    exact ⟨Nat.le_max_left .., Nat.le_max_left ..⟩
  | _ => cases found

theorem designation_bounded : Bounded designation := by
  intro s
  cases s <;> simp [designation, InBounds]

theorem lineSize_bounded : Bounded lineSize := by
  intro s
  cases s with
  | lineSize size => cases size <;> simp [lineSize, InBounds]
  | _ => simp [lineSize]

theorem title_bounded : Bounded title := by
  intro s
  cases s <;> simp [title, InBounds]

theorem plain_bounded : ∀ rule ∈ cursorMovement ++ editing ++ scrollRegion ++ tabulation ++
    reports ++ publicModes ++ privateModes ++ savedModes ++ escapes, Bounded rule.operations := by
  simp [cursorMovement, editing, scrollRegion, tabulation, reports, publicModes, privateModes,
    bufferModes, savedModes, escapes, switch, savable, nil_bounded, cons_bounded, always_bounded,
    withParam_bounded, setPosition_bounded, InBounds, param_pos, count_step, count_back]

theorem controls_bounded : ∀ rule ∈ controls, Bounded rule.operations := by
  simp [controls, always_bounded, InBounds, printable_bounded]

theorem vt52_bounded : ∀ rule ∈ vt52, Bounded rule.operations := by
  have up : IsStep (-1) := ⟨by decide, by decide⟩
  have down : IsStep 1 := ⟨by decide, by decide⟩
  simp [vt52, always_bounded, InBounds, up, down, vt52Address_bounded]

theorem texts_bounded : ∀ rule ∈ texts, Bounded rule.operations := by
  simp [texts, always_bounded, InBounds, designation_bounded, lineSize_bounded, title_bounded]

theorem table_bounded : ∀ rule ∈ table, Bounded rule.operations := by
  have plain := plain_bounded
  simp only [List.forall_mem_append] at plain
  simp only [table, List.forall_mem_append, List.forall_mem_singleton]
  have rendition := selectRendition_bounded
  have rest := And.intro controls_bounded (And.intro vt52_bounded texts_bounded)
  tauto

end Dispatch

namespace Sequence

variable {P : Operation → Prop}

theorem forall_ownOperations (listed : ∀ rule ∈ table, ∀ s, ∀ operation ∈ rule.operations s,
    P operation) (s : Sequence) : ∀ operation ∈ s.ownOperations, P operation := by
  intro operation found
  obtain ⟨single, -, asked⟩ := List.mem_flatMap.mp found
  cases matched : single.rule? with
  | none =>
    rw [matched] at asked
    cases asked
  | some rule =>
    rw [matched] at asked
    exact listed rule (List.mem_of_find?_eq_some matched) single operation asked

mutual
theorem forall_operations (listed : ∀ rule ∈ table, ∀ s, ∀ operation ∈ rule.operations s,
    P operation) (s : Sequence) : ∀ operation ∈ s.operations, P operation := by
  cases s with
  | csi body first =>
    rw [operations, List.forall_mem_append]
    exact ⟨forall_operationsOfAll listed first, forall_ownOperations listed _⟩
  | _ => exact forall_ownOperations listed _
theorem forall_operationsOfAll (listed : ∀ rule ∈ table, ∀ s, ∀ operation ∈ rule.operations s,
    P operation) (first : List Sequence) : ∀ operation ∈ operationsOfAll first, P operation := by
  cases first with
  | nil => exact nofun
  | cons s rest =>
    rw [operationsOfAll, List.forall_mem_append]
    exact ⟨forall_operations listed s, forall_operationsOfAll listed rest⟩
end

theorem arguments_in_bounds (s : Sequence) : ∀ operation ∈ s.operations, operation.InBounds :=
  forall_operations table_bounded s

theorem arguments_in_bounds_nested :
    let s : Sequence := .csi { params := [0, 5], command := "H" }
      [.csi { params := [4294967295], command := "A" } [], .vt52Move (-37) 3]
    s.operations = [.moveCursor 0 (-2147483647), .setCursorPosition 3 1, .setCursorPosition 5 1] ∧
      ∀ operation ∈ s.operations, operation.InBounds := by
  intro s
  exact ⟨by decide +kernel, arguments_in_bounds s⟩

end Sequence

end VideoTerminal

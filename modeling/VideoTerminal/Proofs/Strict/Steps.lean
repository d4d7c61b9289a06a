import Mathlib.Data.List.Basic
import VideoTerminal.Proofs.Scrollback

-- Partial steps: what has no result where its arguments leave its range. A
-- computation made of them ends without a result as soon as one step does.
namespace VideoTerminal

namespace Padded

variable {α : Type} {filler : α} {items others : List α}

theorem eq_of_read (filler : α) (length : items.length = others.length)
    (same : ∀ j, read filler items j = read filler others j) : items = others := by
  refine List.ext_getElem length fun j inside insideToo => ?_
  have here := same j
  rw [read_eq, read_eq, List.getElem?_eq_getElem inside, List.getElem?_eq_getElem insideToo] at here
  exact here

theorem length_fill (first last : Nat) (item : α) :
    (fill filler first last item items).length =
      if first < last then max items.length last else items.length := by
  unfold fill
  split
  · simp only [List.length_append, List.length_take, length_pad, List.length_replicate,
      List.length_drop]
    omega
  · rfl

theorem length_insertMany (i n : Nat) (item : α) :
    (insertMany filler i n item items).length =
      if n = 0 then items.length else max items.length i + n := by
  unfold insertMany
  split
  · rfl
  · simp only [List.length_append, List.length_take, length_pad, List.length_replicate,
      List.length_drop]
    omega

theorem foldl_modify_eq_fill (first count : Nat) (item : α) :
    (List.range' first count).foldl (fun items i => modify filler i (fun _ => item) items) items =
      fill filler first (first + count) item items := by
  induction count with
  | zero => simp [fill]
  | succ count ih =>
    rw [List.range'_1_concat, List.foldl_append, ih, List.foldl_cons, List.foldl_nil]
    refine eq_of_read filler ?_ fun j => ?_
    · rw [length_modify, length_fill, length_fill,
        if_pos (show first < first + (count + 1) by omega)]
      split <;> omega
    · rw [read_modify, read_fill, read_fill]
      by_cases last : j = first + count
      · rw [if_pos last, if_pos (by omega)]
      · rw [if_neg last]
        exact if_congr (by omega) rfl rfl

theorem repeat_insert_eq_insertMany (i count : Nat) (item : α) :
    Nat.repeat (insert filler i item) count items = insertMany filler i count item items := by
  induction count with
  | zero => simp [insertMany, Nat.repeat]
  | succ count ih =>
    rw [Nat.repeat, ih]
    refine eq_of_read filler ?_ fun j => ?_
    · rw [length_insert, length_insertMany, length_insertMany, if_neg (Nat.succ_ne_zero count)]
      split <;> omega
    · rw [read_insert, read_insertMany, read_insertMany, read_insertMany]
      by_cases before : j < i
      · rw [if_pos before, if_pos before, if_pos before]
      · by_cases here : j = i
        · rw [if_neg before, if_pos here, if_neg before, if_pos (by omega)]
        · rw [if_neg before, if_neg here, if_neg (by omega), if_neg before]
          by_cases inside : j < i + (count + 1)
          · rw [if_pos (by omega), if_pos inside]
          · rw [if_neg (by omega), if_neg inside, Nat.sub_sub, Nat.add_comm 1]

theorem repeat_remove_eq_removeMany (i count : Nat) :
    Nat.repeat (remove i) count items = removeMany i count items := by
  induction count with
  | zero => simp [removeMany, Nat.repeat]
  | succ count ih =>
    rw [Nat.repeat, ih, removeMany, removeMany, remove]
    by_cases room : i < items.length
    · have front : (items.take i).length = i := by rw [List.length_take]; omega
      rw [List.eraseIdx_append_of_length_le (Nat.le_of_eq front), front, Nat.sub_self,
        List.eraseIdx_zero, List.tail_drop, Nat.add_assoc]
    · rw [List.drop_eq_nil_of_le (by omega), List.drop_eq_nil_of_le (by omega), List.append_nil,
        List.eraseIdx_of_length_le (by rw [List.length_take]; omega)]

end Padded

namespace Strict

def sub (a b : Nat) : Option Nat := if b ≤ a then some (a - b) else none

def clamp (value least most : Nat) : Option Nat :=
  if least ≤ most then some (Terminal.clamp value least most) else none

def word (value : Int) : Option Int :=
  if -0x80000000 ≤ value ∧ value ≤ 0x7fffffff then some value else none

def negate (value : Int) : Option Int := word (-value)

def unsigned (value : Int) : Option Nat := if 0 ≤ value then some value.toNat else none

theorem sub_eq {a b : Nat} (order : b ≤ a) : sub a b = some (a - b) := if_pos order

theorem sub_one_eq {a : Nat} (positive : 0 < a) : sub a 1 = some (a - 1) := sub_eq positive

theorem clamp_eq {value least most : Nat} (order : least ≤ most) :
    clamp value least most = some (Terminal.clamp value least most) := if_pos order

theorem word_eq {value : Int} (least : -0x80000000 ≤ value) (most : value ≤ 0x7fffffff) :
    word value = some value := if_pos ⟨least, most⟩

example : negate (-0x80000000) = none := by decide

theorem unsigned_eq {value : Int} (positive : 0 ≤ value) : unsigned value = some value.toNat :=
  if_pos positive

section Lists

variable {α : Type}

def index (items : List α) (i : Nat) : Option α := items[i]?

def insertAt (i : Nat) (item : α) (items : List α) : Option (List α) :=
  if i ≤ items.length then some (items.insertIdx i item) else none

def removeAt (i : Nat) (items : List α) : Option (List α) :=
  if i < items.length then some (items.eraseIdx i) else none

def takeFront (count : Nat) (items : List α) : Option (List α) :=
  if count ≤ items.length then some (items.take count) else none

def dropFront (count : Nat) (items : List α) : Option (List α) :=
  if count ≤ items.length then some (items.drop count) else none

def editReached (filler : α) (i : Nat) (edit : α → Option α) (items : List α) :
    Option (List α) := do
  let grown := Padded.pad filler (i + 1) items
  let item ← index grown i
  let edited ← edit item
  return grown.set i edited

def insertReached (filler : α) (i : Nat) (item : α) (items : List α) : Option (List α) :=
  insertAt i item (Padded.pad filler i items)

def removeStored (i : Nat) (items : List α) : Option (List α) :=
  if i < items.length then removeAt i items else some items

variable {filler : α} {items : List α}

theorem editReached_eq {edit : α → Option α} {f : α → α} (edits : ∀ item, edit item = some (f item))
    (i : Nat) : editReached filler i edit items = some (Padded.modify filler i f items) := by
  have inside : i < (Padded.pad filler (i + 1) items).length := by
    rw [Padded.length_pad]; omega
  simp only [editReached, index, List.getElem?_eq_getElem inside, Option.bind_eq_bind,
    Option.bind_some, edits, Option.pure_def, Padded.modify, List.modify_eq_set_get f inside]
  rfl

theorem insertReached_eq (i : Nat) (item : α) :
    insertReached filler i item items = some (Padded.insert filler i item items) :=
  if_pos (by rw [Padded.length_pad]; omega)

theorem removeStored_eq (i : Nat) : removeStored i items = some (Padded.remove i items) := by
  unfold removeStored
  by_cases stored : i < items.length
  · rw [if_pos stored]; exact if_pos stored
  · rw [if_neg stored, Padded.remove, List.eraseIdx_of_length_le (by omega)]

end Lists

section Loops

variable {σ ι : Type}

def span (first last : Nat) : List Nat := List.range' first (last - first)

def times (step : σ → Option σ) : Nat → σ → Option σ
  | 0, s => some s
  | count + 1, s => do step (← times step count s)

theorem times_eq {step : σ → Option σ} {f : σ → σ} (steps : ∀ s, step s = some (f s)) (count : Nat)
    (s : σ) : times step count s = some (Nat.repeat f count s) := by
  induction count with
  | zero => rfl
  | succ count ih => rw [times, ih]; exact steps _

theorem foldlM_eq {step : σ → ι → Option σ} {f : σ → ι → σ} {P : σ → Prop}
    (steps : ∀ s i, P s → step s i = some (f s i)) (keeps : ∀ s i, P s → P (f s i))
    (list : List ι) {s : σ} (holds : P s) : list.foldlM step s = some (list.foldl f s) := by
  induction list generalizing s with
  | nil => rfl
  | cons i rest ih =>
    rw [List.foldlM_cons, steps s i holds]
    exact ih (keeps s i holds)

end Loops

end Strict

end VideoTerminal

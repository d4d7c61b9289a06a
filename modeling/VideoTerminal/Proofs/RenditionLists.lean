import VideoTerminal.Proofs.RuleChoice
import VideoTerminal.Proofs.Run

-- A list of rendition codes is read part by part, where the numbers of an extended
-- colour make one part with its opener. A list whose last part is whole can be sent
-- apart from what follows it.
namespace VideoTerminal

namespace Rendition

inductive Part where
  | single (code : Nat)
  | entry (opener entry : Nat)
  | channels (opener red green blue : Nat)
  | alone (opener : Nat)
  | cut (opener : Nat) (given : List Nat)
  deriving DecidableEq, Repr

namespace Part

def params : Part → List Nat
  | single code => [code]
  | entry opener number => [opener, 5, number]
  | channels opener red green blue => [opener, 2, red, green, blue]
  | alone opener => [opener]
  | cut opener given => opener :: given

def opener? : Part → Option Nat
  | single _ => none
  | entry opener _ | channels opener _ _ _ | alone opener | cut opener _ => some opener

def isCut : Part → Bool
  | cut _ _ => true
  | _ => false

def codes : Part → List Nat
  | single code =>
    [if (90 ≤ code ∧ code ≤ 97) ∨ (100 ≤ code ∧ code ≤ 107) then code - 60 else code]
  | entry opener number => [opener - 8 + (Color.ofXterm256 number).index]
  | channels opener red green blue => [opener - 8 + (Color.ofRgb red green blue).index]
  | alone _ | cut _ _ => []

end Part

abbrev Opens (code : Nat) : Prop := code = 38 ∨ code = 48

inductive CutOff : List Nat → Prop where
  | opener : CutOff []
  | entry : CutOff [5]
  | channels {given : List Nat} (few : given.length < 3) : CutOff (2 :: given)

namespace CutOff

theorem not_entry {number : Nat} {rest : List Nat} : ¬CutOff (5 :: number :: rest) := nofun

theorem not_channels {red green blue : Nat} {rest : List Nat} :
    ¬CutOff (2 :: red :: green :: blue :: rest) := by
  intro cutOff
  cases cutOff with
  | channels few => exact absurd few (Nat.not_lt.mpr (Nat.le_add_left ..))

theorem not_other {next : Nat} {rest : List Nat} (other : next ≠ 5 ∧ next ≠ 2) :
    ¬CutOff (next :: rest) := by
  intro cutOff
  cases cutOff with
  | entry => exact other.1 rfl
  | channels => exact other.2 rfl

end CutOff

-- How a list falls into parts. Nothing is asked of the numbers inside an extended
-- colour, which may be openers themselves.
inductive Parted : List Nat → List Part → Prop where
  | nil : Parted [] []
  | single {code : Nat} {params : List Nat} {parts : List Part} (plain : ¬Opens code)
      (rest : Parted params parts) : Parted (code :: params) (.single code :: parts)
  | entry {opener number : Nat} {params : List Nat} {parts : List Part} (opens : Opens opener)
      (rest : Parted params parts) :
      Parted (opener :: 5 :: number :: params) (.entry opener number :: parts)
  | channels {opener red green blue : Nat} {params : List Nat} {parts : List Part}
      (opens : Opens opener) (rest : Parted params parts) :
      Parted (opener :: 2 :: red :: green :: blue :: params)
        (.channels opener red green blue :: parts)
  | alone {opener next : Nat} {params : List Nat} {parts : List Part} (opens : Opens opener)
      (other : next ≠ 5 ∧ next ≠ 2) (rest : Parted (next :: params) parts) :
      Parted (opener :: next :: params) (.alone opener :: parts)
  | cut {opener : Nat} {given : List Nat} (opens : Opens opener) (cutOff : CutOff given) :
      Parted (opener :: given) [.cut opener given]

def Complete (params : List Nat) : Prop :=
  ∃ parts, Parted params parts ∧ ∀ part ∈ parts, part.isCut = false

theorem codes_single {code : Nat} (plain : ¬Opens code) (rest : List Nat) :
    codes (code :: rest) = Part.codes (.single code) ++ codes rest := by
  rw [codes.eq_def]
  simp only [if_neg plain, Part.codes]
  split <;> rfl

section Opener

variable {opener : Nat} (opens : Opens opener)
include opens

theorem codes_entry (number : Nat) (rest : List Nat) :
    codes (opener :: 5 :: number :: rest) = Part.codes (.entry opener number) ++ codes rest := by
  simp [codes, Part.codes, opens]

theorem codes_channels (red green blue : Nat) (rest : List Nat) :
    codes (opener :: 2 :: red :: green :: blue :: rest) =
      Part.codes (.channels opener red green blue) ++ codes rest := by
  simp [codes, Part.codes, opens]

theorem codes_alone {next : Nat} (other : next ≠ 5 ∧ next ≠ 2) (rest : List Nat) :
    codes (opener :: next :: rest) = codes (next :: rest) := by
  simp [codes, opens, other]

theorem codes_cut {given : List Nat} (cutOff : CutOff given) : codes (opener :: given) = [] := by
  cases cutOff with
  | opener | entry => simp [codes, opens]
  | @channels given few =>
    match given, few with
    | [], _ | [_], _ | [_, _], _ => simp [codes, opens]

end Opener

variable {params more : List Nat} {parts others : List Part}

namespace Parted

theorem params_eq (parted : Parted params parts) : parts.flatMap Part.params = params := by
  induction parted with
  | nil => rfl
  | single _ _ ih | entry _ _ ih | channels _ _ ih | alone _ _ _ ih => simp [Part.params, ih]
  | cut => simp [Part.params]

theorem codes_eq (parted : Parted params parts) : codes params = parts.flatMap Part.codes := by
  induction parted with
  | nil => rfl
  | single plain _ ih => rw [codes_single plain, ih, List.flatMap_cons]
  | entry opens _ ih => rw [codes_entry opens, ih, List.flatMap_cons]
  | channels opens _ ih => rw [codes_channels opens, ih, List.flatMap_cons]
  | alone opens other _ ih => rw [codes_alone opens other, ih]; rfl
  | cut opens cutOff => exact codes_cut opens cutOff

theorem unique (parted : Parted params parts) (again : Parted params others) :
    others = parts := by
  induction parted generalizing others with
  | nil => cases again; rfl
  | single plain _ ih =>
    cases again with
    | single _ rest => rw [ih rest]
    | _ => exact absurd ‹Opens _› plain
  | entry opens _ ih =>
    cases again with
    | single plain _ => exact absurd opens plain
    | entry _ rest => rw [ih rest]
    | alone _ other _ => exact absurd rfl other.1
    | cut _ cutOff => exact absurd cutOff CutOff.not_entry
  | channels opens _ ih =>
    cases again with
    | single plain _ => exact absurd opens plain
    | channels _ rest => rw [ih rest]
    | alone _ other _ => exact absurd rfl other.2
    | cut _ cutOff => exact absurd cutOff CutOff.not_channels
  | alone opens other _ ih =>
    cases again with
    | single plain _ => exact absurd opens plain
    | entry => exact absurd rfl other.1
    | channels => exact absurd rfl other.2
    | alone _ _ rest => rw [ih rest]
    | cut _ cutOff => exact absurd cutOff (CutOff.not_other other)
  | cut opens cutOff =>
    cases again with
    | single plain _ => exact absurd opens plain
    | entry => exact absurd cutOff CutOff.not_entry
    | channels => exact absurd cutOff CutOff.not_channels
    | alone _ other _ => exact absurd cutOff (CutOff.not_other other)
    | cut => rfl

theorem append (parted : Parted params parts) (whole : ∀ part ∈ parts, part.isCut = false)
    (later : Parted more others) : Parted (params ++ more) (parts ++ others) := by
  induction parted with
  | nil => exact later
  | single plain _ ih => exact .single plain (ih (List.forall_mem_cons.mp whole).2)
  | entry opens _ ih => exact .entry opens (ih (List.forall_mem_cons.mp whole).2)
  | channels opens _ ih => exact .channels opens (ih (List.forall_mem_cons.mp whole).2)
  | alone opens other _ ih => exact .alone opens other (ih (List.forall_mem_cons.mp whole).2)
  | cut => cases (List.forall_mem_cons.mp whole).1

end Parted

theorem exists_parted (params : List Nat) : ∃ parts, Parted params parts := by
  induction params using codes.induct with
  | case1 => exact ⟨_, .nil⟩
  | case2 opener opens number rest ih =>
    obtain ⟨parts, rest⟩ := ih
    exact ⟨_, .entry opens rest⟩
  | case3 opener opens => exact ⟨_, .cut opens .entry⟩
  | case4 opener opens red green blue rest ih =>
    obtain ⟨parts, rest⟩ := ih
    exact ⟨_, .channels opens rest⟩
  | case5 opener opens given short =>
    have few : given.length < 3 := by
      match given, short with
      | [], _ | [_], _ | [_, _], _ => simp
      | red :: green :: blue :: rest, short => exact absurd rfl (short red green blue rest)
    exact ⟨_, .cut opens (.channels few)⟩
  | case6 opener opens rest noEntry notFive _ notTwo ih =>
    match rest, ih with
    | [], _ => exact ⟨_, .cut opens .opener⟩
    | next :: rest, ih =>
      have other : next ≠ 5 ∧ next ≠ 2 := by
        refine ⟨?_, ?_⟩
        · rintro rfl
          cases rest with
          | nil => exact notFive rfl
          | cons number rest => exact noEntry number rest rfl
        · rintro rfl
          exact notTwo rest rfl
      obtain ⟨parts, rest⟩ := ih
      exact ⟨_, .alone opens other rest⟩
  | case7 code rest plain bright ih =>
    obtain ⟨parts, rest⟩ := ih
    exact ⟨_, .single plain rest⟩
  | case8 code rest plain bright ih =>
    obtain ⟨parts, rest⟩ := ih
    exact ⟨_, .single plain rest⟩

theorem cutOff_completed {opener : Nat} {given : List Nat} (opens : Opens opener)
    (cutOff : CutOff given) :
    ∃ more, more ≠ [] ∧ codes (opener :: given ++ more) ≠ codes more := by
  cases cutOff with
  | opener => exact ⟨[5, 0], by simp, by simp [codes, opens]⟩
  | entry => exact ⟨[0], by simp, by simp [codes, opens]; omega⟩
  | @channels given few =>
    match given, few with
    | [], _ => exact ⟨[0, 0, 0], by simp, by simp [codes, opens]⟩
    | [_], _ => exact ⟨[0, 0], by simp, by simp [codes, opens]⟩
    | [_, _], _ => exact ⟨[0], by simp, by simp [codes, opens]; omega⟩

theorem differ_behind (front : List Nat) {own : List Nat}
    (reads : ∀ rest, codes (front ++ rest) = own ++ codes rest)
    (differ : codes (params ++ more) ≠ codes params ++ codes more) :
    codes (front ++ params ++ more) ≠ codes (front ++ params) ++ codes more := by
  intro same
  rw [List.append_assoc, reads, reads, List.append_assoc] at same
  exact differ (List.append_cancel_left same)

theorem Parted.completed (parted : Parted params parts) (cut : ∃ part ∈ parts, part.isCut = true) :
    ∃ more, more ≠ [] ∧ codes (params ++ more) ≠ codes params ++ codes more := by
  induction parted with
  | nil => simp at cut
  | single plain _ ih =>
    obtain ⟨more, some, differ⟩ := ih (by simpa [Part.isCut] using cut)
    exact ⟨more, some, differ_behind [_] (codes_single plain) differ⟩
  | entry opens _ ih =>
    obtain ⟨more, some, differ⟩ := ih (by simpa [Part.isCut] using cut)
    exact ⟨more, some, differ_behind [_, 5, _] (codes_entry opens _) differ⟩
  | channels opens _ ih =>
    obtain ⟨more, some, differ⟩ := ih (by simpa [Part.isCut] using cut)
    exact ⟨more, some, differ_behind [_, 2, _, _, _] (codes_channels opens _ _ _) differ⟩
  | alone opens other _ ih =>
    obtain ⟨more, some, differ⟩ := ih (by simpa [Part.isCut] using cut)
    refine ⟨more, some, ?_⟩
    simpa only [List.cons_append, codes_alone opens other] using differ
  | cut opens cutOff =>
    obtain ⟨more, some, differ⟩ := cutOff_completed opens cutOff
    exact ⟨more, some, by rwa [codes_cut opens cutOff]⟩

theorem complete_iff (params : List Nat) :
    Complete params ↔ ∀ more, more ≠ [] → codes (params ++ more) = codes params ++ codes more := by
  constructor
  · rintro ⟨parts, parted, whole⟩ more -
    obtain ⟨others, later⟩ := exists_parted more
    rw [(parted.append whole later).codes_eq, parted.codes_eq, later.codes_eq,
      List.flatMap_append]
  · intro composes
    obtain ⟨parts, parted⟩ := exists_parted params
    refine ⟨parts, parted, ?_⟩
    by_contra cut
    obtain ⟨more, some, differ⟩ := parted.completed (by simpa using cut)
    exact differ (composes more some)

theorem Parted.opens (parted : Parted params parts) :
    ∀ part ∈ parts, ∀ opener, part.opener? = some opener → Opens opener := by
  induction parted with
  | nil => simp
  | single _ _ ih => simpa [Part.opener?] using ih
  | entry opens _ ih | channels opens _ ih | alone opens _ _ ih =>
    simpa [Part.opener?] using ⟨opens, ih⟩
  | cut opens _ => simpa [Part.opener?] using opens

theorem Part.codes_of_opener {part : Part} {opener : Nat} (opens : Opens opener)
    (opened : part.opener? = some opener) : part.codes.length ≤ 1 ∧ ∀ code ∈ part.codes,
      (opener = 38 ∧ 30 ≤ code ∧ code ≤ 37) ∨ (opener = 48 ∧ 40 ≤ code ∧ code ≤ 47) := by
  have palette (color : Color) : ∀ code ∈ [opener - 8 + color.index],
      (opener = 38 ∧ 30 ≤ code ∧ code ≤ 37) ∨ (opener = 48 ∧ 40 ≤ code ∧ code ≤ 47) := by
    intro code found
    have small := color.index_lt
    have same : code = opener - 8 + color.index := List.mem_singleton.mp found
    omega
  cases part with
  | single => cases opened
  | entry =>
    cases opened
    exact ⟨Nat.le_refl 1, palette _⟩
  | channels =>
    cases opened
    exact ⟨Nat.le_refl 1, palette _⟩
  | alone | cut => exact ⟨Nat.zero_le 1, nofun⟩

end Rendition

namespace Sequence
open Rendition

def rendition (params : List Nat) : Sequence := .csi { params, command := "m" } []

theorem rule?_rendition (params : List Nat) : (rendition params).rule? =
    some (Dispatch.csi "m" "Select graphic rendition" Dispatch.selectRendition) :=
  rule?_eq_some nofun (by simp [Dispatch.table]) rfl

theorem operations_rendition (params : List Nat) : (rendition params).operations =
    (if params = [] then [0] else codes params).map .selectRendition := by
  have alone : (rendition params).singles = [rendition params] := by
    simp [rendition, singles]
  have own : (rendition params).operations = Dispatch.selectRendition (rendition params) := by
    show (rendition params).ownOperations = _
    rw [ownOperations, alone, List.flatMap_singleton, rule?_rendition]
    rfl
  rw [own]
  cases params <;> rfl

theorem rendition_lists_compose :
    (∀ ps, ps ≠ [] → (Complete ps ↔ ∀ qs, qs ≠ [] →
      (rendition (ps ++ qs)).operations = (rendition ps).operations ++ (rendition qs).operations)) ∧
    (∀ ps qs, ps ≠ [] → qs ≠ [] → Complete ps → ∀ t : Terminal,
      t.dispatch (rendition (ps ++ qs)) = (t.dispatch (rendition ps)).dispatch (rendition qs)) ∧
    ∀ ps, ∃ parts, Parted ps parts ∧ (∀ others, Parted ps others → others = parts) ∧
      parts.flatMap Part.params = ps ∧
      (rendition ps).operations =
        (if ps = [] then [0] else parts.flatMap Part.codes).map .selectRendition ∧
      ∀ part ∈ parts, ∀ opener, part.opener? = some opener →
        part.codes.length ≤ 1 ∧ ∀ code ∈ part.codes,
          (opener = 38 ∧ 30 ≤ code ∧ code ≤ 37) ∨ (opener = 48 ∧ 40 ≤ code ∧ code ≤ 47) := by
  have composed : ∀ ps, ps ≠ [] → (Complete ps ↔ ∀ qs, qs ≠ [] →
      (rendition (ps ++ qs)).operations =
        (rendition ps).operations ++ (rendition qs).operations) := by
    intro ps some
    rw [complete_iff]
    refine forall₂_congr fun qs more => ?_
    have both : ps ++ qs ≠ [] := List.append_ne_nil_of_left_ne_nil some qs
    simp only [operations_rendition, if_neg some, if_neg more, if_neg both]
    rw [← List.map_append]
    have apart := List.map_injective_iff.mpr fun _ _ => Operation.selectRendition.inj
    exact apart.eq_iff.symm
  refine ⟨composed, ?_, ?_⟩
  · intro ps qs some more complete t
    rw [Terminal.dispatch, (composed ps some).mp complete qs more]
    exact t.performAll_append _ _
  · intro ps
    obtain ⟨parts, parted⟩ := exists_parted ps
    refine ⟨parts, parted, fun others again => parted.unique again, parted.params_eq, ?_, ?_⟩
    · rw [operations_rendition, parted.codes_eq]
    · intro part member opener opened
      exact Part.codes_of_opener (parted.opens part member opener opened) opened

theorem rendition_lists_compose_openers :
    let ps := [1, 38, 5, 48]
    let qs := [5, 48, 2, 255, 0, 38]
    let t := Terminal.new ⟨3, 2⟩ {} false
    ps ≠ [] ∧ qs ≠ [] ∧ Complete ps ∧
      (rendition ps).operations ++ (rendition qs).operations =
        [1, 32, 5, 41].map .selectRendition ∧
      (rendition (ps ++ qs)).operations = [1, 32, 5, 41].map .selectRendition ∧
      t.dispatch (rendition (ps ++ qs)) = (t.dispatch (rendition ps)).dispatch (rendition qs) := by
  intro ps qs t
  have complete : Complete ps :=
    ⟨[.single 1, .entry 38 48], .single (by decide) (.entry (by decide) .nil), by decide⟩
  have some : ps ≠ [] := by decide
  have more : qs ≠ [] := by decide
  have apart : (rendition ps).operations ++ (rendition qs).operations =
      [1, 32, 5, 41].map .selectRendition := by decide +kernel
  have composed := (rendition_lists_compose.1 ps some).mp complete qs more
  exact ⟨some, more, complete, apart, composed.trans apart,
    rendition_lists_compose.2.1 ps qs some more complete t⟩

end Sequence

end VideoTerminal

import Mathlib.Data.List.Permutation
import VideoTerminal.Dispatch

-- Which rules accept a sequence. No two of the table accept the same one, but for
-- characters, where one rule takes what the others leave over. So the order of the
-- table matters in one place only.
namespace VideoTerminal
open Dispatch

def ParamCount.apart : ParamCount → ParamCount → Bool
  | .exactly count, other => !other.accepts count
  | other, .exactly count => !other.accepts count
  | _, _ => false

theorem ParamCount.refuses_of_apart {a b : ParamCount} (apart : a.apart b = true) {count : Nat}
    (accepted : a.accepts count = true) : b.accepts count = false := by
  unfold ParamCount.apart at apart
  split at apart
  · obtain rfl : count = _ := of_decide_eq_true accepted
    exact (Bool.not_eq_true' _).mp apart
  · refine Bool.eq_false_iff.mpr fun both => ?_
    obtain rfl : count = _ := of_decide_eq_true both
    rw [accepted] at apart
    cases apart
  · cases apart

theorem Sequence.Command.matches_inj {command : Command} {a b : String}
    (first : command.matches a = true) (second : command.matches b = true) : a = b := by
  cases command with
  | text own =>
    have left : own = a := by simpa [Command.matches] using first
    have right : own = b := by simpa [Command.matches] using second
    exact left.symm.trans right
  | character own =>
    have left : [own] = a.toList := by simpa [Command.matches] using first
    have right : [own] = b.toList := by simpa [Command.matches] using second
    exact String.toList_injective (left.symm.trans right)

namespace Rule

-- What tells two rules apart whatever the sequence is: one of the things that a rule
-- fixes is fixed in two ways.
def apart (a b : Rule) : Bool :=
  decide (a.kind ≠ b.kind) || decide (a.command ≠ "" ∧ b.command ≠ "" ∧ a.command ≠ b.command) ||
    decide (a.markers ≠ b.markers) || a.params.apart b.params ||
      decide (a.firstParam ≠ [] ∧ b.firstParam ≠ [] ∧ ∀ value ∈ a.firstParam, value ∉ b.firstParam)

def isCatchAll (r : Rule) : Bool := decide (r.kind = .character ∧ r.command = "")

variable {a b r : Rule} {s : Sequence}

structure Fits (r : Rule) (s : Sequence) : Prop where
  kind : r.kind = s.kind
  command : r.command ≠ "" → ∃ own, s.command = some own ∧ own.matches r.command = true
  markers : s.markers = r.markers
  meant : s.hasPrivateParams = false
  count : r.params.accepts s.params.length = true
  first : r.firstParam ≠ [] → s.params.headD 0 ∈ r.firstParam

theorem fits_of_accepts (accepted : r.accepts s = true) : Fits r s := by
  simp only [accepts, Bool.and_eq_true, decide_eq_true_eq, Bool.not_eq_true'] at accepted
  obtain ⟨⟨⟨⟨⟨kind, command⟩, markers⟩, meant⟩, count⟩, first⟩ := accepted
  refine ⟨kind, fun given => ?_, markers, meant, count, fun given => ?_⟩
  · simpa [acceptsCommand, given, Option.any_eq_true] using command
  · simpa [acceptsFirstParam, given] using first

theorem refuses_of_apart (apart : a.apart b = true) (accepted : a.accepts s = true) :
    b.accepts s = false := by
  refine Bool.eq_false_iff.mpr fun both => ?_
  have left := fits_of_accepts accepted
  have right := fits_of_accepts both
  simp only [Rule.apart, Bool.or_eq_true, decide_eq_true_eq] at apart
  rcases apart with (((kind | command) | markers) | count) | first
  · exact kind (left.kind.trans right.kind.symm)
  · obtain ⟨own, found, mine⟩ := left.command command.1
    obtain ⟨same, again, yours⟩ := right.command command.2.1
    obtain rfl : own = same := Option.some.inj (found.symm.trans again)
    exact command.2.2 (Sequence.Command.matches_inj mine yours)
  · exact markers (left.markers.symm.trans right.markers)
  · have refused := ParamCount.refuses_of_apart count left.count
    rw [right.count] at refused
    cases refused
  · exact first.2.2 _ (left.first first.1) (right.first first.2.1)

end Rule

namespace Dispatch

-- Any two rules of the table are apart, but for a rule for one control character
-- and the one for whatever characters are left.
theorem table_apart : table.Pairwise fun a b =>
    a.apart b = true ∨ (a.isCatchAll = false ∧ b.isCatchAll = true) := by
  decide +kernel

def catchAll : Rule := character "" "Printable character" printable

theorem catchAll_mem : catchAll ∈ table := by
  simp [table, controls, catchAll]

theorem mem_controls : ∀ rule ∈ table, rule.kind = .character → rule ∈ controls := by
  have others : ∀ rule ∈ table.drop 10, rule.kind ≠ .character := by decide
  intro rule listed kind
  rw [← List.take_append_drop 10 table] at listed
  rcases List.mem_append.mp listed with control | other
  · exact control
  · exact absurd kind (others rule other)

theorem accepts_character (c : Char) (command description : String)
    (operations : Sequence → List Operation) :
    (character command description operations).accepts (.character c) =
      (command == "" || [c] == command.toList) := by
  simp [character, Rule.accepts, Rule.acceptsCommand, Rule.acceptsFirstParam, Sequence.kind,
    Sequence.command, Sequence.Command.matches, Sequence.markers, Sequence.hasPrivateParams,
    ParamCount.accepts]

theorem controls_character : ∀ rule ∈ controls,
    rule = character rule.command rule.description rule.operations := by
  simp [controls, character]

theorem controls_accept {rule : Rule} (listed : rule ∈ controls) (c : Char) :
    rule.accepts (.character c) = (rule.isCatchAll || [c] == rule.command.toList) := by
  rw [controls_character rule listed, accepts_character, beq_eq_decide]
  simp [Rule.isCatchAll, character]

theorem controls_single : ∀ rule ∈ controls, rule.isCatchAll = false →
    ∃ c, rule.command.toList = [c] ∧ c.toNat < 0x20 := by
  simp [controls, Rule.isCatchAll, character]

theorem controls_reached {rule : Rule} (listed : rule ∈ controls) :
    ∃ c, rule.accepts (.character c) = true := by
  cases single : rule.isCatchAll with
  | true => exact ⟨' ', by rw [controls_accept listed, single, Bool.true_or]⟩
  | false =>
    obtain ⟨c, command, -⟩ := controls_single rule listed single
    exact ⟨c, by rw [controls_accept listed, command, beq_self_eq_true, Bool.or_true]⟩

theorem controls_ask : ∀ rule ∈ controls, rule.isCatchAll = false →
    ∀ s, rule.operations s ≠ [] := by
  simp [controls, Rule.isCatchAll, character, always]

theorem catchAll_drops {c : Char} (control : c.toNat < 0x20) :
    catchAll.operations (.character c) = [] :=
  if_pos (decide_eq_true (.inl control))

def CatchAllLast (rules : List Rule) : Prop :=
  rules.Pairwise fun earlier later => earlier.isCatchAll = true → later.kind ≠ .character

end Dispatch

namespace Sequence

variable {s : Sequence} {rule : Rule} {rules : List Rule}

def candidates (rules : List Rule) (s : Sequence) : List Rule := rules.filter (·.accepts s)

theorem candidates_pairwise (s : Sequence) : (candidates table s).Pairwise fun a b =>
    a.isCatchAll = false ∧ b.isCatchAll = true := by
  refine List.pairwise_filter.mpr (table_apart.imp fun {a b} parted first second => ?_)
  rcases parted with apart | left
  · rw [Rule.refuses_of_apart apart first] at second
    cases second
  · exact left

theorem candidates_length (other : s.kind ≠ .character) : (candidates table s).length ≤ 1 := by
  have single : ∀ rule ∈ candidates table s, rule.isCatchAll = false := by
    intro rule found
    have fits := Rule.fits_of_accepts (List.mem_filter.mp found).2
    exact decide_eq_false fun both => other (fits.kind.symm.trans both.1)
  have ordered := candidates_pairwise s
  generalize candidates table s = found at single ordered
  match found with
  | [] | [_] => simp
  | a :: b :: rest =>
    have left := (List.pairwise_cons.mp ordered).1 b List.mem_cons_self
    have right := single b (List.mem_cons_of_mem _ List.mem_cons_self)
    rw [left.2] at right
    cases right

theorem candidates_character (c : Char) : candidates table (.character c) = [catchAll] ∨
    ∃ rule, rule ∈ controls ∧ rule.isCatchAll = false ∧ rule.command.toList = [c] ∧
      c.toNat < 0x20 ∧ candidates table (.character c) = [rule, catchAll] := by
  have ordered := candidates_pairwise (.character c)
  have left : catchAll ∈ candidates table (.character c) :=
    List.mem_filter.mpr ⟨catchAll_mem, rfl⟩
  have listed : ∀ rule ∈ candidates table (.character c), rule ∈ controls ∧
      rule.accepts (.character c) = true := by
    intro rule found
    obtain ⟨member, accepted⟩ := List.mem_filter.mp found
    exact ⟨mem_controls rule member (Rule.fits_of_accepts accepted).kind, accepted⟩
  generalize candidates table (.character c) = found at ordered left listed ⊢
  match found with
  | [] => cases left
  | [rule] => exact .inl (by rw [List.mem_singleton.mp left])
  | [rule, last] =>
    obtain ⟨single, -⟩ := (List.pairwise_cons.mp ordered).1 last List.mem_cons_self
    have same : catchAll = last := by
      rcases List.mem_cons.mp left with rfl | later
      · cases single
      · exact List.mem_singleton.mp later
    obtain ⟨member, accepted⟩ := listed rule List.mem_cons_self
    obtain ⟨d, command, control⟩ := controls_single rule member single
    rw [controls_accept member, single, Bool.false_or, beq_iff_eq, command] at accepted
    obtain rfl : c = d := List.head_eq_of_cons_eq accepted
    exact .inr ⟨rule, member, single, command, control, by rw [same]⟩
  | first :: rule :: last :: rest =>
    have behind := (List.pairwise_cons.mp ordered).2
    have before := (List.pairwise_cons.mp ordered).1 rule List.mem_cons_self
    have after := (List.pairwise_cons.mp behind).1 last List.mem_cons_self
    rw [before.2] at after
    cases after.1

theorem rule?_eq (s : Sequence) : s.rule? = (candidates table s).head? :=
  List.head?_filter.symm

theorem rule?_eq_some (other : s.kind ≠ .character) (listed : rule ∈ table)
    (accepted : rule.accepts s = true) : s.rule? = some rule := by
  have member : rule ∈ candidates table s := List.mem_filter.mpr ⟨listed, accepted⟩
  have few := candidates_length other
  rw [rule?_eq]
  generalize candidates table s = found at member few
  match found with
  | [] => cases member
  | [_] => rw [List.mem_singleton.mp member]; rfl
  | _ :: _ :: _ => simp at few

def ownOperationsBy (rules : List Rule) (s : Sequence) : List Operation :=
  s.singles.flatMap fun single =>
    ((rules.find? (·.accepts single)).map (·.operations single)).getD []

mutual
def operationsBy (rules : List Rule) : Sequence → List Operation
  | .csi body first => operationsOfAllBy rules first ++ ownOperationsBy rules (.csi body first)
  | s => ownOperationsBy rules s
def operationsOfAllBy (rules : List Rule) : List Sequence → List Operation
  | [] => []
  | s :: rest => operationsBy rules s ++ operationsOfAllBy rules rest
end

mutual
theorem operationsBy_eq (rules : List Rule) (same : ∀ s, candidates rules s = candidates table s)
    (s : Sequence) : operationsBy rules s = s.operations := by
  have chosen (s : Sequence) : rules.find? (·.accepts s) = s.rule? := by
    rw [rule?_eq, ← same, candidates, List.head?_filter]
  have own (s : Sequence) : ownOperationsBy rules s = s.ownOperations := by
    simp only [ownOperationsBy, ownOperations, chosen]
  cases s with
  | csi body first => rw [operationsBy, operations, own, operationsOfAllBy_eq rules same first]
  | _ => exact own _
theorem operationsOfAllBy_eq (rules : List Rule)
    (same : ∀ s, candidates rules s = candidates table s) (first : List Sequence) :
    operationsOfAllBy rules first = operationsOfAll first := by
  cases first with
  | nil => rfl
  | cons s rest =>
    rw [operationsOfAllBy, operationsOfAll, operationsBy_eq rules same s,
      operationsOfAllBy_eq rules same rest]
end

theorem candidates_perm (perm : rules.Perm table) (s : Sequence) :
    (candidates rules s).Perm (candidates table s) := perm.filter _

theorem candidates_of_last (perm : rules.Perm table) (last : CatchAllLast rules) (s : Sequence) :
    candidates rules s = candidates table s := by
  have same := candidates_perm perm s
  by_cases character : s.kind = .character
  · obtain ⟨c, rfl⟩ : ∃ c, s = .character c := by cases s <;> cases character; exact ⟨_, rfl⟩
    rcases candidates_character c with alone | ⟨rule, listed, -, -, -, both⟩
    · rw [alone] at same ⊢
      exact List.perm_singleton.mp same
    · have kept : (candidates rules (.character c)).Pairwise _ := List.Pairwise.filter _ last
      rw [both] at same ⊢
      rcases List.perm_pair.mp same with ordered | swapped
      · exact ordered
      · rw [swapped] at kept
        have behind := (List.pairwise_cons.mp kept).1 rule List.mem_cons_self rfl
        exact absurd (by rw [controls_character rule listed]; rfl) behind
  · have few := candidates_length character
    generalize candidates table s = found at same few ⊢
    match found with
    | [] => exact List.perm_nil.mp same
    | [_] => exact List.perm_singleton.mp same
    | _ :: _ :: _ => simp at few

theorem operationsBy_character (rules : List Rule) (c : Char) :
    operationsBy rules (.character c) =
      ((candidates rules (.character c)).head?.map (·.operations (.character c))).getD [] := by
  simp [operationsBy, ownOperationsBy, singles, candidates, List.head?_filter]

-- A rule behind the one that takes all characters loses its own to it, and that one
-- drops control characters.
theorem catchAllLast_of_same (perm : rules.Perm table)
    (same : ∀ s, operationsBy rules s = s.operations) : CatchAllLast rules := by
  refine List.pairwise_iff_forall_sublist.mpr fun {earlier later} placed catches kind => ?_
  have listed : ∀ rule ∈ [earlier, later], rule.kind = .character → rule ∈ controls :=
    fun rule found => mem_controls rule (perm.subset (placed.subset found))
  have front : earlier ∈ controls :=
    listed earlier List.mem_cons_self (of_decide_eq_true catches).1
  have back : later ∈ controls := listed later (by simp) kind
  obtain ⟨c, accepted⟩ := controls_reached back
  have taken : earlier.accepts (.character c) = true := by
    rw [controls_accept front, catches, Bool.true_or]
  have kept : [earlier, later].Sublist (candidates rules (.character c)) := by
    simpa [candidates, taken, accepted] using placed.filter (·.accepts (.character c))
  have perm := candidates_perm perm (.character c)
  rcases candidates_character c with alone | ⟨rule, ruled, single, -, control, both⟩
  · have few := kept.length_le.trans_eq perm.length_eq
    simp [alone] at few
  · have whole := kept.eq_of_length (by rw [perm.length_eq, both]; rfl)
    rw [← whole, both] at perm
    have asked := same (.character c)
    rw [← operationsBy_eq table (fun _ => rfl), operationsBy_character,
      operationsBy_character, ← whole, both] at asked
    rcases List.perm_pair.mp perm with ordered | swapped
    · obtain rfl : earlier = rule := List.head_eq_of_cons_eq ordered
      rw [catches] at single
      cases single
    · obtain rfl : earlier = catchAll := List.head_eq_of_cons_eq swapped
      exact controls_ask rule ruled single _ (asked.symm.trans (catchAll_drops control))

theorem table_unambiguous :
    (∀ s : Sequence, s.kind ≠ .character → (candidates table s).length ≤ 1) ∧
    (∀ c : Char, candidates table (.character c) = [catchAll] ∨
      ∃ rule, rule.command.toList = [c] ∧ c.toNat < 0x20 ∧
        candidates table (.character c) = [rule, catchAll]) ∧
    ∀ rules : List Rule, rules.Perm table →
      ((∀ s, operationsBy rules s = s.operations) ↔ CatchAllLast rules) := by
  refine ⟨fun s other => candidates_length other, fun c => ?_, fun rules perm => ⟨?_, ?_⟩⟩
  · rcases candidates_character c with alone | ⟨rule, -, -, command, control, both⟩
    · exact .inl alone
    · exact .inr ⟨rule, command, control, both⟩
  · exact catchAllLast_of_same perm
  · exact fun last s => operationsBy_eq rules (candidates_of_last perm last) s

theorem table_unambiguous_regrouped :
    let s : Sequence := .csi { params := [4], query := true, command := "h" } [.character '\n']
    let rules := table.drop 10 ++ table.take 10
    s.kind ≠ .character ∧ (candidates table s).length ≤ 1 ∧ rules.Perm table ∧
      CatchAllLast rules ∧
        operationsBy rules s = [.newLine, .setHostMode .smoothScroll true] := by
  intro s rules
  have perm : rules.Perm table := by
    have moved : rules.Perm (table.take 10 ++ table.drop 10) := List.perm_append_comm
    rwa [List.take_append_drop] at moved
  have last : CatchAllLast rules := by
    unfold CatchAllLast
    decide +kernel
  have asked : s.operations = [.newLine, .setHostMode .smoothScroll true] := by decide +kernel
  refine ⟨by decide, table_unambiguous.1 s (by decide), perm, last, ?_⟩
  rw [(table_unambiguous.2.2 rules perm).mpr last s, asked]

end Sequence

end VideoTerminal

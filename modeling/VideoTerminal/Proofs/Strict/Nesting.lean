import Mathlib.Logic.Function.Iterate
import VideoTerminal.Proofs.Strict.Scan

-- Transactions of a reader, nested in any way, and flushing. A reader that has
-- flushed differs from one that never does by bytes in front that nothing can
-- return to, so no answer shows the difference; and a transaction that is rolled
-- back leaves nothing behind but what was added meanwhile.
namespace VideoTerminal

namespace ByteReader

structure Ordered (r : ByteReader) : Prop where
  inside : r.position ≤ r.bytes.length
  nested : (r.position :: r.marks).Pairwise fun later earlier => earlier ≤ later

-- The reader as it was before it forgot bytes that it had read.
def preceded (lost : List UInt8) (r : ByteReader) : ByteReader where
  bytes := lost ++ r.bytes
  position := lost.length + r.position
  marks := r.marks.map (lost.length + ·)

def start (r : ByteReader) : Nat := r.marks.getLast?.getD r.position

section Ordered

variable {r : ByteReader}

theorem Ordered.add (ordered : Ordered r) (bytes : List UInt8) : Ordered (r.add bytes) :=
  ⟨Strict.Inside.add ordered.inside bytes, ordered.nested⟩

theorem Ordered.advance (ordered : Ordered r) {byte : UInt8} (peeked : r.peek? = some byte) :
    Ordered (r.advance 1) := by
  obtain ⟨stored, -⟩ := List.getElem?_eq_some_iff.mp peeked
  obtain ⟨reached, marks⟩ := List.pairwise_cons.mp ordered.nested
  exact ⟨stored, .cons (fun mark set => Nat.le_succ_of_le (reached mark set)) marks⟩

theorem Ordered.mark (ordered : Ordered r) : Ordered r.mark := by
  refine ⟨ordered.inside, .cons (fun mark set => ?_) ordered.nested⟩
  rcases List.mem_cons.mp set with rfl | earlier
  · exact Nat.le_refl _
  · exact List.rel_of_pairwise_cons ordered.nested earlier

theorem Ordered.commit (ordered : Ordered r) : Ordered r.commit :=
  ⟨ordered.inside, ordered.nested.sublist (r.marks.tail_sublist.cons_cons r.position)⟩

theorem Ordered.rollback (ordered : Ordered r) : Ordered r.rollback := by
  obtain ⟨inside, nested⟩ := ordered
  unfold ByteReader.rollback
  split
  · exact ⟨inside, nested⟩
  · rename_i mark outer same
    rw [same] at nested
    have reached : mark ≤ r.position := List.rel_of_pairwise_cons nested List.mem_cons_self
    exact ⟨Nat.le_trans reached inside, nested.of_cons⟩

theorem Ordered.start_le (ordered : Ordered r) :
    r.start ≤ r.position ∧ ∀ mark ∈ r.marks, r.start ≤ mark := by
  have nested := ordered.nested
  unfold start
  rcases List.eq_nil_or_concat' r.marks with none | ⟨inner, outermost, parts⟩
  · rw [none]
    exact ⟨Nat.le_refl _, fun _ set => absurd set List.not_mem_nil⟩
  · rw [parts, List.getLast?_concat, Option.getD_some]
    rw [parts, ← List.cons_append] at nested
    have least := (List.pairwise_append.mp nested).2.2
    refine ⟨least _ List.mem_cons_self _ List.mem_cons_self, fun mark set => ?_⟩
    rcases List.mem_append.mp set with within | same
    · exact least mark (List.mem_cons_of_mem _ within) _ List.mem_cons_self
    · exact Nat.le_of_eq (List.mem_singleton.mp same).symm

theorem Ordered.flush (ordered : Ordered r) : Ordered r.flush := by
  refine ⟨?_, ordered.nested.map (· - r.start) fun later earlier (order : earlier ≤ later) =>
    Nat.sub_le_sub_right order _⟩
  rw [show r.flush.bytes = r.bytes.drop r.start from rfl, List.length_drop]
  exact Nat.sub_le_sub_right ordered.inside _

theorem Ordered.preceded_flush (ordered : Ordered r) :
    r.flush.preceded (r.bytes.take r.start) = r := by
  obtain ⟨before, least⟩ := ordered.start_le
  have length : (r.bytes.take r.start).length = r.start :=
    List.length_take_of_le (Nat.le_trans before ordered.inside)
  have marks : (r.marks.map (· - r.start)).map (r.start + ·) = r.marks := by
    rw [List.map_map]
    exact (List.map_congr_left fun mark set => Nat.add_sub_cancel' (least mark set)).trans
      (List.map_id r.marks)
  calc r.flush.preceded (r.bytes.take r.start)
    _ = ByteReader.mk (r.bytes.take r.start ++ r.bytes.drop r.start)
          (r.start + (r.position - r.start)) ((r.marks.map (· - r.start)).map (r.start + ·)) := by
      unfold preceded
      rw [length]
      rfl
    _ = r := by rw [List.take_append_drop, Nat.add_sub_cancel' before, marks]

end Ordered

section Preceded

variable (lost : List UInt8) (r : ByteReader)

theorem preceded_nil : r.preceded [] = r := by
  simp [preceded]

theorem preceded_preceded (earlier : List UInt8) :
    (r.preceded lost).preceded earlier = r.preceded (earlier ++ lost) := by
  simp only [preceded, List.append_assoc, List.length_append, Nat.add_assoc, List.map_map]
  rfl

theorem unread_preceded : (r.preceded lost).unread = r.unread :=
  List.drop_length_add_append r.position

theorem peek?_preceded : (r.preceded lost).peek? = r.peek? := by
  rw [peek?, preceded, List.getElem?_append_right (Nat.le_add_right ..), Nat.add_sub_cancel_left]
  rfl

theorem advance_preceded (count : Nat) :
    (r.preceded lost).advance count = (r.advance count).preceded lost := by
  simp only [advance, preceded, Nat.add_assoc]

theorem add_preceded (bytes : List UInt8) :
    (r.preceded lost).add bytes = (r.add bytes).preceded lost := by
  simp only [add, preceded, List.append_assoc]

theorem commit_preceded : (r.preceded lost).commit = r.commit.preceded lost := by
  simp only [commit, preceded, List.map_tail]

theorem rollback_preceded : (r.preceded lost).rollback = r.rollback.preceded lost := by
  obtain ⟨bytes, position, marks⟩ := r
  cases marks <;> rfl

theorem atEnd_preceded : (r.preceded lost).atEnd = r.atEnd := by
  simp only [atEnd, preceded, List.length_append, Nat.add_le_add_iff_left]

theorem remaining_preceded : (r.preceded lost).remaining = r.remaining := by
  simp only [remaining, preceded, List.length_append, Nat.add_sub_add_left]

theorem depth_preceded : (r.preceded lost).depth = r.depth := List.length_map ..

end Preceded

inductive Request where
  | add (bytes : List UInt8)
  | read
  | peek
  | mark
  | commit
  | rollback
  | flush
  | remaining
  | atEnd
  | depth
  deriving DecidableEq

inductive Answer where
  | byte (found : Option UInt8)
  | number (count : Nat)
  | flag (holds : Bool)

def answer? (r : ByteReader) : Request → Option Answer
  | .read | .peek => some (.byte r.peek?)
  | .remaining => some (.number r.remaining)
  | .atEnd => some (.flag r.atEnd)
  | .depth => some (.number r.depth)
  | .add _ | .mark | .commit | .rollback | .flush => none

def effect (r : ByteReader) : Request → ByteReader
  | .add bytes => r.add bytes
  | .read =>
    match r.peek? with
    | none => r
    | some _ => r.advance 1
  | .mark => r.mark
  | .commit => r.commit
  | .rollback => r.rollback
  | .flush => r.flush
  | .peek | .remaining | .atEnd | .depth => r

def answers (r : ByteReader) : List Request → List Answer
  | [] => []
  | request :: rest => (r.answer? request).toList ++ (r.effect request).answers rest

def unflushed (requests : List Request) : List Request := requests.filter (· ≠ .flush)

section Requests

variable {r : ByteReader} {request : Request} {requests rest : List Request}

theorem unflushed_cons (other : request ≠ .flush) :
    unflushed (request :: rest) = request :: unflushed rest :=
  List.filter_cons_of_pos (decide_eq_true other)

theorem Ordered.effect (ordered : Ordered r) (request : Request) : Ordered (r.effect request) := by
  cases request with
  | add bytes => exact ordered.add bytes
  | read =>
    rw [ByteReader.effect]
    cases peeked : r.peek? with
    | none => exact ordered
    | some byte => exact ordered.advance peeked
  | mark => exact ordered.mark
  | commit => exact ordered.commit
  | rollback => exact ordered.rollback
  | flush => exact ordered.flush
  | peek | remaining | atEnd | depth => exact ordered

theorem Ordered.effects (ordered : Ordered r) (requests : List Request) :
    Ordered (requests.foldl ByteReader.effect r) := by
  induction requests generalizing r with
  | nil => exact ordered
  | cons request rest ih => exact ih (ordered.effect request)

theorem answer?_preceded (lost : List UInt8) (r : ByteReader) (request : Request) :
    (r.preceded lost).answer? request = r.answer? request := by
  cases request with
  | read | peek => rw [answer?, answer?, peek?_preceded]
  | remaining => rw [answer?, answer?, remaining_preceded]
  | atEnd => rw [answer?, answer?, atEnd_preceded]
  | depth => rw [answer?, answer?, depth_preceded]
  | add | mark | commit | rollback | flush => rfl

theorem effect_preceded (lost : List UInt8) (r : ByteReader) (other : request ≠ .flush) :
    (r.preceded lost).effect request = (r.effect request).preceded lost := by
  cases request with
  | add bytes => exact add_preceded lost r bytes
  | read =>
    rw [effect, effect, peek?_preceded]
    cases r.peek? with
    | none => rfl
    | some byte => exact advance_preceded lost r 1
  | commit => exact commit_preceded lost r
  | rollback => exact rollback_preceded lost r
  | flush => exact absurd rfl other
  | mark | peek | remaining | atEnd | depth => rfl

theorem Ordered.unflushed_alike (ordered : Ordered r) (lost : List UInt8)
    (requests : List Request) :
    ∃ forgotten,
      (r.preceded lost).answers (unflushed requests) = r.answers requests ∧
      (unflushed requests).foldl ByteReader.effect (r.preceded lost) =
        (requests.foldl ByteReader.effect r).preceded forgotten := by
  induction requests generalizing r lost with
  | nil => exact ⟨lost, rfl, rfl⟩
  | cons request rest ih =>
    by_cases flushes : request = .flush
    · subst flushes
      obtain ⟨forgotten, same, alike⟩ := ih ordered.flush (lost ++ r.bytes.take r.start)
      rw [← preceded_preceded, ordered.preceded_flush] at same alike
      exact ⟨forgotten, same, alike⟩
    · obtain ⟨forgotten, same, alike⟩ := ih (ordered.effect request) lost
      rw [← effect_preceded lost r flushes] at same alike
      refine ⟨forgotten, ?_, ?_⟩
      · rw [unflushed_cons flushes, answers, answers, answer?_preceded, same]
      · rw [unflushed_cons flushes]
        exact alike

def Request.bytes : Request → List UInt8
  | .add bytes => bytes
  | _ => []

def added (requests : List Request) : List UInt8 := requests.flatMap Request.bytes

-- How many transactions are open after a request, if so many were before. None
-- where it closes one and there is none.
def Request.nest (opened : Nat) : Request → Option Nat
  | .mark => some (opened + 1)
  | .commit | .rollback => Strict.sub opened 1
  | _ => some opened

def Balanced (requests : List Request) : Prop := requests.foldlM Request.nest 0 = some 0

instance (requests : List Request) : Decidable (Balanced requests) :=
  inferInstanceAs (Decidable (_ = _))

variable {inner outer : List Nat} {opened : Nat}

theorem effect_nest (other : request ≠ .flush) (marks : r.marks = inner ++ outer)
    (nests : request.nest inner.length = some opened) :
    (r.effect request).bytes = r.bytes ++ request.bytes ∧
      ∃ within : List Nat,
        within.length = opened ∧ (r.effect request).marks = within ++ outer := by
  have closed (closes : Strict.sub inner.length 1 = some opened) :
      ∃ mark within, inner = mark :: within ∧ within.length = opened := by
    cases inner with
    | nil => cases closes
    | cons mark within => exact ⟨mark, within, rfl, Option.some.inj closes⟩
  cases request with
  | add bytes => exact ⟨rfl, inner, Option.some.inj nests, marks⟩
  | read =>
    have kept : (r.effect .read).bytes = r.bytes ∧ (r.effect .read).marks = r.marks := by
      rw [effect]
      cases r.peek? <;> exact ⟨rfl, rfl⟩
    rw [kept.1, kept.2]
    exact ⟨(List.append_nil _).symm, inner, Option.some.inj nests, marks⟩
  | mark =>
    exact ⟨(List.append_nil _).symm, r.position :: inner, Option.some.inj nests,
      congrArg (r.position :: ·) marks⟩
  | commit =>
    obtain ⟨mark, within, rfl, length⟩ := closed nests
    exact ⟨(List.append_nil _).symm, within, length, congrArg List.tail marks⟩
  | rollback =>
    obtain ⟨mark, within, rfl, length⟩ := closed nests
    rw [effect, ByteReader.rollback, marks]
    exact ⟨(List.append_nil _).symm, within, length, rfl⟩
  | flush => exact absurd rfl other
  | peek | remaining | atEnd | depth =>
    exact ⟨(List.append_nil _).symm, inner, Option.some.inj nests, marks⟩

theorem effects_nest (marks : r.marks = inner ++ outer)
    (nests : requests.foldlM Request.nest inner.length = some opened) :
    ((unflushed requests).foldl effect r).bytes = r.bytes ++ added requests ∧
      ∃ within : List Nat,
        within.length = opened ∧
          ((unflushed requests).foldl effect r).marks = within ++ outer := by
  induction requests generalizing r inner with
  | nil => exact ⟨(List.append_nil _).symm, inner, Option.some.inj nests, marks⟩
  | cons request rest ih =>
    rw [List.foldlM_cons] at nests
    by_cases flushes : request = .flush
    · subst flushes
      exact ih marks nests
    · obtain ⟨depth, nest, nests⟩ := Option.bind_eq_some_iff.mp nests
      obtain ⟨bytes, within, rfl, middle⟩ := effect_nest flushes marks nest
      obtain ⟨last, result⟩ := ih middle nests
      rw [unflushed_cons flushes, List.foldl_cons]
      refine ⟨?_, result⟩
      rw [last, bytes, List.append_assoc]
      rfl

theorem effects_rolledBack {between : List Request} (balanced : Balanced between)
    (r : ByteReader) :
    (unflushed (.mark :: between ++ [.rollback])).foldl effect r = r.add (added between) := by
  have parts : unflushed (.mark :: between ++ [.rollback]) =
      .mark :: (unflushed between ++ [.rollback]) := by
    simp [unflushed]
  have behind : r.mark.marks = [] ++ r.mark.marks := rfl
  obtain ⟨bytes, within, none, marks⟩ := effects_nest behind balanced
  rw [List.length_eq_zero_iff.mp none] at marks
  rw [parts, List.foldl_cons, List.foldl_append]
  change ((unflushed between).foldl effect r.mark).rollback = r.add (added between)
  generalize (unflushed between).foldl effect r.mark = middle at bytes marks
  calc middle.rollback
    _ = ByteReader.mk middle.bytes r.position r.marks := by
      rw [ByteReader.rollback, marks]
      rfl
    _ = r.add (added between) := by
      rw [bytes]
      rfl

theorem rollback_add (bytes : List UInt8) (r : ByteReader) :
    (r.add bytes).rollback = r.rollback.add bytes := by
  obtain ⟨_, _, marks⟩ := r
  cases marks <;> rfl

theorem rollbacks_preceded (lost : List UInt8) (r : ByteReader) (count : Nat) :
    rollback^[count] (r.preceded lost) = (rollback^[count] r).preceded lost := by
  have one : Function.Semiconj (preceded lost) rollback rollback :=
    fun r => (rollback_preceded lost r).symm
  exact (one.iterate_right count r).symm

theorem rollbacks_add (bytes : List UInt8) (r : ByteReader) (count : Nat) :
    rollback^[count] (r.add bytes) = (rollback^[count] r).add bytes := by
  have one : Function.Semiconj (add · bytes) rollback rollback :=
    fun r => (rollback_add bytes r).symm
  exact (one.iterate_right count r).symm

theorem Ordered.rollbacks (ordered : Ordered r) (count : Nat) :
    Ordered (ByteReader.rollback^[count] r) := by
  induction count generalizing r with
  | zero => exact ordered
  | succ count ih => exact ih ordered.rollback

end Requests

end ByteReader

namespace Strict
open ByteReader

def ask (r : ByteReader) : Request → Option (Option Answer × ByteReader)
  | .add bytes => some (none, r.add bytes)
  | .read =>
    match r.read? with
    | none => some (some (.byte none), r)
    | some (byte, after) => some (some (.byte (some byte)), after)
  | .peek => some (some (.byte r.peek?), r)
  | .mark => some (none, r.mark)
  | .commit => some (none, r.commit)
  | .rollback => some (none, r.rollback)
  | .flush => do return (none, ← flush r)
  | .remaining => do return (some (.number (← remaining r)), r)
  | .atEnd => some (some (.flag r.atEnd), r)
  | .depth => some (some (.number r.depth), r)

def askAll (r : ByteReader) : List Request → Option (List Answer × ByteReader)
  | [] => some ([], r)
  | request :: rest => do
    let (answer, after) ← ask r request
    let (answers, last) ← askAll after rest
    return (answer.toList ++ answers, last)

variable {r : ByteReader}

theorem Settled.ordered (settled : Settled r) : Ordered r := by
  refine ⟨settled.inside, ?_⟩
  rw [settled.marks]
  exact List.pairwise_singleton ..

theorem mapM_sub {start : Nat} {values : List Nat} (least : ∀ value ∈ values, start ≤ value) :
    values.mapM (sub · start) = some (values.map (· - start)) := by
  induction values with
  | nil => rfl
  | cons value rest ih =>
    rw [List.mapM_cons, sub_eq (least value List.mem_cons_self),
      ih fun later among => least later (List.mem_cons_of_mem _ among)]
    rfl

theorem flush_eq (ordered : Ordered r) : flush r = some r.flush := by
  obtain ⟨before, least⟩ := ordered.start_le
  have cut : dropFront r.start r.bytes = some (r.bytes.drop r.start) :=
    if_pos (Nat.le_trans before ordered.inside)
  unfold flush
  dsimp only
  rw [show r.marks.getLast?.getD r.position = r.start from rfl, cut, sub_eq before, mapM_sub least]
  rfl

theorem ask_eq (ordered : Ordered r) (request : Request) :
    ask r request = some (r.answer? request, r.effect request) := by
  cases request with
  | read =>
    rw [ask, read?, answer?, effect]
    cases r.peek? <;> rfl
  | flush =>
    rw [ask, flush_eq ordered]
    rfl
  | remaining =>
    rw [ask, remaining, sub_eq ordered.inside]
    rfl
  | add | peek | mark | commit | rollback | atEnd | depth => rfl

theorem askAll_eq (ordered : Ordered r) (requests : List Request) :
    askAll r requests = some (r.answers requests, requests.foldl effect r) := by
  induction requests generalizing r with
  | nil => rfl
  | cons request rest ih =>
    rw [askAll, ask_eq ordered, Option.bind_eq_bind, Option.bind_some]
    dsimp only
    rw [ih (ordered.effect request)]
    rfl

-- From a new reader on. Rolling back `outer` transactions more comes to where it
-- would have come to before the one in question was opened.
theorem transactions_nest (requests : List Request) :
    ∃ answers after whole,
      askAll {} requests = some (answers, after) ∧
      askAll {} (unflushed requests) = some (answers, whole) ∧
      ∀ between, Balanced between → ∃ told ended,
        askAll after (.mark :: between ++ [.rollback]) = some (told, ended) ∧
        ended.depth = after.depth ∧
        ∀ outer, (ByteReader.rollback^[outer] ended).unread =
          (ByteReader.rollback^[outer] after).unread ++ added between := by
  have fresh : Ordered {} := ⟨Nat.le_refl _, List.pairwise_singleton ..⟩
  obtain ⟨_, same, -⟩ := fresh.unflushed_alike [] requests
  rw [preceded_nil] at same
  refine ⟨_, _, _, askAll_eq fresh requests, same ▸ askAll_eq fresh (unflushed requests),
    fun between balanced => ?_⟩
  have ordered := fresh.effects requests
  generalize requests.foldl effect {} = after at ordered
  have asked := askAll_eq ordered (.mark :: between ++ [.rollback])
  obtain ⟨lost, -, alike⟩ := ordered.unflushed_alike [] (.mark :: between ++ [.rollback])
  rw [preceded_nil, effects_rolledBack balanced] at alike
  generalize List.foldl effect after _ = ended at asked alike
  refine ⟨_, ended, asked, ?_, fun outer => ?_⟩
  · rw [← depth_preceded lost, ← alike]
    rfl
  · calc (ByteReader.rollback^[outer] ended).unread
      _ = (ByteReader.rollback^[outer] (ended.preceded lost)).unread := by
        rw [rollbacks_preceded, unread_preceded]
      _ = ((ByteReader.rollback^[outer] after).add (added between)).unread := by
        rw [← alike, rollbacks_add]
      _ = (ByteReader.rollback^[outer] after).unread ++ added between :=
        add_unread (ordered.rollbacks outer).inside _

theorem transactions_nest_flushed :
    let requests : List Request := [.add [0x61, 0x62, 0x63, 0x64], .read, .mark, .read, .flush]
    let between : List Request := [.read, .mark, .flush, .add [0x65], .read, .commit, .flush]
    let after : ByteReader := ⟨[0x62, 0x63, 0x64], 1, [0]⟩
    askAll {} requests = some ([.byte (some 0x61), .byte (some 0x62)], after) ∧
      Balanced between ∧ ∃ told ended,
        askAll after (.mark :: between ++ [.rollback]) = some (told, ended) ∧
        ended.unread = [0x63, 0x64, 0x65] ∧
        ended.rollback.unread = [0x62, 0x63, 0x64, 0x65] := by
  intro requests between after
  have run : askAll {} requests = some ([.byte (some 0x61), .byte (some 0x62)], after) := rfl
  have balanced : Balanced between := by decide
  obtain ⟨answers, reached, whole, asked, -, nests⟩ := transactions_nest requests
  cases run.symm.trans asked
  obtain ⟨told, ended, rolled, -, back⟩ := nests between balanced
  exact ⟨run, balanced, told, ended, rolled, back 0, back 1⟩

end Strict

end VideoTerminal

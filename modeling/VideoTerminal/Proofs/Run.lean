import VideoTerminal.Terminal.Feed

-- What a host may do with a terminal, and the terminals that come of it. The
-- operations are open to the host as well, so nothing here takes for granted
-- that their arguments came out of the dispatch table.
namespace VideoTerminal.Terminal
open Sequence

inductive Action where
  | feed (bytes : List UInt8)
  | resize (size : Extent)
  | perform (operation : Operation)
  | dispatch (sequence : Sequence)

def act (t : Terminal) : Action → Terminal
  | .feed bytes => (t.feed bytes).2
  | .resize size => t.resize size
  | .perform operation => t.perform operation
  | .dispatch sequence => t.dispatch sequence

def run (t : Terminal) (actions : List Action) : Terminal := actions.foldl act t

def answer? (t : Terminal) : Action → Option Bool
  | .feed bytes => some (t.feed bytes).1
  | _ => none

def answers (t : Terminal) : List Action → List (Option Bool)
  | [] => []
  | action :: rest => t.answer? action :: (t.act action).answers rest

-- A terminal in use: made for some size, acted on in any order, and looked
-- after by a host that may start to listen, take events and lower the flag.
inductive Reached : Terminal → Prop where
  | new (size : Extent) (identity : Identity) (listening : Bool) :
      Reached (new size identity listening)
  | act {t : Terminal} (action : Action) : Reached t → Reached (t.act action)
  | listen {t : Terminal} : Reached t → Reached { t with listening := true }
  | takeEvents {t : Terminal} : Reached t → Reached t.takeEvents.2
  | clearChanged {t : Terminal} : Reached t → Reached t.clearChanged

-- The operations that input asks for, in the order in which they are performed.
-- Which units the input holds depends on the encoding in force at each of them,
-- hence on the terminal.
def asked (t : Terminal) (bytes : List UInt8) : List Operation :=
  match _scanned : scan t.encoding bytes with
  | .incomplete => []
  | .malformed _ rest => t.asked rest
  | .unit s rest => s.operations ++ (t.dispatch s).asked rest
termination_by bytes.length
decreasing_by
  · exact scan_shorter (by rw [_scanned]; rfl)
  · exact scan_shorter (by rw [_scanned]; rfl)

def askedBy (t : Terminal) : Action → List Operation
  | .feed bytes => { t with unread := [], changed := false }.asked (t.unread ++ bytes)
  | .resize _ => []
  | .perform operation => [operation]
  | .dispatch sequence => sequence.operations

def askedByAll (t : Terminal) : List Action → List Operation
  | [] => []
  | action :: rest => t.askedBy action ++ (t.act action).askedByAll rest

theorem performAll_append (t : Terminal) (first second : List Operation) :
    t.performAll (first ++ second) = (t.performAll first).performAll second :=
  List.foldl_append

theorem apply_incomplete {t : Terminal} {bytes : List UInt8}
    (scanned : scan t.encoding bytes = .incomplete) :
    t.apply bytes = { t with unread := bytes } := by
  rw [apply]; split <;> simp_all

theorem apply_malformed {t : Terminal} {bytes rest : List UInt8} {fault : Fault}
    (scanned : scan t.encoding bytes = .malformed fault rest) : t.apply bytes = t.apply rest := by
  rw [apply]; split <;> simp_all

theorem apply_unit {t : Terminal} {bytes rest : List UInt8} {s : Sequence}
    (scanned : scan t.encoding bytes = .unit s rest) :
    t.apply bytes = (t.dispatch s).apply rest := by
  rw [apply]; split <;> simp_all

theorem asked_incomplete {t : Terminal} {bytes : List UInt8}
    (scanned : scan t.encoding bytes = .incomplete) : t.asked bytes = [] := by
  rw [asked]; split <;> simp_all

theorem asked_malformed {t : Terminal} {bytes rest : List UInt8} {fault : Fault}
    (scanned : scan t.encoding bytes = .malformed fault rest) : t.asked bytes = t.asked rest := by
  rw [asked]; split <;> simp_all

theorem asked_unit {t : Terminal} {bytes rest : List UInt8} {s : Sequence}
    (scanned : scan t.encoding bytes = .unit s rest) :
    t.asked bytes = s.operations ++ (t.dispatch s).asked rest := by
  rw [asked]; split <;> simp_all

theorem apply_asked (t : Terminal) (bytes : List UInt8) :
    t.apply bytes = { t.performAll (t.asked bytes) with unread := (t.apply bytes).unread } := by
  induction t, bytes using apply.induct with
  | case1 t bytes scanned =>
    rw [asked_incomplete scanned, apply_incomplete scanned]; rfl
  | case2 t bytes fault rest scanned ih =>
    rw [asked_malformed scanned, apply_malformed scanned]; exact ih
  | case3 t bytes s rest scanned ih =>
    rw [asked_unit scanned, apply_unit scanned, performAll_append]; exact ih

-- What every operation keeps, and what does not depend on the flag or on unread
-- bytes. Resizes are left out, since some facts hold only for some sizes.
structure Stable (P : Terminal → Prop) : Prop where
  input : ∀ t unread changed, P t → P { t with unread, changed }
  perform : ∀ t operation, P t → P (t.perform operation)

structure StableUnder (allowed : Operation → Prop) (P : Terminal → Prop) : Prop where
  input : ∀ t unread changed, P t → P { t with unread, changed }
  perform : ∀ t operation, allowed operation → P t → P (t.perform operation)

section Stability

variable {allowed : Operation → Prop} {P : Terminal → Prop} {t : Terminal}

theorem StableUnder.performAll (stable : StableUnder allowed P) (holds : P t)
    {operations : List Operation} (kind : ∀ operation ∈ operations, allowed operation) :
    P (t.performAll operations) := by
  induction operations generalizing t with
  | nil => exact holds
  | cons operation rest ih =>
    have first := stable.perform t operation (kind operation List.mem_cons_self) holds
    exact ih first fun later found => kind later (List.mem_cons_of_mem _ found)

theorem StableUnder.apply (stable : StableUnder allowed P) (holds : P t) {bytes : List UInt8}
    (kind : ∀ operation ∈ t.asked bytes, allowed operation) : P (t.apply bytes) := by
  have performed := stable.performAll holds kind
  rw [apply_asked]
  exact stable.input (t.performAll (t.asked bytes)) (t.apply bytes).unread _ performed

theorem StableUnder.feed (stable : StableUnder allowed P) (holds : P t) {bytes : List UInt8}
    (kind : ∀ operation ∈ t.askedBy (.feed bytes), allowed operation) : P (t.feed bytes).2 := by
  have lowered := stable.input t [] false holds
  have applied := stable.apply lowered kind
  exact stable.input ({ t with unread := [], changed := false }.apply (t.unread ++ bytes)) _ _
    applied

theorem StableUnder.act (stable : StableUnder allowed P) (holds : P t) {action : Action}
    (kind : ∀ operation ∈ t.askedBy action, allowed operation)
    (resizes : ∀ size, action = .resize size → P (t.resize size)) : P (t.act action) := by
  cases action with
  | feed bytes => exact stable.feed holds kind
  | resize size => exact resizes size rfl
  | perform operation => exact stable.perform t operation (kind operation (.head _)) holds
  | dispatch sequence => exact stable.performAll holds kind

theorem StableUnder.run (stable : StableUnder allowed P) {actions : List Action}
    (kind : ∀ operation ∈ t.askedByAll actions, allowed operation)
    (resizes : ∀ u size, .resize size ∈ actions → P u → P (u.resize size)) (holds : P t) :
    P (t.run actions) := by
  induction actions generalizing t with
  | nil => exact holds
  | cons action rest ih =>
    have acted : P (t.act action) := by
      apply stable.act holds fun operation found => kind operation (List.mem_append_left _ found)
      rintro size rfl
      exact resizes t size List.mem_cons_self holds
    exact ih (fun operation found => kind operation (List.mem_append_right _ found))
      (fun u size later => resizes u size (List.mem_cons_of_mem _ later)) acted

theorem Stable.under (stable : Stable P) : StableUnder (fun _ => True) P :=
  ⟨stable.input, fun t operation _ => stable.perform t operation⟩

theorem Stable.performAll (stable : Stable P) (holds : P t) (operations : List Operation) :
    P (t.performAll operations) :=
  stable.under.performAll holds fun _ _ => trivial

theorem Stable.feed (stable : Stable P) (holds : P t) (bytes : List UInt8) :
    P (t.feed bytes).2 :=
  stable.under.feed holds fun _ _ => trivial

theorem Stable.act (stable : Stable P) (holds : P t) {action : Action}
    (resizes : ∀ size, action = .resize size → P (t.resize size)) : P (t.act action) :=
  stable.under.act holds (fun _ _ => trivial) resizes

theorem Stable.run (stable : Stable P) {actions : List Action}
    (resizes : ∀ u size, .resize size ∈ actions → P u → P (u.resize size)) (holds : P t) :
    P (t.run actions) :=
  stable.under.run (fun _ _ => trivial) resizes holds

end Stability

theorem apply_nil (t : Terminal) : t.apply [] = { t with unread := [] } :=
  apply_incomplete (by cases t.encoding <;> rfl)

theorem asked_nil (t : Terminal) : t.asked [] = [] :=
  asked_incomplete (by cases t.encoding <;> rfl)

theorem feed_alone {t : Terminal} {bytes : List UInt8} {s : Sequence} (settled : t.unread = [])
    (scanned : scan t.encoding bytes = .unit s []) :
    t.feed bytes =
      let after := { t with unread := [], changed := false }.dispatch s
      (after.changed, { after with unread := [], changed := t.changed || after.changed }) := by
  have applied : { t with unread := [], changed := false }.apply bytes =
      { { t with unread := [], changed := false }.dispatch s with unread := [] } := by
    rw [apply_unit (t := { t with unread := [], changed := false }) scanned, apply_nil]
  simp only [feed, settled, List.nil_append, applied]

theorem feed_unit {t : Terminal} {bytes : List UInt8} {s : Sequence} (settled : t.unread = [])
    (scanned : scan t.encoding bytes = .unit s []) :
    (t.feed bytes).2 =
      let after := { t with unread := [], changed := false }.dispatch s
      { after with unread := [], changed := t.changed || after.changed } := by
  rw [feed_alone settled scanned]

theorem askedBy_unit {t : Terminal} {bytes : List UInt8} {s : Sequence} (settled : t.unread = [])
    (scanned : scan t.encoding bytes = .unit s []) : t.askedBy (.feed bytes) = s.operations := by
  rw [askedBy, settled, List.nil_append,
    asked_unit (t := { t with unread := [], changed := false }) scanned, asked_nil, List.append_nil]

end VideoTerminal.Terminal

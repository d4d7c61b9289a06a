import VideoTerminal.Dispatch
import VideoTerminal.Proofs.Strict.Perform
import VideoTerminal.Proofs.TabStops

-- The dispatch table made of partial steps. Counts are negated as signed words,
-- colours are looked up by number, and the parameters of a rendition are gone
-- through by their positions.
namespace VideoTerminal.Strict
open Terminal Sequence

def channels (red green blue : Bool) : Option Color :=
  index Color.all (red.toNat ||| green.toNat <<< 1 ||| blue.toNat <<< 2)

def xterm256 (entry : Nat) : Option Color :=
  if entry ≤ 7 then index Color.all entry
  else if entry ≤ 15 then do
    let plain ← sub entry 8
    index Color.all plain
  else if entry ≤ 231 then do
    let cube ← sub entry 16
    channels (2 < cube / 36) (2 < cube / 6 % 6) (2 < cube % 6)
  else if entry ≤ 243 then some .black
  else some .white

def extended (params : List Nat) (i base : Nat) : Option (List Nat × Nat) :=
  match params[i + 1]? with
  | some 5 =>
    match params[i + 2]? with
    | some entry => do
      let color ← xterm256 entry
      return ([base + color.index], 2)
    | none => some ([], 2)
  | some 2 =>
    match params[i + 2]?, params[i + 3]?, params[i + 4]? with
    | some red, some green, some blue => do
      let color ← channels (128 ≤ red) (128 ≤ green) (128 ≤ blue)
      return ([base + color.index], 4)
    | _, _, _ => some ([], 4)
  | _ => some ([], 0)

def codesFrom (params : List Nat) (i : Nat) : Option (List Nat) :=
  if i < params.length then do
    let code ← index params i
    if code = 38 ∨ code = 48 then
      let base ← sub code 8
      let (own, taken) ← extended params i base
      let later ← codesFrom params (i + taken + 1)
      return own ++ later
    else if (90 ≤ code ∧ code ≤ 97) ∨ (100 ≤ code ∧ code ≤ 107) then
      let plain ← sub code 60
      let later ← codesFrom params (i + 1)
      return plain :: later
    else
      let later ← codesFrom params (i + 1)
      return code :: later
  else some []
termination_by params.length - i

def selectRenditions (s : Sequence) : Option (List Operation) :=
  if s.params.isEmpty then some [.selectRendition 0]
  else do
    let codes ← codesFrom s.params 0
    return codes.map .selectRendition

def count (s : Sequence) : Int := (word (Dispatch.param s 0 1)).getD 0x7fffffff

def wire (coordinate : Int) : Nat := max 1 ((unsigned coordinate).getD 0)

def handle (r : Rule) (s : Sequence) : Option (List Operation) :=
  match r.kind, r.command with
  | .csi, "A" => do
    let up ← negate (count s)
    return [.moveCursor 0 up]
  | .csi, "B" => some [.moveCursor 0 (count s)]
  | .csi, "C" => some [.moveCursor (count s) 0]
  | .csi, "D" => do
    let left ← negate (count s)
    return [.moveCursor left 0]
  | .csi, "E" => some [.moveCursor 0 (count s), .carriageReturn]
  | .csi, "F" => do
    let up ← negate (count s)
    return [.moveCursor 0 up, .carriageReturn]
  | .csi, "m" => selectRenditions s
  | .vt52Move, _ =>
    match s with
    | .vt52Move row column => some [.setCursorPosition (wire column) (wire row)]
    | _ => some []
  | _, _ => some (r.operations s)

theorem channels_eq (red green blue : Bool) :
    channels red green blue = some (Color.ofChannels red green blue) := by
  cases red <;> cases green <;> cases blue <;> rfl

theorem palette_eq {i : Nat} (inside : i < 8) :
    index Color.all i = some ((Color.ofIndex? i).getD .white) := by
  have stored : i < Color.all.length := inside
  rw [index, Color.ofIndex?, List.getElem?_eq_getElem stored]
  rfl

theorem xterm256_eq (entry : Nat) : xterm256 entry = some (Color.ofXterm256 entry) := by
  unfold xterm256 Color.ofXterm256
  by_cases palette : entry < 16
  · have small : entry % 8 < 8 := Nat.mod_lt _ (by omega)
    rw [if_pos palette, ← palette_eq small]
    by_cases plain : entry ≤ 7
    · rw [if_pos plain, Nat.mod_eq_of_lt (by omega)]
    · rw [if_neg plain, if_pos (by omega), sub_eq (by omega),
        show entry % 8 = entry - 8 by omega]
      rfl
  · rw [if_neg palette, if_neg (by omega), if_neg (by omega)]
    by_cases cube : entry < 232
    · rw [if_pos cube, if_pos (by omega), sub_eq (by omega)]
      exact channels_eq ..
    · rw [if_neg cube, if_neg (by omega)]
      by_cases dark : entry < 244
      · rw [if_pos dark, if_pos (by omega)]
      · rw [if_neg dark, if_neg (by omega)]

theorem codes_opener {opener : Nat} (opens : opener = 38 ∨ opener = 48) (params : List Nat)
    (i : Nat) :
    ∃ own taken, extended params i (opener - 8) = some (own, taken) ∧
      Rendition.codes (opener :: params.drop (i + 1)) =
        own ++ Rendition.codes (params.drop (i + taken + 1)) := by
  have behind (k : Nat) : params[i + 1 + k]? = (params.drop (i + 1))[k]? := by
    rw [List.getElem?_drop]
  have further (k : Nat) : params.drop (i + k + 1) = (params.drop (i + 1)).drop k := by
    rw [List.drop_drop, show i + 1 + k = i + k + 1 by omega]
  unfold extended
  rw [show params[i + 1]? = _ from behind 0, show params[i + 2]? = _ from behind 1,
    show params[i + 3]? = _ from behind 2, show params[i + 4]? = _ from behind 3]
  simp only [further]
  generalize params.drop (i + 1) = rest
  match rest with
  | [] => exact ⟨[], 0, rfl, by simp [Rendition.codes, opens]⟩
  | code :: rest =>
    by_cases five : code = 5
    · subst five
      match rest with
      | [] => exact ⟨[], 2, rfl, by simp [Rendition.codes, opens]⟩
      | entry :: rest =>
        refine ⟨[opener - 8 + (Color.ofXterm256 entry).index], 2, ?_, ?_⟩
        · simp [xterm256_eq]
        · simp [Rendition.codes, opens]
    · by_cases two : code = 2
      · subst two
        match rest with
        | [] | [_] | [_, _] => exact ⟨[], 4, rfl, by simp [Rendition.codes, opens]⟩
        | red :: green :: blue :: rest =>
          refine ⟨[opener - 8 + (Color.ofRgb red green blue).index], 4, ?_, ?_⟩
          · simp [channels_eq, Color.ofRgb]
          · simp [Rendition.codes, opens]
      · exact ⟨[], 0, by simp [five, two], by simp [Rendition.codes, opens, five, two]⟩

theorem codes_plain {code : Nat} (plain : ¬(code = 38 ∨ code = 48)) (rest : List Nat) :
    Rendition.codes (code :: rest) =
      if (90 ≤ code ∧ code ≤ 97) ∨ (100 ≤ code ∧ code ≤ 107)
      then (code - 60) :: Rendition.codes rest else code :: Rendition.codes rest := by
  rw [Rendition.codes.eq_def]
  simp only [if_neg plain]

theorem codesFrom_eq (params : List Nat) (i : Nat) :
    codesFrom params i = some (Rendition.codes (params.drop i)) := by
  rw [codesFrom]
  by_cases more : i < params.length
  · have later (k : Nat) := codesFrom_eq params (i + k + 1)
    rw [if_pos more, index, List.getElem?_eq_getElem more, List.drop_eq_getElem_cons more,
      Option.bind_eq_bind, Option.bind_some]
    generalize params[i] = code
    by_cases opens : code = 38 ∨ code = 48
    · obtain ⟨own, taken, found, read⟩ := codes_opener opens params i
      rw [if_pos opens, sub_eq (by omega), Option.bind_some, found, read]
      show (codesFrom params (i + taken + 1)).bind (fun later => some (own ++ later)) = _
      rw [later]
      rfl
    · have next := later 0
      rw [Nat.add_zero] at next
      rw [if_neg opens, next, codes_plain opens]
      by_cases bright : (90 ≤ code ∧ code ≤ 97) ∨ (100 ≤ code ∧ code ≤ 107)
      · rw [if_pos bright, if_pos bright, sub_eq (by omega)]
        rfl
      · rw [if_neg bright, if_neg bright]
        rfl
  · rw [if_neg more, List.drop_eq_nil_of_le (by omega), Rendition.codes]
termination_by params.length - i

theorem selectRenditions_eq (s : Sequence) :
    selectRenditions s = some (Dispatch.selectRendition s) := by
  unfold selectRenditions Dispatch.selectRendition
  cases params : s.params with
  | nil => rfl
  | cons first rest =>
    rw [codesFrom_eq]
    rfl

theorem count_eq (s : Sequence) : count s = Dispatch.count s := by
  unfold count word Dispatch.count
  split <;> simp only [Option.getD_some, Option.getD_none] <;> omega

theorem negate_count_eq (s : Sequence) : negate (count s) = some (-Dispatch.count s) := by
  rw [count_eq]
  exact word_eq (by unfold Dispatch.count; omega) (by unfold Dispatch.count; omega)

theorem wire_eq (coordinate : Int) : wire coordinate = max 1 coordinate.toNat := by
  unfold wire unsigned
  split
  · rfl
  · rw [Option.getD_none, Int.toNat_of_nonpos (by omega)]

def isStrict (r : Rule) : Bool :=
  (r.kind = .csi && ["A", "B", "C", "D", "E", "F", "m"].contains r.command) || r.kind = .vt52Move

theorem handle_plain {r : Rule} (plain : isStrict r = false) (s : Sequence) :
    handle r s = some (r.operations s) := by
  unfold handle
  split <;> simp_all [isStrict]

theorem handle_cursorMovement {r : Rule} (listed : r ∈ Dispatch.cursorMovement) (s : Sequence) :
    handle r s = some (r.operations s) := by
  revert r
  simp only [Dispatch.cursorMovement, List.forall_mem_cons]
  refine ⟨?up, ?down, ?right, ?left, ?nextLine, ?previousLine, ?others⟩
  case up =>
    show (negate (count s)).bind _ = _
    rw [negate_count_eq]
    rfl
  case down =>
    show some [Operation.moveCursor 0 (count s)] = _
    rw [count_eq]
    rfl
  case right =>
    show some [Operation.moveCursor (count s) 0] = _
    rw [count_eq]
    rfl
  case left =>
    show (negate (count s)).bind _ = _
    rw [negate_count_eq]
    rfl
  case nextLine =>
    show some [Operation.moveCursor 0 (count s), .carriageReturn] = _
    rw [count_eq]
    rfl
  case previousLine =>
    show (negate (count s)).bind _ = _
    rw [negate_count_eq]
    rfl
  case others => exact ⟨rfl, rfl, rfl, rfl, rfl, rfl, rfl, by simp⟩

theorem handle_vt52 {r : Rule} (listed : r ∈ Dispatch.vt52) (s : Sequence) :
    handle r s = some (r.operations s) := by
  revert r
  simp only [Dispatch.vt52, List.forall_mem_cons]
  refine ⟨rfl, rfl, rfl, rfl, rfl, rfl, ?address, by simp⟩
  cases s with
  | vt52Move row column =>
    show some [Operation.setCursorPosition (wire column) (wire row)] = _
    rw [wire_eq, wire_eq]
    rfl
  | _ => rfl

theorem handle_eq {r : Rule} (listed : r ∈ Dispatch.table) (s : Sequence) :
    handle r s = some (r.operations s) := by
  have untouched : ∀ r ∈ Dispatch.controls ++ Dispatch.editing ++ Dispatch.scrollRegion ++
      Dispatch.tabulation ++ Dispatch.reports ++ Dispatch.publicModes ++ Dispatch.privateModes ++
      Dispatch.savedModes ++ Dispatch.escapes ++ Dispatch.texts, isStrict r = false := by
    decide
  by_cases moves : r ∈ Dispatch.cursorMovement
  · exact handle_cursorMovement moves s
  by_cases addresses : r ∈ Dispatch.vt52
  · exact handle_vt52 addresses s
  by_cases rendition : r ∈ [Dispatch.csi "m" "Select graphic rendition" Dispatch.selectRendition]
  · rw [List.mem_singleton.mp rendition]
    exact selectRenditions_eq s
  · refine handle_plain (untouched r ?_) s
    simp only [Dispatch.table, List.mem_append] at listed ⊢
    tauto

def single (t : Terminal) (s : Sequence) : Option Terminal :=
  match s.rule? with
  | none => some t
  | some rule => do
    let operations ← handle rule s
    operations.foldlM perform t

mutual
def dispatch : Sequence → Terminal → Option Terminal
  | .csi body first, t => do
    let after ← dispatchAll first t
    (Sequence.csi body first).singles.foldlM single after
  | s, t => s.singles.foldlM single t
def dispatchAll : List Sequence → Terminal → Option Terminal
  | [], t => some t
  | s :: rest, t => do
    let after ← dispatch s t
    dispatchAll rest after
end

structure Sound (t : Terminal) : Prop extends InGrid t, Cursors Ascending t

theorem sound_stable : Stable Sound where
  input t unread changed sound :=
    ⟨inGrid_stable.input t unread changed sound.toInGrid,
      ascending_stable.input t unread changed sound.toCursors⟩
  perform t operation sound :=
    ⟨inGrid_stable.perform t operation sound.toInGrid,
      ascending_stable.perform t operation sound.toCursors⟩

variable {t : Terminal}

theorem performAll_eq (sound : Sound t) (operations : List Operation) :
    operations.foldlM perform t = some (t.performAll operations) :=
  foldlM_eq (fun _ operation sound => perform_eq sound.toSized sound.live operation)
    sound_stable.perform operations sound

theorem single_eq (sound : Sound t) (s : Sequence) :
    single t s = some (t.performAll ((s.rule?.map (·.operations s)).getD [])) := by
  unfold single
  cases found : s.rule? with
  | none => rfl
  | some rule =>
    dsimp only
    rw [handle_eq (List.mem_of_find?_eq_some found), Option.bind_eq_bind, Option.bind_some]
    exact performAll_eq sound _

theorem singles_eq (sound : Sound t) (s : Sequence) :
    s.singles.foldlM single t = some (t.performAll s.ownOperations) := by
  have steps (t : Terminal) (s : Sequence) (sound : Sound t) := single_eq sound s
  rw [foldlM_eq steps (fun _ _ sound => sound_stable.performAll sound _) s.singles sound]
  exact congrArg some List.foldl_flatMap.symm

mutual
theorem dispatch_eq {t : Terminal} (sound : Sound t) (s : Sequence) :
    dispatch s t = some (t.dispatch s) := by
  cases s with
  | csi body first =>
    have early := sound_stable.performAll sound (operationsOfAll first)
    rw [dispatch, dispatchAll_eq sound first, Option.bind_eq_bind, Option.bind_some,
      singles_eq early, Terminal.dispatch, operations, performAll_append]
  | _ => exact singles_eq sound _
theorem dispatchAll_eq {t : Terminal} (sound : Sound t) (first : List Sequence) :
    dispatchAll first t = some (t.performAll (operationsOfAll first)) := by
  cases first with
  | nil => rfl
  | cons s rest =>
    have early : Sound (t.dispatch s) := sound_stable.performAll sound s.operations
    rw [dispatchAll, dispatch_eq sound s, Option.bind_eq_bind, Option.bind_some,
      dispatchAll_eq early rest, operationsOfAll, performAll_append]
    rfl
end

end VideoTerminal.Strict

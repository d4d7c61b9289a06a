import VideoTerminal.Keyboard.Input
import Mathlib.Algebra.Ring.Parity
import Mathlib.Data.List.DropRight

-- Presses in a row, the first of them in normal mode. A press of Ctrl+b turns the mode
-- over and any other press ends it, so the block of them that came last is all of the
-- past that counts, and of that only whether its length is odd.
namespace VideoTerminal.Keyboard

def modeAfter (past : List Press) : Mode := past.foldl (fun mode p => (press mode p).2) .normal

def answerTo (past : List Press) (p : Press) : Option Action := (press (modeAfter past) p).1

def lastLeaders (past : List Press) : Nat := (past.rtakeWhile Press.isLeader).length

theorem modeAfter_concat (past : List Press) (p : Press) :
    modeAfter (past ++ [p]) = (press (modeAfter past) p).2 := List.foldl_concat ..

theorem lastLeaders_concat (past : List Press) (p : Press) :
    lastLeaders (past ++ [p]) = if p.isLeader then lastLeaders past + 1 else 0 := by
  unfold lastLeaders
  rw [List.rtakeWhile_concat]
  split
  · exact List.length_append
  · rfl

theorem Mode.ne_command_iff {mode : Mode} : mode ≠ .command ↔ mode = .normal := by
  cases mode <;> decide

theorem press_mode (mode : Mode) (p : Press) :
    (press mode p).2 = .command ↔ mode ≠ .command ∧ p.isLeader = true := by
  cases mode with
  | command => simp [press]
  | normal =>
    simp only [press, normalAction]
    cases p.isLeader with
    | true => simp
    | false => cases p.name? <;> simp

theorem modeAfter_command_iff (past : List Press) :
    modeAfter past = .command ↔ Odd (lastLeaders past) := by
  induction past using List.reverseRecOn with
  | nil => simp [modeAfter, lastLeaders]
  | append_singleton past p ih =>
    rw [modeAfter_concat, press_mode, lastLeaders_concat, Ne, ih]
    cases p.isLeader with
    | true => simp [Nat.odd_add_one]
    | false => simp

theorem normalAction_ne_quit (p : Press) : (normalAction p).1 ≠ some .quit := by
  unfold normalAction
  split
  · simp
  · cases p.name? with
    | some name => simp
    | none => cases p.bytes? <;> simp

theorem answerTo_of_command {past : List Press} (waiting : modeAfter past = .command) (p : Press) :
    answerTo past p = commandAction p := by
  rw [answerTo, waiting, press]

theorem answerTo_of_normal {past : List Press} (plain : modeAfter past = .normal) (p : Press) :
    answerTo past p = answerTo [] p := by
  rw [answerTo, plain]
  rfl

theorem answerTo_nil_leader {p : Press} (leader : p.isLeader = true) : answerTo [] p = none := by
  simp [answerTo, modeAfter, press, normalAction, leader]

theorem commandAction_quit_iff (p : Press) :
    commandAction p = some .quit ↔ p = ⟨.char 'q', {}⟩ := by
  unfold commandAction
  split
  · simp [*]
  · split <;> simp [*]

theorem commandAction_leader_iff (p : Press) :
    commandAction p = some (.writeRaw leaderBytes) ↔ p = ⟨.char 'b', {}⟩ ∨ p.isLeader = true := by
  unfold commandAction
  split
  · rename_i quits
    subst quits
    decide
  · split <;> simp [*]

theorem commandAction_none_iff (p : Press) :
    commandAction p = none ↔
      ¬(p = ⟨.char 'q', {}⟩ ∨ p = ⟨.char 'b', {}⟩ ∨ p.isLeader = true) := by
  unfold commandAction
  split
  · simp [*]
  · split <;> simp [*]

-- For any presses and any press after them. Which of them came before the last block
-- of Ctrl+b makes no difference to the mode, nor does any of them to what a press in
-- normal mode is answered by.
theorem command_mode_by_parity (past : List Press) (p : Press) :
    (modeAfter past = .command ↔ Odd (lastLeaders past)) ∧
      (answerTo past p = some .quit ↔ Odd (lastLeaders past) ∧ p = ⟨.char 'q', {}⟩) ∧
      (Odd (lastLeaders past) →
        (answerTo past p = some (.writeRaw [0x02]) ↔
          p = ⟨.char 'b', {}⟩ ∨ p.isLeader = true) ∧
        (answerTo past p = none ↔
          ¬(p = ⟨.char 'q', {}⟩ ∨ p = ⟨.char 'b', {}⟩ ∨ p.isLeader = true))) ∧
      (¬Odd (lastLeaders past) → answerTo past p = answerTo [] p) ∧
      (p.isLeader = true → answerTo [] p = none) := by
  have mode := modeAfter_command_iff past
  refine ⟨mode, ?_, fun odd => ?_, fun even => ?_, answerTo_nil_leader⟩
  · rw [← mode]
    cases now : modeAfter past with
    | command => simpa [answerTo_of_command now] using commandAction_quit_iff p
    | normal => simpa [answerTo, now, press] using normalAction_ne_quit p
  · rw [answerTo_of_command (mode.mpr odd)]
    exact ⟨commandAction_leader_iff p, commandAction_none_iff p⟩
  · exact answerTo_of_normal (Mode.ne_command_iff.mp (mt mode.mp even)) p

example :
    let leader : Press := ⟨.char 'b', { control := true }⟩
    modeAfter [leader, leader, leader] = .command ∧
      answerTo [leader, leader] leader = none ∧
      answerTo [leader, leader, leader] ⟨.char 'q', { control := true }⟩ = none ∧
      answerTo [leader, leader, leader] ⟨.char 'q', {}⟩ = some .quit := by
  decide

end VideoTerminal.Keyboard

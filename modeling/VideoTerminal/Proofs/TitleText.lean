import VideoTerminal.Proofs.Decoding
import VideoTerminal.Proofs.Run

-- A window title arrives as it was sent. The byte that ends a string is also a
-- continuation byte of many characters; only between two characters it ends one.
namespace VideoTerminal

inductive Terminator where
  | bell
  | single
  | escape
  deriving DecidableEq, Repr

def Terminator.bytes : Terminator → List UInt8
  | bell => [0x07]
  | single => [0x9c]
  | escape => [0x1b, 0x5c]

namespace Sequence

variable (body : Osc) (collected rest : List UInt8)

theorem scanOscText_step (pending : Nat) {byte : UInt8} (plain : byte ≠ Byte.escape)
    (goesOn : byte ≠ Byte.bel ∧ (byte = Byte.stringTerminator → pending ≠ 0))
    (keeps : Byte.aborts byte = false) :
    scanOscText body pending collected (byte :: rest) =
      scanOscText body
        (if 0 < pending ∧ Utf8.isContinuation byte then pending - 1 else Utf8.announced byte - 1)
        (byte :: collected) rest := by
  have going : ¬(byte = Byte.bel ∨ (byte = Byte.stringTerminator ∧ pending = 0)) := by
    rintro (bell | ⟨terminator, settled⟩)
    · exact goesOn.1 bell
    · exact goesOn.2 terminator settled
  rw [scanOscText]
  simp only [if_neg plain, if_neg going, keeps, Bool.false_eq_true, if_false]

theorem scanOscText_follow {follow : List UInt8}
    (continuations : ∀ byte ∈ follow, Utf8.isContinuation byte = true) :
    scanOscText body follow.length collected (follow ++ rest) =
      scanOscText body 0 (follow.reverse ++ collected) rest := by
  induction follow generalizing collected with
  | nil => rfl
  | cons byte others ih =>
    have continues := continuations byte List.mem_cons_self
    have other : ∀ code : UInt8, Utf8.isContinuation code = false → byte ≠ code := by
      rintro code none rfl
      rw [continues] at none
      cases none
    have keeps : Byte.aborts byte = false := by
      simp [Byte.aborts, other Byte.cancel (by decide), other Byte.substitute (by decide)]
    have step := scanOscText_step body collected (others ++ rest) (others.length + 1)
      (other _ (by decide)) ⟨other _ (by decide), fun _ => Nat.succ_ne_zero _⟩ keeps
    rw [List.cons_append, List.length_cons, step, if_pos ⟨Nat.succ_pos _, continues⟩,
      Nat.add_sub_cancel, ih _ (fun byte member => continuations byte (List.mem_cons_of_mem _ member))]
    simp

def breaking : List Char := ['\x07', '\x18', '\x1a', '\x1b']

theorem scanOscText_character {c : Char} (plain : c ∉ breaking) :
    scanOscText body 0 collected (String.utf8EncodeChar c ++ rest) =
      scanOscText body 0 ((String.utf8EncodeChar c).reverse ++ collected) rest := by
  obtain ⟨lead, follow, bytes, wanted, continuations, range⟩ := (Utf8.written c).shape
  have other : ∀ code : UInt8, code.toNat < 0x80 → Char.ofUInt8 code ∈ breaking → lead ≠ code := by
    rintro code low breaks rfl
    have same : Char.ofUInt8 lead = c := by
      rcases range with ⟨same, -⟩ | high
      · exact Utf8.ofUInt8_eq same
      · omega
    exact plain (same ▸ breaks)
  have terminator : lead ≠ Byte.stringTerminator := by
    rintro rfl
    have code : Byte.stringTerminator.toNat = 0x9c := rfl
    omega
  have keeps : Byte.aborts lead = false := by
    simp [Byte.aborts, other Byte.cancel (by decide) (by decide),
      other Byte.substitute (by decide) (by decide)]
  have step := scanOscText_step body collected (follow ++ rest) 0
    (other _ (by decide) (by decide))
    ⟨other _ (by decide) (by decide), fun same => absurd same terminator⟩ keeps
  rw [bytes, List.cons_append, step, if_neg (fun both => Nat.lt_irrefl 0 both.1), wanted,
    scanOscText_follow _ _ _ continuations]
  simp

theorem scanOscText_text {text : List Char} (plain : ∀ c ∈ text, c ∉ breaking) :
    scanOscText body 0 collected (Utf8.encode text ++ rest) =
      scanOscText body 0 ((Utf8.encode text).reverse ++ collected) rest := by
  induction text generalizing collected with
  | nil => rfl
  | cons c others ih =>
    have later := ih ((String.utf8EncodeChar c).reverse ++ collected)
      (fun c member => plain c (List.mem_cons_of_mem _ member))
    have parts : Utf8.encode (c :: others) = String.utf8EncodeChar c ++ Utf8.encode others := rfl
    rw [parts, List.append_assoc, scanOscText_character _ _ _ (plain c List.mem_cons_self), later]
    simp

theorem scanOscText_end (terminator : Terminator) :
    scanOscText body 0 collected (terminator.bytes ++ rest) =
      .unit (.osc (body.withText collected)) rest := by
  cases terminator <;> rfl

end Sequence

namespace Terminal
open Sequence

def titleCommand (number : UInt8) (title : String) (terminator : Terminator) : List UInt8 :=
  [0x1b, 0x5d, number, 0x3b] ++ Utf8.encodeString title ++ terminator.bytes

theorem scan_titleCommand (encoding : Encoding) {number : UInt8} (named : number ∈ [0x30, 0x32])
    {title : String} (plain : ∀ c ∈ title.toList, c ∉ breaking) (terminator : Terminator) :
    scan encoding (titleCommand number title terminator) =
      .unit (.osc { params := [number.toNat - 0x30], text := title }) [] := by
  have opened : ∀ tail, scan encoding (0x1b :: 0x5d :: number :: 0x3b :: tail) =
      scanOscText { params := [number.toNat - 0x30] } 0 [] tail := by
    intro tail
    simp only [List.mem_cons, List.not_mem_nil, or_false] at named
    rcases named with rfl | rfl <;> cases encoding <;> rfl
  have whole : titleCommand number title terminator =
      0x1b :: 0x5d :: number :: 0x3b :: (Utf8.encode title.toList ++ (terminator.bytes ++ [])) := by
    simp [titleCommand, Utf8.encodeString]
  rw [whole, opened, scanOscText_text _ _ _ plain, scanOscText_end, Osc.withText]
  simp [Utf8.decodeLossy_encode]

theorem operations_title {number : UInt8} (named : number ∈ [0x30, 0x32]) (title : String) :
    (Sequence.osc { params := [number.toNat - 0x30], text := title }).operations =
      [.setTitle title] := by
  simp only [List.mem_cons, List.not_mem_nil, or_false] at named
  rcases named with rfl | rfl <;> rfl

theorem title_survives {t : Terminal} (settled : t.unread = []) {number : UInt8}
    (named : number ∈ [0x30, 0x32]) {title : String} (plain : ∀ c ∈ title.toList, c ∉ breaking)
    (terminator : Terminator) :
    t.feed (titleCommand number title terminator) =
      (false, { t with
        title
        outbox := if t.listening then t.outbox.push (.titleChanged title) else t.outbox }) := by
  have scanned := scan_titleCommand t.encoding named plain terminator
  have lowered : { t with unread := [], changed := false }.apply
      (titleCommand number title terminator) =
      { t with unread := [], changed := false }.setTitle title := by
    rw [apply_unit (t := { t with unread := [], changed := false }) scanned, apply_nil, dispatch,
      operations_title named]
    simp only [performAll, List.foldl_cons, List.foldl_nil, perform, setTitle, raise, raiseAll]
    split <;> rfl
  rw [feed, settled, List.nil_append, lowered]
  simp only [setTitle, raise, raiseAll]
  split <;> simp

theorem title_survives_control :
    let t := new ⟨2, 1⟩ {} true
    let named := { t with title := "\u009c;1", outbox := #[.titleChanged "\u009c;1"] }
    t.feed (titleCommand 0x30 "\u009c;1" .single) = (false, named) ∧
      named.feed (titleCommand 0x32 "" .escape) =
        (false, { named with title := "", outbox := named.outbox.push (.titleChanged "") }) := by
  intro t named
  have first : t.feed (titleCommand 0x30 "\u009c;1" .single) = (false, named) :=
    title_survives rfl (by decide) (by simp [breaking]) .single
  have second := title_survives (t := named) rfl (show 0x32 ∈ [0x30, 0x32] by decide)
    (show ∀ c ∈ "".toList, c ∉ breaking by simp) .escape
  exact ⟨first, second⟩

end Terminal

end VideoTerminal

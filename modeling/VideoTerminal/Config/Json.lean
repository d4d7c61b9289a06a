import VideoTerminal.Text.Utf8

-- A strict reader of JSON text. Values are read for what is wanted of them and
-- skipped otherwise, and each failure says what kind it is: the text ended too
-- early, it is no JSON, or it is JSON of the wrong shape.
namespace VideoTerminal.Json

inductive Fault where
  | endOfText
  | badSyntax
  | badData
  deriving DecidableEq, Repr, Inhabited

abbrev Read (α : Type) : Type := Except Fault (α × List UInt8)

def isBlank (byte : UInt8) : Bool :=
  decide (byte = 0x20 ∨ byte = 0x09 ∨ byte = 0x0a ∨ byte = 0x0d)

def skipBlank (s : List UInt8) : List UInt8 := s.dropWhile isBlank

def isDigit (byte : UInt8) : Bool := decide (0x30 ≤ byte ∧ byte ≤ 0x39)

def expectWord : List UInt8 → List UInt8 → Except Fault (List UInt8)
  | [], s => .ok s
  | _ :: _, [] => .error .endOfText
  | expected :: word, byte :: s => if byte = expected then expectWord word s else .error .badSyntax

def afterN : List UInt8 := Utf8.encodeString "ull"

def afterT : List UInt8 := Utf8.encodeString "rue"

def afterF : List UInt8 := Utf8.encodeString "alse"

def hexDigit? (byte : UInt8) : Option Nat :=
  if 0x30 ≤ byte ∧ byte ≤ 0x39 then some (byte.toNat - 0x30)
  else if 0x41 ≤ byte ∧ byte ≤ 0x46 then some (byte.toNat - 0x37)
  else if 0x61 ≤ byte ∧ byte ≤ 0x66 then some (byte.toNat - 0x57)
  else none

def hexUnit? (a b c d : UInt8) : Option Nat := do
  let a ← hexDigit? a
  let b ← hexDigit? b
  let c ← hexDigit? c
  let d ← hexDigit? d
  return a * 4096 + b * 256 + c * 16 + d

def isLeading (unit : Nat) : Bool := decide (0xd800 ≤ unit ∧ unit ≤ 0xdbff)

def isTrailing (unit : Nat) : Bool := decide (0xdc00 ≤ unit ∧ unit ≤ 0xdfff)

def simpleEscape? (byte : UInt8) : Option UInt8 :=
  match byte with
  | 0x22 => some 0x22
  | 0x5c => some 0x5c
  | 0x2f => some 0x2f
  | 0x62 => some 0x08
  | 0x66 => some 0x0c
  | 0x6e => some 0x0a
  | 0x72 => some 0x0d
  | 0x74 => some 0x09
  | _ => none

inductive Place where
  | plain
  | escape
  | codeUnit
  | pairBackslash (leading : Nat)
  | pairLetter (leading : Nat)
  | pairUnit (leading : Nat)
  deriving DecidableEq, Repr, Inhabited

-- The string behind an opening quote, as the bytes of its text in reverse.
-- Code units must form characters when the text is wanted. Four digits need
-- four bytes to be there before the first of them is looked at.
def readText (wanted : Bool) (text : List UInt8) : Place → List UInt8 → Read (List UInt8)
  | .plain, byte :: s =>
    if byte = 0x22 then .ok (text, s)
    else if byte = 0x5c then readText wanted text .escape s
    else if byte < 0x20 then .error .badSyntax
    else readText wanted (byte :: text) .plain s
  | .escape, byte :: s =>
    if byte = 0x75 then readText wanted text .codeUnit s
    else
      match simpleEscape? byte with
      | some meant => readText wanted (meant :: text) .plain s
      | none => .error .badSyntax
  | .codeUnit, a :: b :: c :: d :: s =>
    match hexUnit? a b c d with
    | none => .error .badSyntax
    | some unit =>
      if !wanted then readText wanted text .plain s
      else if isTrailing unit then .error .badSyntax
      else if isLeading unit then readText wanted text (.pairBackslash unit) s
      else readText wanted ((Utf8.encode [Char.ofNat unit]).reverse ++ text) .plain s
  | .pairBackslash leading, byte :: s =>
    if byte = 0x5c then readText wanted text (.pairLetter leading) s else .error .badSyntax
  | .pairLetter leading, byte :: s =>
    if byte = 0x75 then readText wanted text (.pairUnit leading) s else .error .badSyntax
  | .pairUnit leading, a :: b :: c :: d :: s =>
    match hexUnit? a b c d with
    | none => .error .badSyntax
    | some unit =>
      if isTrailing unit then
        let c := Char.ofNat ((leading - 0xd800) * 1024 + (unit - 0xdc00) + 0x10000)
        readText wanted ((Utf8.encode [c]).reverse ++ text) .plain s
      else .error .badSyntax
  | _, _ => .error .endOfText

def readString (s : List UInt8) : Read String :=
  (readText true [] .plain s).map fun (text, rest) =>
    (String.ofList (Utf8.decodeLossy text.reverse), rest)

def skipString (s : List UInt8) : Except Fault (List UInt8) :=
  (readText false [] .plain s).map (·.2)

def takeDigits (s : List UInt8) : List UInt8 × List UInt8 :=
  (s.takeWhile isDigit, s.dropWhile isDigit)

def readExponent (missing : Fault) (s : List UInt8) : Read (Bool × List UInt8) :=
  let (negative, s) : Bool × List UInt8 :=
    match s with
    | 0x2b :: s => (false, s)
    | 0x2d :: s => (true, s)
    | s => (false, s)
  match takeDigits s with
  | ([], []) => .error missing
  | ([], _) => .error .badSyntax
  | (digits, s) => .ok ((negative, digits), s)

def readFraction (missing : Fault) (s : List UInt8) : Read (List UInt8) :=
  match takeDigits s with
  | ([], []) => .error missing
  | ([], _) => .error .badSyntax
  | (digits, s) => .ok (digits, s)

structure Numeral where
  whole : List UInt8
  fraction : List UInt8 := []
  negativeExponent : Bool := false
  exponent : List UInt8 := []
  deriving DecidableEq, Repr, Inhabited

def readWhole (missing : Fault) (s : List UInt8) : Read (List UInt8) :=
  match takeDigits s with
  | ([], []) => .error missing
  | ([], _) | (0x30 :: _ :: _, _) => .error .badSyntax
  | (digits, s) => .ok (digits, s)

def readNumeral (missing : Fault) (s : List UInt8) : Except Fault (Numeral × List UInt8) := do
  let (whole, s) ← readWhole missing s
  let (fraction, s) ←
    match s with
    | 0x2e :: s => readFraction missing s
    | s => .ok ([], s)
  let ((negativeExponent, exponent), s) ←
    match s with
    | 0x65 :: s | 0x45 :: s => readExponent missing s
    | s => .ok ((false, []), s)
  return (⟨whole, fraction, negativeExponent, exponent⟩, s)

def digitValue (byte : UInt8) : Nat := byte.toNat - 0x30

def decimalValue (digits : List UInt8) : Nat :=
  digits.foldl (fun value digit => value * 10 + digitValue digit) 0

def maxSignificand : Nat := 0xffffffffffffffff

def addDigits (significand : Nat) : List UInt8 → Nat × List UInt8
  | [] => (significand, [])
  | digit :: rest =>
    let grown := significand * 10 + digitValue digit
    if grown ≤ maxSignificand then addDigits grown rest else (significand, digit :: rest)

def toDouble (n : Nat) : Nat :=
  let shift := Nat.log2 n - 52
  let kept := n >>> shift
  let lost := n - (kept <<< shift)
  let half := 1 <<< (shift - 1)
  if shift = 0 then n
  else if half < lost ∨ (lost = half ∧ kept % 2 = 1) then (kept + 1) <<< shift
  else kept <<< shift

def Numeral.overflows (n : Numeral) : Bool :=
  let (whole, left) := addDigits 0 n.whole
  let (significand, unusedFraction) := addDigits whole n.fraction
  let places : Int := (n.fraction.length - unusedFraction.length : Nat)
  let written : Int := decimalValue n.exponent
  let power : Int := if n.negativeExponent then -written else written
  let exponent : Int := (left.length : Int) - places + power
  if significand = 0 ∨ exponent < 0 then false
  else if 308 < exponent then true
  else decide (Nat.pow 2 1024 - Nat.pow 2 970 ≤
    toDouble significand * toDouble (Nat.pow 10 exponent.toNat))

-- A number where something else was wanted: it is read first, so that what is
-- no number, or too large a one, counts as bad syntax.
def readMisplacedNumber (s : List UInt8) : Fault :=
  match readNumeral .endOfText s with
  | .error fault => fault
  | .ok (numeral, _) => if numeral.overflows then .badSyntax else .badData

def faultOf {α : Type} (read : Except Fault α) : Fault :=
  match read with
  | .error fault => fault
  | .ok _ => .badData

def misplaced (s : List UInt8) : Fault :=
  match s with
  | [] => .badSyntax
  | byte :: rest =>
    if byte = 0x6e then faultOf (expectWord afterN rest)
    else if byte = 0x74 then faultOf (expectWord afterT rest)
    else if byte = 0x66 then faultOf (expectWord afterF rest)
    else if byte = 0x2d then readMisplacedNumber rest
    else if isDigit byte then readMisplacedNumber s
    else if byte = 0x22 then faultOf (readString rest)
    else if byte = 0x5b ∨ byte = 0x7b then .badData
    else .badSyntax

def readStringValue (s : List UInt8) : Read String :=
  match skipBlank s with
  | [] => .error .endOfText
  | 0x22 :: rest => readString rest
  | s => .error (misplaced s)

def readBoolValue (s : List UInt8) : Read Bool :=
  match skipBlank s with
  | [] => .error .endOfText
  | 0x74 :: rest => (expectWord afterT rest).map (true, ·)
  | 0x66 :: rest => (expectWord afterF rest).map (false, ·)
  | s => .error (misplaced s)

def readNullable {α : Type} (value : List UInt8 → Read α) (s : List UInt8) : Read (Option α) :=
  match skipBlank s with
  | 0x6e :: rest => (expectWord afterN rest).map (none, ·)
  | s => (value s).map fun (found, rest) => (some found, rest)

inductive Bracket where
  | list
  | object
  deriving DecidableEq, Repr, Inhabited

def skipScalar (s : List UInt8) : Except Fault (List UInt8) :=
  match s with
  | [] => .error .endOfText
  | byte :: rest =>
    if byte = 0x6e then expectWord afterN rest
    else if byte = 0x74 then expectWord afterT rest
    else if byte = 0x66 then expectWord afterF rest
    else if byte = 0x2d then (readNumeral .badSyntax rest).map (·.2)
    else if isDigit byte then (readNumeral .badSyntax s).map (·.2)
    else if byte = 0x22 then skipString rest
    else .error .badSyntax

def skipKey (s : List UInt8) : Except Fault (List UInt8) :=
  match skipBlank s with
  | [] => .error .endOfText
  | 0x22 :: rest => do
    match skipBlank (← skipString rest) with
    | [] => .error .endOfText
    | 0x3a :: rest => .ok rest
    | _ => .error .badSyntax
  | _ => .error .badSyntax

-- Skipping needs no nesting: the brackets still open are kept in a list,
-- innermost first. Every round takes a byte, so the length of the text bounds
-- the rounds.
mutual
def skipFrom : Nat → List Bracket → List UInt8 → Except Fault (List UInt8)
  | 0, _, _ => .error .endOfText
  | fuel + 1, opened, s =>
    match skipBlank s with
    | 0x5b :: rest =>
      match skipBlank rest with
      | [] => .error .endOfText
      | 0x5d :: rest => skipAfter fuel opened rest
      | rest => skipFrom fuel (.list :: opened) rest
    | 0x7b :: rest =>
      match skipBlank rest with
      | [] => .error .endOfText
      | 0x7d :: rest => skipAfter fuel opened rest
      | rest => do skipFrom fuel (.object :: opened) (← skipKey rest)
    | s => do skipAfter fuel opened (← skipScalar s)
def skipAfter : Nat → List Bracket → List UInt8 → Except Fault (List UInt8)
  | _, [], s => .ok s
  | 0, _, _ => .error .endOfText
  | fuel + 1, bracket :: opened, s =>
    match skipBlank s, bracket with
    | [], _ => .error .endOfText
    | 0x2c :: rest, .list => skipFrom fuel (.list :: opened) rest
    | 0x2c :: rest, .object => do skipFrom fuel (.object :: opened) (← skipKey rest)
    | 0x5d :: rest, .list => skipAfter fuel opened rest
    | 0x7d :: rest, .object => skipAfter fuel opened rest
    | _, _ => .error .badSyntax
end

def skipValue (s : List UInt8) : Except Fault (List UInt8) := skipFrom (2 * s.length + 2) [] s

end VideoTerminal.Json

namespace VideoTerminal.Utf8

def encode (text : List Char) : List UInt8 := text.flatMap String.utf8EncodeChar

def encodeString (text : String) : List UInt8 := encode text.toList

def isContinuation (byte : UInt8) : Bool := decide (0x80 ≤ byte ∧ byte ≤ 0xbf)

-- How many bytes a lead byte announces, itself included. This looks at the
-- lead's high bits alone: C0, C1 and F5 to F7 announce a length although no
-- well-formed character starts with them.
def announced (lead : UInt8) : Nat :=
  if 0xc0 ≤ lead ∧ lead ≤ 0xdf then 2
  else if 0xe0 ≤ lead ∧ lead ≤ 0xef then 3
  else if 0xf0 ≤ lead ∧ lead ≤ 0xf7 then 4
  else 1

def replacement : Char := '\ufffd'

def mayFollow (lead next : UInt8) : Bool :=
  if lead = 0xe0 then decide (0xa0 ≤ next ∧ next ≤ 0xbf)
  else if lead = 0xed then decide (0x80 ≤ next ∧ next ≤ 0x9f)
  else if lead = 0xf0 then decide (0x90 ≤ next ∧ next ≤ 0xbf)
  else if lead = 0xf4 then decide (0x80 ≤ next ∧ next ≤ 0x8f)
  else isContinuation next

def payload (byte : UInt8) : Nat := byte.toNat % 64

-- Reads text and puts one replacement character for each longest piece that
-- starts like a character and does not go on like one.
def decodeLossy : List UInt8 → List Char
  | [] => []
  | a :: afterA =>
    if a < 0x80 then Char.ofUInt8 a :: decodeLossy afterA
    else if 0xc2 ≤ a ∧ a ≤ 0xf4 then
      match afterA with
      | [] => [replacement]
      | b :: afterB =>
        if mayFollow a b then
          if a < 0xe0 then
            Char.ofNat (a.toNat % 32 * 64 + payload b) :: decodeLossy afterB
          else
            match afterB with
            | [] => [replacement]
            | c :: afterC =>
              if isContinuation c then
                if a < 0xf0 then
                  Char.ofNat (a.toNat % 16 * 4096 + payload b * 64 + payload c) ::
                    decodeLossy afterC
                else
                  match afterC with
                  | [] => [replacement]
                  | d :: afterD =>
                    if isContinuation d then
                      Char.ofNat (a.toNat % 8 * 262144 + payload b * 4096 + payload c * 64 +
                        payload d) :: decodeLossy afterD
                    else replacement :: decodeLossy (d :: afterD)
              else replacement :: decodeLossy (c :: afterC)
        else replacement :: decodeLossy (b :: afterB)
    else replacement :: decodeLossy afterA

def decode? (bytes : List UInt8) : Option (List Char) :=
  if encode (decodeLossy bytes) = bytes then some (decodeLossy bytes) else none

theorem encode_of_decode? {bytes : List UInt8} {text : List Char}
    (decoded : decode? bytes = some text) : encode text = bytes := by
  unfold decode? at decoded
  split at decoded
  · rename_i same
    cases Option.some.inj decoded
    exact same
  · cases decoded

end VideoTerminal.Utf8

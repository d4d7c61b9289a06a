import VideoTerminal.Text.Cluster

namespace VideoTerminal.Text

def wide : Ranges :=
  [(0x1100, 0x115f), (0x231a, 0x231b), (0x2329, 0x232a), (0x23e9, 0x23ec), (0x23f0, 0x23f0),
   (0x23f3, 0x23f3), (0x25fd, 0x25fe), (0x2614, 0x2615), (0x2630, 0x2637), (0x2648, 0x2653),
   (0x267f, 0x267f), (0x268a, 0x268f), (0x2693, 0x2693), (0x26a1, 0x26a1), (0x26aa, 0x26ab),
   (0x26bd, 0x26be), (0x26c4, 0x26c5), (0x26ce, 0x26ce), (0x26d4, 0x26d4), (0x26ea, 0x26ea),
   (0x26f2, 0x26f3), (0x26f5, 0x26f5), (0x26fa, 0x26fa), (0x26fd, 0x26fd), (0x2705, 0x2705),
   (0x270a, 0x270b), (0x2728, 0x2728), (0x274c, 0x274c), (0x274e, 0x274e), (0x2753, 0x2755),
   (0x2757, 0x2757), (0x2795, 0x2797), (0x27b0, 0x27b0), (0x27bf, 0x27bf), (0x2b1b, 0x2b1c),
   (0x2b50, 0x2b50), (0x2b55, 0x2b55), (0x2e80, 0x2e99), (0x2e9b, 0x2ef3), (0x2f00, 0x2fd5),
   (0x2ff0, 0x303e), (0x3041, 0x3096), (0x3099, 0x30ff), (0x3105, 0x312f), (0x3131, 0x318e),
   (0x3190, 0x31e5), (0x31ef, 0x321e), (0x3220, 0x3247), (0x3250, 0xa48c), (0xa490, 0xa4c6),
   (0xa960, 0xa97c), (0xac00, 0xd7a3), (0xf900, 0xfaff), (0xfe10, 0xfe19), (0xfe30, 0xfe52),
   (0xfe54, 0xfe66), (0xfe68, 0xfe6b), (0xff01, 0xff60), (0xffe0, 0xffe6), (0x16fe0, 0x16fe4),
   (0x16ff0, 0x16ff6), (0x17000, 0x18cda), (0x18cff, 0x18d20), (0x18d80, 0x18df2),
   (0x18e00, 0x19191), (0x191a0, 0x191d2), (0x1aff0, 0x1aff3), (0x1aff5, 0x1affb),
   (0x1affd, 0x1affe), (0x1b000, 0x1b128), (0x1b132, 0x1b132), (0x1b150, 0x1b152),
   (0x1b155, 0x1b155), (0x1b164, 0x1b168), (0x1b170, 0x1b2fb), (0x1d300, 0x1d356),
   (0x1d360, 0x1d376), (0x1f004, 0x1f004), (0x1f0cf, 0x1f0cf), (0x1f18e, 0x1f18e),
   (0x1f191, 0x1f19a), (0x1f1ae, 0x1f1ae), (0x1f200, 0x1f202), (0x1f210, 0x1f23b),
   (0x1f240, 0x1f248), (0x1f250, 0x1f251), (0x1f260, 0x1f265), (0x1f300, 0x1f320),
   (0x1f32d, 0x1f335), (0x1f337, 0x1f37c), (0x1f37e, 0x1f393), (0x1f3a0, 0x1f3ca),
   (0x1f3cf, 0x1f3d3), (0x1f3e0, 0x1f3f0), (0x1f3f4, 0x1f3f4), (0x1f3f8, 0x1f43e),
   (0x1f440, 0x1f440), (0x1f442, 0x1f4fc), (0x1f4ff, 0x1f53d), (0x1f54b, 0x1f54e),
   (0x1f550, 0x1f567), (0x1f57a, 0x1f57a), (0x1f595, 0x1f596), (0x1f5a4, 0x1f5a4),
   (0x1f5fb, 0x1f64f), (0x1f680, 0x1f6c5), (0x1f6cc, 0x1f6cc), (0x1f6d0, 0x1f6d2),
   (0x1f6d5, 0x1f6d9), (0x1f6dc, 0x1f6df), (0x1f6eb, 0x1f6ec), (0x1f6f4, 0x1f6fc),
   (0x1f7da, 0x1f7da), (0x1f7e0, 0x1f7eb), (0x1f7f0, 0x1f7f0), (0x1f90c, 0x1f93a),
   (0x1f93c, 0x1f945), (0x1f947, 0x1f9ff), (0x1fa70, 0x1fa7c), (0x1fa80, 0x1fac6),
   (0x1fac8, 0x1fac8), (0x1facc, 0x1fadd), (0x1fadf, 0x1faeb), (0x1faef, 0x1fafa),
   (0x20000, 0x2fffd), (0x30000, 0x3fffd)]

def columnlessSigns : Ranges :=
  [(0x605, 0x605), (0x70f, 0x70f), (0x890, 0x891), (0x8e2, 0x8e2), (0xd4e, 0xd4e),
   (0xa8fa, 0xa8fa), (0x111c2, 0x111c3), (0x113d1, 0x113d1), (0x1193f, 0x1193f),
   (0x11941, 0x11941), (0x11a84, 0x11a89), (0x11d46, 0x11d46), (0x11f02, 0x11f02)]

-- The newest marks take no column either. Cutting text into clusters does not
-- know them yet, so each stands alone.
def newestMarks : Ranges :=
  [(0x5c8, 0x5c9), (0xb53, 0xb54), (0x1ade, 0x1adf), (0x1aec, 0x1af0), (0x10ecb, 0x10ecf),
   (0x10ef0, 0x10ef9), (0x11df0, 0x11df0), (0x1d127, 0x1d128), (0x1d250, 0x1d252),
   (0x1d25b, 0x1d25c), (0x1d25f, 0x1d25f), (0x1d280, 0x1d281)]

def koreanTails : Ranges := [(0x1160, 0x11ff), (0xd7b0, 0xd7c6), (0xd7cb, 0xd7fb)]

def isColumnless (c : Char) : Bool :=
  ignorable.has c || extendingMarks.has c || koreanTails.has c || columnlessSigns.has c ||
    newestMarks.has c

def charWidth (c : Char) : Nat :=
  if c.toNat ≤ 0xa0 then 1
  else if c.toNat = 0x2d7f then 1
  else if c.toNat = 0x115f ∨ c.toNat = 0x17a4 ∨ soundMarks.has c then 2
  else if c.toNat = 0x17d8 then 3
  else if isColumnless c then 0
  else if wide.has c then 2
  else 1

-- What stands after a character, as far as it changes the columns of that one.
-- A style mark asks for an emoji, for text or for a wide quotation mark. Joined
-- are an emoji behind a joiner, or a part of one that has to be completed.
inductive Following where
  | plain
  | emoji
  | skinTone
  | joinedEmoji
  | joinedKeyCap
  | joinedFlagLetter
  | joinedTags (letters digits : Nat)
  | joinedStyle
  | emojiStyle
  | textStyle
  | wideStyle
  | coengLetter
  | kiratVowelE
  | kiratVowelAi
  deriving DecidableEq, Repr, Inhabited

def coengLetters : Ranges :=
  [(0x1780, 0x1782), (0x1784, 0x1787), (0x1789, 0x178c), (0x178e, 0x1793), (0x1795, 0x1798),
   (0x179b, 0x179d), (0x17a0, 0x17a0), (0x17a2, 0x17a2), (0x17a7, 0x17a7), (0x17ab, 0x17ac),
   (0x17af, 0x17af)]

def quotationMarks : Ranges := [(0x2018, 0x2019), (0x201c, 0x201d)]

def ligatureMarks : Ranges :=
  [(0x34f, 0x34f), (0x17b4, 0x17b5), (0x180b, 0x180d), (0x180f, 0x180f), (0x200d, 0x200d),
   (0xfe00, 0xfe0f), (0xe0100, 0xe01ef)]

def Following.ofChar (c : Char) : Following :=
  if c.toNat = 0xfe0f then .emojiStyle
  else if c.toNat = 0xfe0e then .textStyle
  else if c.toNat = 0xfe01 then .wideStyle
  else if skinTones.has c then .skinTone
  else if Text.emoji.has c then .emoji
  else if coengLetters.has c then .coengLetter
  else if c.toNat = 0x16d67 then .kiratVowelE
  else if c.toNat = 0x16d68 then .kiratVowelAi
  else .plain

def besidePlain (c : Char) (columns : Nat) : Nat × Following :=
  (columns + charWidth c, .ofChar c)

-- Behind a joiner only the last emoji counts, whatever it is joined to: another
-- emoji, a skin tone, a key cap, a flag of two letters or one with tags.
def besideJoined (c : Char) (columns : Nat) : Nat × Following :=
  if c.toNat = 0xfe0f then (columns, .joinedStyle)
  else if c.toNat = 0x20e3 then (columns, .joinedKeyCap)
  else if c.toNat = 0xe007f then (columns, .joinedTags 0 0)
  else if skinTones.has c then (columns, .skinTone)
  else if flagLetters.has c then (columns + 1, .joinedFlagLetter)
  else if emoji.has c then (columns, .emoji)
  else besidePlain c columns

def besideTags (c : Char) (columns letters digits : Nat) : Nat × Following :=
  if tagLetters.has c ∧ digits = 0 ∧ letters < 6 then (columns, .joinedTags (letters + 1) 0)
  else if tagDigits.has c ∧ digits < 3 ∧ letters ≤ 4 then
    (columns, .joinedTags letters (digits + 1))
  else if c.toNat = 0x1f3f4 ∧ (digits = 3 ∨ digits = 0 ∧ 3 ≤ letters) then (columns, .emoji)
  else besidePlain c columns

def beside (c : Char) (columns : Nat) : Following → Nat × Following
  | .plain => besidePlain c columns
  | .emoji => if c = zeroWidthJoiner then (columns, .joinedEmoji) else besidePlain c columns
  | .skinTone =>
    if c = zeroWidthJoiner then (columns, .joinedEmoji)
    else if skinToneBases.has c then (columns, .emoji)
    else besidePlain c columns
  | .joinedEmoji => besideJoined c columns
  | .joinedKeyCap =>
    if c.toNat = 0xfe0f then (columns, .joinedStyle) else besidePlain c columns
  | .joinedFlagLetter =>
    if flagLetters.has c then (columns - 1, .plain) else besidePlain c columns
  | .joinedTags letters digits => besideTags c columns letters digits
  | .joinedStyle => if styled.has c then (columns, .emoji) else besidePlain c columns
  | .emojiStyle => if styled.has c then (columns + 2, .emoji) else besidePlain c columns
  | .textStyle =>
    if styled.has c ∧ emoji.has c ∧ !ideographSquares.has c then (columns + 1, .plain)
    else besidePlain c columns
  | .wideStyle => if quotationMarks.has c then (columns + 2, .plain) else besidePlain c columns
  | .coengLetter =>
    if c.toNat = 0x17d2 then (columns - 1, .plain)
    else if ligatureMarks.has c then (columns, .coengLetter)
    else besidePlain c columns
  | .kiratVowelE =>
    if c.toNat = 0x16d63 ∨ c.toNat = 0x16d69 then (columns, .plain)
    else if c.toNat = 0x16d67 then (columns, .kiratVowelAi)
    else if c.toNat = 0x16d68 then (columns + 1, .kiratVowelE)
    else besidePlain c columns
  | .kiratVowelAi =>
    if c.toNat = 0x16d63 then (columns, .plain) else besidePlain c columns

def measure (cluster : List Char) : Nat × Following :=
  cluster.foldr (fun c (columns, following) => beside c columns following) (0, .plain)

def width (cluster : List Char) : Nat := (measure cluster).1

theorem width_singleton (c : Char) : width [c] = charWidth c := by
  simp [width, measure, beside, besidePlain]

end VideoTerminal.Text

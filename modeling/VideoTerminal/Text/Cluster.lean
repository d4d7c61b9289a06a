import VideoTerminal.Text.Emoji

namespace VideoTerminal.Text

inductive Joining where
  | separating
  | extending
  | joiner
  | spacing
  | leading
  | flagLetter
  | leadJamo
  | vowelJamo
  | trailJamo
  | openSyllable
  | closedSyllable
  | pictograph
  | plain
  deriving DecidableEq, Repr, Inhabited

def zeroWidthJoiner : Char := '\u200d'

def zeroWidthNonJoiner : Char := '\u200c'

def leadJamos : Ranges := [(0x1100, 0x115f), (0xa960, 0xa97c)]

def vowelJamos : Ranges :=
  [(0x1160, 0x11a7), (0xd7b0, 0xd7c6), (0x16d63, 0x16d63), (0x16d67, 0x16d6a)]

def trailJamos : Ranges := [(0x11a8, 0x11ff), (0xd7cb, 0xd7fb)]

def syllables : Ranges := [(0xac00, 0xd7a3)]

def Joining.ofChar (c : Char) : Joining :=
  if c = zeroWidthJoiner then .joiner
  else if separators.has c then .separating
  else if extendingMarks.has c || skinTones.has c then .extending
  else if spacingMarks.has c then .spacing
  else if leadingSigns.has c then .leading
  else if flagLetters.has c then .flagLetter
  else if leadJamos.has c then .leadJamo
  else if vowelJamos.has c then .vowelJamo
  else if trailJamos.has c then .trailJamo
  else if syllables.has c then
    if (c.toNat - 0xac00) % 28 = 0 then .openSyllable else .closedSyllable
  else if pictographs.has c then .pictograph
  else .plain

-- What a cluster read so far says about the character after it. A pictograph
-- counts while only marks and one joiner came after it, a consonant while only
-- marks did, and it is linked when a linker is among them.
structure Trail where
  last : Joining := .separating
  oddFlagLetters : Bool := false
  pictograph : Bool := false
  consonant : Bool := false
  linked : Bool := false
  deriving DecidableEq, Repr, Inhabited

namespace Trail

def after (t : Trail) (c : Char) : Trail :=
  let joining := Joining.ofChar c
  let isMark := joining = .extending ∨ joining = .joiner
  let carried := t.consonant && decide (isMark ∧ c ≠ zeroWidthNonJoiner)
  { last := joining
    oddFlagLetters := joining = .flagLetter && !t.oddFlagLetters
    pictograph :=
      joining = .pictograph || t.pictograph && decide (t.last ≠ .joiner ∧ isMark)
    consonant := consonants.has c || carried
    linked := carried && (t.linked || linkers.has c) }

-- Nothing joins what separates. A mark goes with the character before it and a
-- leading sign with the one after it. Jamos make syllables, flag letters pairs,
-- joined pictographs one picture, and linked consonants one conjunct.
def takes (t : Trail) (c : Char) : Bool :=
  match t.last, Joining.ofChar c with
  | .separating, _ | _, .separating => false
  | _, .extending | _, .joiner | _, .spacing => true
  | .leading, _ => true
  | .leadJamo, .leadJamo | .leadJamo, .vowelJamo => true
  | .leadJamo, .openSyllable | .leadJamo, .closedSyllable => true
  | .openSyllable, .vowelJamo | .openSyllable, .trailJamo => true
  | .vowelJamo, .vowelJamo | .vowelJamo, .trailJamo => true
  | .closedSyllable, .trailJamo | .trailJamo, .trailJamo => true
  | .flagLetter, .flagLetter => t.oddFlagLetters
  | .joiner, .pictograph => t.pictograph
  | _, _ => t.linked && consonants.has c

end Trail

def clustersAfter (t : Trail) (cluster : List Char) : List Char → List (List Char)
  | [] => [cluster]
  | c :: rest =>
    if t.takes c then clustersAfter (t.after c) (cluster ++ [c]) rest
    else cluster :: clustersAfter (Trail.after {} c) [c] rest

def clusters : List Char → List (List Char)
  | [] => []
  | c :: rest => clustersAfter (Trail.after {} c) [c] rest

theorem flatten_clustersAfter (t : Trail) (cluster text : List Char) :
    (clustersAfter t cluster text).flatten = cluster ++ text := by
  induction text generalizing t cluster with
  | nil => simp [clustersAfter]
  | cons c rest ih =>
    unfold clustersAfter
    split
    · simp [ih]
    · simp [ih]

theorem flatten_clusters (text : List Char) : (clusters text).flatten = text := by
  cases text with
  | nil => rfl
  | cons c rest => simp [clusters, flatten_clustersAfter]

end VideoTerminal.Text

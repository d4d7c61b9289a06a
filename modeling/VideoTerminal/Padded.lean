-- Lists that stand for infinite sequences: past the stored items every
-- position reads as one fixed item. Writing pads first, so what is stored
-- depends on the history while the reading does not.
namespace VideoTerminal.Padded

variable {α : Type}

def read (filler : α) (items : List α) (i : Nat) : α := items.getD i filler

def pad (filler : α) (n : Nat) (items : List α) : List α :=
  items ++ List.replicate (n - items.length) filler

def modify (filler : α) (i : Nat) (f : α → α) (items : List α) : List α :=
  (pad filler (i + 1) items).modify i f

def insert (filler : α) (i : Nat) (item : α) (items : List α) : List α :=
  (pad filler i items).insertIdx i item

def remove (i : Nat) (items : List α) : List α := items.eraseIdx i

def fill (filler : α) (first last : Nat) (item : α) (items : List α) : List α :=
  if first < last then
    (pad filler first items).take first ++ List.replicate (last - first) item ++ items.drop last
  else items

def insertMany (filler : α) (i n : Nat) (item : α) (items : List α) : List α :=
  if n = 0 then items
  else (pad filler i items).take i ++ List.replicate n item ++ items.drop i

def removeMany (i n : Nat) (items : List α) : List α := items.take i ++ items.drop (i + n)

theorem read_eq (filler : α) (items : List α) (i : Nat) :
    read filler items i = items[i]?.getD filler := by
  simp [read]

theorem length_pad (filler : α) (n : Nat) (items : List α) :
    (pad filler n items).length = max items.length n := by
  simp [pad]; omega

@[simp] theorem read_pad (filler : α) (n : Nat) (items : List α) (i : Nat) :
    read filler (pad filler n items) i = read filler items i := by
  simp only [read_eq, pad, List.getElem?_append, List.getElem?_replicate]
  by_cases stored : i < items.length
  · simp [stored]
  · by_cases padded : i - items.length < n - items.length <;> simp [stored, padded]

theorem read_of_length_le {filler : α} {items : List α} {i : Nat} (past : items.length ≤ i) :
    read filler items i = filler := by
  simp [read_eq, List.getElem?_eq_none past]

theorem read_modify (filler : α) (i : Nat) (f : α → α) (items : List α) (j : Nat) :
    read filler (modify filler i f items) j =
      if j = i then f (read filler items i) else read filler items j := by
  have padded := read_pad filler (i + 1) items j
  simp only [read_eq] at padded ⊢
  rw [modify, List.getElem?_modify]
  by_cases same : j = i
  · subst same
    have stored : j < (pad filler (j + 1) items).length := by rw [length_pad]; omega
    rw [List.getElem?_eq_getElem stored] at padded ⊢
    simpa using congrArg f padded
  · rw [if_neg same, ← padded]
    cases (pad filler (i + 1) items)[j]? <;> simp [Ne.symm same]

theorem read_insert (filler : α) (i : Nat) (item : α) (items : List α) (j : Nat) :
    read filler (insert filler i item items) j =
      if j < i then read filler items j
      else if j = i then item
      else read filler items (j - 1) := by
  have below := read_pad filler i items j
  have above := read_pad filler i items (j - 1)
  have room : i ≤ (pad filler i items).length := by rw [length_pad]; omega
  simp only [read_eq] at below above ⊢
  rw [insert, List.getElem?_insertIdx]
  by_cases before : j < i
  · simp [before, below]
  · by_cases here : j = i
    · subst here; simp [room]
    · simp [before, here, above]

theorem read_remove (filler : α) (i : Nat) (items : List α) (j : Nat) :
    read filler (remove i items) j =
      if j < i then read filler items j else read filler items (j + 1) := by
  simp only [read_eq, remove, List.getElem?_eraseIdx]
  split <;> rfl

theorem read_take (filler : α) (n : Nat) (items : List α) (j : Nat) :
    read filler (items.take n) j = if j < n then read filler items j else filler := by
  simp only [read_eq, List.getElem?_take]
  split <;> rfl

theorem read_drop (filler : α) (n : Nat) (items : List α) (j : Nat) :
    read filler (items.drop n) j = read filler items (n + j) := by
  simp only [read_eq, List.getElem?_drop]

theorem read_splice (filler : α) (i n : Nat) (item : α) (items rest : List α) (j : Nat) :
    read filler ((pad filler i items).take i ++ List.replicate n item ++ rest) j =
      if j < i then read filler items j
      else if j < i + n then item
      else read filler rest (j - (i + n)) := by
  have front : ((pad filler i items).take i).length = i := by
    rw [List.length_take, length_pad]; omega
  have below := read_pad filler i items j
  simp only [read_eq] at below ⊢
  rw [List.getElem?_append, List.getElem?_append]
  simp only [List.length_append, front, List.length_replicate]
  by_cases before : j < i
  · simp [before, show j < i + n by omega, below]
  · by_cases inside : j < i + n
    · simp [before, inside, show j - i < n by omega]
    · simp [before, inside]

theorem read_fill (filler : α) (first last : Nat) (item : α) (items : List α) (j : Nat) :
    read filler (fill filler first last item items) j =
      if first ≤ j ∧ j < last then item else read filler items j := by
  unfold fill
  by_cases proper : first < last
  · rw [if_pos proper, read_splice, read_drop]
    by_cases before : j < first
    · simp [before, show ¬ first ≤ j by omega]
    · by_cases inside : j < last
      · simp [before, show j < first + (last - first) by omega, show first ≤ j by omega, inside]
      · simp [before, inside, show ¬ j < first + (last - first) by omega,
          show last + (j - (first + (last - first))) = j by omega]
  · rw [if_neg proper, if_neg (by omega)]

theorem read_insertMany (filler : α) (i n : Nat) (item : α) (items : List α) (j : Nat) :
    read filler (insertMany filler i n item items) j =
      if j < i then read filler items j
      else if j < i + n then item
      else read filler items (j - n) := by
  unfold insertMany
  by_cases none : n = 0
  · subst none
    rw [if_pos rfl]
    by_cases before : j < i <;> simp [before]
  · rw [if_neg none, read_splice, read_drop]
    by_cases before : j < i
    · simp [before]
    · by_cases inside : j < i + n
      · simp [before, inside]
      · simp [before, inside, show i + (j - (i + n)) = j - n by omega]

theorem read_removeMany (filler : α) (i n : Nat) (items : List α) (j : Nat) :
    read filler (removeMany i n items) j =
      if j < i then read filler items j else read filler items (j + n) := by
  unfold removeMany
  by_cases room : i ≤ items.length
  · have front : (items.take i).length = i := by rw [List.length_take]; omega
    simp only [read_eq, List.getElem?_append, front, List.getElem?_take, List.getElem?_drop]
    by_cases before : j < i
    · simp [before]
    · simp [before, show i + n + (j - i) = j + n by omega]
  · rw [List.take_of_length_le (by omega), List.drop_eq_nil_of_le (by omega), List.append_nil]
    by_cases before : j < i
    · rw [if_pos before]
    · rw [if_neg before, read_of_length_le (by omega), read_of_length_le (by omega)]

end VideoTerminal.Padded

import SyntaxServer.Frame.Source

/-!
What the reads of a stream find, said of its bytes alone. The chunks of a stream do not matter: a
line is the line of the bytes (`line_bytes`), and a run of bytes is their beginning
(`take_bytes`). Bytes begin with a line that ends, or with one that is cut at the limit, or they
are a line without an end (`exists_line`).
-/

namespace SyntaxServer.Source

/-! ### Lines of bytes -/

theorem splitLine_zero (bs : List UInt8) : splitLine 0 bs = ([], bs) := by
  cases bs <;> rfl

theorem splitLine_ne_nil {n : Nat} {bs : List UInt8} (hn : 0 < n) (hb : bs ≠ []) :
    (splitLine n bs).1 ≠ [] := by
  obtain ⟨n, rfl⟩ : ∃ m, n = m + 1 := ⟨n - 1, by omega⟩
  cases bs with
  | nil => exact absurd rfl hb
  | cons b bs =>
    unfold splitLine
    split
    · exact List.cons_ne_nil b []
    · exact List.cons_ne_nil b _

theorem splitLine_line {l : List UInt8} (hl : newline ∉ l) {n : Nat} (hn : l.length < n)
    (bs : List UInt8) : splitLine n (l ++ newline :: bs) = (l ++ [newline], bs) := by
  induction l generalizing n with
  | nil =>
    obtain ⟨n, rfl⟩ : ∃ m, n = m + 1 := ⟨n - 1, by simp at hn; omega⟩
    simp [splitLine]
  | cons b l ih =>
    obtain ⟨n, rfl⟩ : ∃ m, n = m + 1 := ⟨n - 1, by simp at hn; omega⟩
    have hb : b ≠ newline := fun h => hl (by simp [h])
    have := ih (fun h => hl (List.mem_cons_of_mem _ h)) (by simpa using hn)
    simp [splitLine, hb, this]

theorem splitLine_cut {l : List UInt8} (hl : newline ∉ l) (bs : List UInt8) :
    splitLine l.length (l ++ bs) = (l, bs) := by
  induction l with
  | nil => simp [splitLine]
  | cons b l ih =>
    have hb : b ≠ newline := fun h => hl (by simp [h])
    simp [splitLine, hb, ih fun h => hl (List.mem_cons_of_mem _ h)]

theorem splitLine_short {l : List UInt8} (hl : newline ∉ l) {n : Nat} (hn : l.length ≤ n) :
    splitLine n l = (l, []) := by
  induction l generalizing n with
  | nil => cases n <;> rfl
  | cons b l ih =>
    obtain ⟨n, rfl⟩ : ∃ m, n = m + 1 := ⟨n - 1, by simp at hn; omega⟩
    have hb : b ≠ newline := fun h => hl (by simp [h])
    simp [splitLine, hb, ih (fun h => hl (List.mem_cons_of_mem _ h)) (by simpa using hn)]

/-- **The beginning of some bytes.** -/
theorem exists_line (n : Nat) (bs : List UInt8) :
    (∃ l rest, newline ∉ l ∧ l.length < n ∧ bs = l ++ newline :: rest) ∨
    (∃ l rest, newline ∉ l ∧ l.length = n ∧ bs = l ++ rest) ∨
    (newline ∉ bs ∧ bs.length < n) := by
  induction n generalizing bs with
  | zero => exact Or.inr (Or.inl ⟨[], bs, by simp, rfl, rfl⟩)
  | succ n ih =>
    cases bs with
    | nil => exact Or.inr (Or.inr ⟨by simp, by simp⟩)
    | cons b bs =>
      by_cases hb : b = newline
      · exact Or.inl ⟨[], bs, by simp, by simp, by simp [hb]⟩
      · have hmem : ∀ {l : List UInt8}, newline ∉ l → newline ∉ b :: l := by
          intro l hl h
          rcases List.mem_cons.1 h with h | h
          · exact hb h.symm
          · exact hl h
        rcases ih bs with ⟨l, rest, hl, hn, rfl⟩ | ⟨l, rest, hl, hn, rfl⟩ | ⟨hl, hn⟩
        · exact Or.inl ⟨b :: l, rest, hmem hl, by simpa using hn, rfl⟩
        · exact Or.inr (Or.inl ⟨b :: l, rest, hmem hl, by simpa using hn, rfl⟩)
        · exact Or.inr (Or.inr ⟨hmem hl, by simpa using hn⟩)

/-! ### Chunks -/

theorem splitLine_of_open {n : Nat} {c : List UInt8}
    (h : ¬ ((splitLine n c).1.getLast? = some newline ∨ (splitLine n c).1.length = n)) :
    splitLine n c = (c, []) := by
  rcases exists_line n c with ⟨l, rest, hl, hn, rfl⟩ | ⟨l, rest, hl, rfl, rfl⟩ | ⟨hl, hn⟩
  · rw [splitLine_line hl hn] at h
    simp at h
  · rw [splitLine_cut hl] at h
    simp at h
  · exact splitLine_short hl (Nat.le_of_lt hn)

/-- A line of a chunk that is not over goes on behind the chunk. -/
theorem splitLine_append_of_open {n : Nat} {c : List UInt8}
    (h : ¬ ((splitLine n c).1.getLast? = some newline ∨ (splitLine n c).1.length = n))
    (bs : List UInt8) :
    splitLine n (c ++ bs) =
      ((splitLine n c).1 ++ (splitLine (n - (splitLine n c).1.length) bs).1,
        (splitLine (n - (splitLine n c).1.length) bs).2) := by
  rcases exists_line n c with ⟨l, rest, hl, hn, rfl⟩ | ⟨l, rest, hl, rfl, rfl⟩ | ⟨hl, hn⟩
  · rw [splitLine_line hl hn] at h
    simp at h
  · rw [splitLine_cut hl] at h
    simp at h
  · rw [splitLine_short hl (Nat.le_of_lt hn)]
    clear h
    induction c generalizing n with
    | nil => rfl
    | cons b c ih =>
      obtain ⟨n, rfl⟩ : ∃ m, n = m + 1 := ⟨n - 1, by simp at hn; omega⟩
      have hb : b ≠ newline := fun h => hl (by simp [h])
      have := ih (n := n) (fun h => hl (List.mem_cons_of_mem _ h)) (by simpa using hn)
      simp [splitLine, hb, this]

/-- A line of a chunk that is over does not see what is behind the chunk. -/
theorem splitLine_append_of_closed {n : Nat} {c : List UInt8}
    (h : (splitLine n c).1.getLast? = some newline ∨ (splitLine n c).1.length = n)
    (bs : List UInt8) :
    splitLine n (c ++ bs) = ((splitLine n c).1, (splitLine n c).2 ++ bs) := by
  rcases exists_line n c with ⟨l, rest, hl, hn, rfl⟩ | ⟨l, rest, hl, rfl, rfl⟩ | ⟨hl, hn⟩
  · rw [List.append_assoc, List.cons_append, splitLine_line hl hn, splitLine_line hl hn]
  · rw [List.append_assoc, splitLine_cut hl, splitLine_cut hl]
  · rw [splitLine_short hl (Nat.le_of_lt hn)] at h
    rcases h with h | h
    · exact absurd (List.mem_of_getLast? h) hl
    · exact absurd h (Nat.ne_of_lt hn)

theorem lineOf_flatten (n : Nat) (cs : List (List UInt8)) :
    ((lineOf n cs).1, (lineOf n cs).2.flatten) = splitLine n cs.flatten := by
  induction cs generalizing n with
  | nil => cases n <;> rfl
  | cons c cs ih =>
    rw [List.flatten_cons, lineOf]
    dsimp only
    split
    · rename_i h
      rw [splitLine_append_of_closed h]
      rfl
    · rename_i h
      rw [splitLine_append_of_open h, ← ih]

theorem takeOf_flatten (n : Nat) (cs : List (List UInt8)) :
    ((takeOf n cs).1, (takeOf n cs).2.flatten) = (cs.flatten.take n, cs.flatten.drop n) := by
  induction cs generalizing n with
  | nil => simp [takeOf]
  | cons c cs ih =>
    rw [List.flatten_cons, takeOf]
    split
    · rename_i h
      rw [List.take_append_of_le_length h, List.drop_append_of_le_length h]
      rfl
    · rename_i h
      obtain ⟨h₁, h₂⟩ := Prod.mk.inj (ih (n - c.length))
      rw [List.take_append, List.drop_append, List.take_of_length_le (by omega),
        List.drop_of_length_le (by omega), ← h₁, ← h₂]
      rfl

/-! ### Streams -/

@[simp] theorem bytes_ofBytes (bs : List UInt8) (e : StreamEnd) : (ofBytes bs e).bytes = bs := by
  simp [ofBytes, bytes]

@[simp] theorem ending_ofBytes (bs : List UInt8) (e : StreamEnd) : (ofBytes bs e).ending = e := rfl

/-- **A line of a stream is a line of its bytes.** -/
theorem line_bytes (n : Nat) (s : Source) :
    ((s.line n).1, (s.line n).2.bytes) = splitLine n s.bytes :=
  lineOf_flatten n s.chunks

/-- **A run of bytes of a stream is the beginning of its bytes.** -/
theorem take_bytes (n : Nat) (s : Source) :
    ((s.take n).1, (s.take n).2.bytes) = (s.bytes.take n, s.bytes.drop n) :=
  takeOf_flatten n s.chunks

end SyntaxServer.Source

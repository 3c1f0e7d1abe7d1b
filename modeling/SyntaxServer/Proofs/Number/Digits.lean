import SyntaxServer.Number.Natural

/-!
Decimal digits. What is written of a number is digits, at least one, and reads back as the number,
also as a word if it fits one. A word that is read is made of digits and a plus sign.
-/

namespace SyntaxServer.Natural

theorem digit?_eq_some_iff {c : Char} {d : Nat} :
    digit? c = some d ↔ c.isDigit = true ∧ d = c.toNat - '0'.toNat := by
  have hc : c.isDigit = true ↔ '0' ≤ c ∧ c ≤ '9' := by
    rw [Char.isDigit_iff_toNat, Char.le_def, Char.le_def, UInt32.le_iff_toNat_le,
      UInt32.le_iff_toNat_le]
    rfl
  rw [hc]
  unfold digit?
  split
  · rename_i h
    rw [Option.some.injEq, eq_comm, and_iff_right h]
  · rename_i h
    simp [h]

theorem extend?_of_isDigit {cs : List Char} (h : ∀ c ∈ cs, c.isDigit = true) (n : Nat) :
    extend? n cs = some (Nat.ofDigitChars 10 cs n) := by
  induction cs generalizing n with
  | nil => rfl
  | cons c cs ih =>
    have hc := digit?_eq_some_iff.2 ⟨h c (List.mem_cons_self ..), rfl⟩
    rw [extend?, hc, Option.bind_some, ih fun d hd => h d (List.mem_cons_of_mem _ hd),
      Nat.ofDigitChars_cons, Nat.mul_comm]

theorem isDigit_of_extend? {cs : List Char} {n m : Nat} (h : extend? n cs = some m) :
    ∀ c ∈ cs, c.isDigit = true := by
  induction cs generalizing n with
  | nil => simp
  | cons c cs ih =>
    rw [extend?] at h
    obtain ⟨d, hd, h⟩ := Option.bind_eq_some_iff.1 h
    intro e he
    rcases List.mem_cons.1 he with rfl | he
    · exact (digit?_eq_some_iff.1 hd).1
    · exact ih h e he

/-! ### Written numbers -/

theorem isDigit_of_mem_digits {n : Nat} {c : Char} (h : c ∈ digits n) : c.isDigit = true :=
  Nat.isDigit_of_mem_toDigits (by decide) (by decide) h

theorem digits_ne_nil (n : Nat) : digits n ≠ [] := Nat.toDigits_ne_nil

theorem read?_digits (n : Nat) : read? (digits n) = some n := by
  unfold read?
  rw [if_neg (digits_ne_nil n), extend?_of_isDigit fun c => isDigit_of_mem_digits]
  exact congrArg some Nat.ofDigitChars_ten_toDigits

/-- **A number reads back as a word** if and only if it fits one. -/
theorem word?_digits_eq (n : Nat) :
    word? (digits n) = if n < wordLimit then some n else none := by
  obtain ⟨c, cs, hcs⟩ := List.exists_cons_of_ne_nil (digits_ne_nil n)
  have hc : c ≠ '+' := by
    rintro rfl
    exact absurd (isDigit_of_mem_digits (hcs ▸ List.mem_cons_self ..)) (by decide)
  have hw : word? (c :: cs) = (read? (c :: cs)).filter (· < wordLimit) := by
    unfold word?
    split
    · rename_i h
      exact absurd (List.cons.inj h).1 hc
    · rfl
  rw [hcs, hw, ← hcs, read?_digits]
  simp [Option.filter]

theorem word?_digits {n : Nat} (h : n < wordLimit) : word? (digits n) = some n := by
  rw [word?_digits_eq, if_pos h]

theorem isDigit_of_word? {cs : List Char} {n : Nat} (h : word? cs = some n) :
    ∀ c ∈ cs, c = '+' ∨ c.isDigit = true := by
  have read : ∀ {ds : List Char} {m : Nat}, read? ds = some m → ∀ c ∈ ds, c.isDigit = true := by
    intro ds m h
    unfold read? at h
    split at h
    · cases h
    · exact isDigit_of_extend? h
  unfold word? at h
  have h := (Option.filter_eq_some_iff.1 h).1
  intro c hc
  split at h
  · rcases List.mem_cons.1 hc with rfl | hc
    · exact Or.inl rfl
    · exact Or.inr (read h c hc)
  · exact Or.inr (read h c hc)

end SyntaxServer.Natural

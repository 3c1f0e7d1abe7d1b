import SyntaxServer.Proofs.Text.Lenient

/-!
Strict reading of written text. The bytes of a character are read back as that character, whatever
follows them (`head_encodeChar`), so the bytes of a text are read back as the text
(`decode?_encode`).
-/

namespace SyntaxServer.Utf8

variable {bits n m : Nat} {low high : UInt8}

theorem tails_cons (h₁ : low.toNat ≤ m) (h₂ : m ≤ high.toNat) (bs : List UInt8) :
    tails (n + 1) low high bits (UInt8.ofNat m :: bs) =
      tails n 0x80 0xBF (bits * 64 + (m - 128)) bs := by
  have hm : (UInt8.ofNat m).toNat = m := by
    have := high.toNat_lt
    rw [UInt8.toNat_ofNat']
    omega
  have hbounds : low ≤ UInt8.ofNat m ∧ UInt8.ofNat m ≤ high := by
    rw [UInt8.le_iff_toNat_le, UInt8.le_iff_toNat_le, hm]
    exact ⟨h₁, h₂⟩
  rw [tails, if_pos hbounds, hm]

theorem head_of_lead {b : UInt8} {l : Lead} {bs rest : List UInt8} (hl : lead? b = some l)
    (ht : tails l.tails l.low l.high l.bits bs = (some m, rest)) :
    head b bs = (some (Char.ofNat m), rest) := by
  unfold head
  rw [hl]
  dsimp only
  rw [ht]
  rfl

theorem lead?_two (h₁ : 194 ≤ m) (h₂ : m ≤ 223) :
    lead? (UInt8.ofNat m) = some ⟨1, 0x80, 0xBF, m - 192⟩ := by
  unfold lead?
  dsimp only
  rw [UInt8.toNat_ofNat', Nat.mod_eq_of_lt (by omega), if_neg (by omega), if_pos ⟨h₁, h₂⟩]

/-- What the first byte of three promises: the second one is bounded so that the character is
neither below those of two bytes nor half of a pair. -/
theorem lead?_three (h₁ : 224 ≤ m) (h₂ : m ≤ 239) :
    ∃ low high, lead? (UInt8.ofNat m) = some ⟨2, low, high, m - 224⟩ ∧
      low.toNat = (if m = 224 then 160 else 128) ∧ high.toNat = (if m = 237 then 159 else 191) := by
  unfold lead?
  dsimp only
  rw [UInt8.toNat_ofNat', Nat.mod_eq_of_lt (by omega), if_neg (by omega), if_neg (by omega)]
  by_cases h₃ : m = 224
  · subst h₃
    exact ⟨_, _, rfl, rfl, rfl⟩
  · by_cases h₄ : m = 237
    · subst h₄
      exact ⟨_, _, rfl, rfl, rfl⟩
    · rw [if_neg h₃, if_neg h₄, if_pos (by omega), if_neg h₃, if_neg h₄]
      exact ⟨_, _, rfl, rfl, rfl⟩

/-- What the first byte of four promises: the second one is bounded so that the character is
neither below those of three bytes nor beyond the last one. -/
theorem lead?_four (h₁ : 240 ≤ m) (h₂ : m ≤ 244) :
    ∃ low high, lead? (UInt8.ofNat m) = some ⟨3, low, high, m - 240⟩ ∧
      low.toNat = (if m = 240 then 144 else 128) ∧ high.toNat = (if m = 244 then 143 else 191) := by
  unfold lead?
  dsimp only
  rw [UInt8.toNat_ofNat', Nat.mod_eq_of_lt (by omega), if_neg (by omega), if_neg (by omega),
    if_neg (by omega), if_neg (by omega), if_neg (by omega)]
  by_cases h₃ : m = 240
  · subst h₃
    exact ⟨_, _, rfl, rfl, rfl⟩
  · by_cases h₄ : m = 244
    · subst h₄
      exact ⟨_, _, rfl, rfl, rfl⟩
    · rw [if_neg h₃, if_pos (by omega), if_neg h₃, if_neg h₄]
      exact ⟨_, _, rfl, rfl, rfl⟩

/-- **The bytes of a character are read back as the character**, and nothing behind them is. -/
theorem head_encodeChar (c : Char) (bs : List UInt8) :
    ∃ b ds, String.utf8EncodeChar c = b :: ds ∧ head b (ds ++ bs) = (some c, bs) := by
  have hvalid : c.toNat < 0xD800 ∨ 0xDFFF < c.toNat ∧ c.toNat < 0x110000 := c.valid
  have hc : Char.ofNat c.toNat = c := Char.ofNat_toNat c
  have hread : ∀ {b l ds m}, lead? b = some l → m = c.toNat →
      tails l.tails l.low l.high l.bits (ds ++ bs) = (some m, bs) →
      head b (ds ++ bs) = (some c, bs) := by
    intro b l ds m hl hm ht
    rw [head_of_lead hl ht, hm, hc]
  unfold String.utf8EncodeChar
  dsimp only
  generalize hv : c.toNat = v at hvalid hread
  have hval : c.val.toNat = v := hv
  rw [hval]
  by_cases h₁ : v ≤ 127
  · have hb : (UInt8.ofNat v).toNat = v := by
      rw [UInt8.toNat_ofNat']
      omega
    rw [if_pos h₁]
    refine ⟨_, [], rfl, ?_⟩
    rw [head_ascii (by omega), hb, ← hv, hc]
    rfl
  rw [if_neg h₁]
  by_cases h₂ : v ≤ 2047
  · rw [if_pos h₂]
    refine ⟨_, _, rfl, hread (lead?_two (by omega) (by omega)) ?_
      (tails_cons (by show 128 ≤ _; omega) (by show _ ≤ 191; omega) bs)⟩
    dsimp only
    omega
  rw [if_neg h₂]
  by_cases h₃ : v ≤ 65535
  · obtain ⟨low, high, hl, hlow, hhigh⟩ :=
      lead?_three (m := v / 4096 % 16 + 224) (by omega) (by omega)
    rw [if_pos h₃]
    refine ⟨_, _, rfl, hread hl ?_ ((tails_cons ?_ ?_ _).trans
      (tails_cons (by show 128 ≤ _; omega) (by show _ ≤ 191; omega) bs))⟩
    · dsimp only
      omega
    · rw [hlow]
      split <;> omega
    · rw [hhigh]
      split <;> omega
  · obtain ⟨low, high, hl, hlow, hhigh⟩ :=
      lead?_four (m := v / 262144 % 8 + 240) (by omega) (by omega)
    rw [if_neg h₃]
    refine ⟨_, _, rfl, hread hl ?_ ((tails_cons ?_ ?_ _).trans
      ((tails_cons (by show 128 ≤ _; omega) (by show _ ≤ 191; omega) _).trans
        (tails_cons (by show 128 ≤ _; omega) (by show _ ≤ 191; omega) bs)))⟩
    · dsimp only
      omega
    · rw [hlow]
      split <;> omega
    · rw [hhigh]
      split <;> omega

/-- **Written text is read back.** -/
theorem decode?_encode (cs : List Char) : decode? (encode cs) = some cs := by
  induction cs with
  | nil =>
    rw [encode_nil]
    unfold decode?
    rfl
  | cons c cs ih =>
    obtain ⟨b, ds, hbytes, hhead⟩ := head_encodeChar c (encode cs)
    rw [encode_cons, hbytes, List.cons_append]
    unfold decode?
    rw [hhead]
    dsimp only
    rw [ih]
    rfl

end SyntaxServer.Utf8

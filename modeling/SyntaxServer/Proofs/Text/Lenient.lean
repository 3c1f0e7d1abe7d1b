import Mathlib.Algebra.Group.Nat.Defs
import SyntaxServer.Text.Utf8

/-!
Lenient reading around ASCII. A byte below 128 is its own character wherever it stands, and an
ill-formed part before it ends there; no other byte is read as a character below 128. So a text of
ASCII characters heads some bytes if and only if it heads what is read from them.
-/

namespace SyntaxServer.Utf8

theorem toNat_ofNat_of_valid {n : Nat} (h : n.isValidChar) : (Char.ofNat n).toNat = n := by
  unfold Char.ofNat
  rw [dif_pos h]
  rfl

/-! ### ASCII bytes -/

/-- The byte of an ASCII character. -/
def byte (c : Char) : UInt8 := UInt8.ofNat c.toNat

theorem toNat_byte {c : Char} (hc : c.toNat < 128) : (byte c).toNat = c.toNat := by
  unfold byte
  rw [UInt8.toNat_ofNat']
  omega

theorem ofNat_byte {c : Char} (hc : c.toNat < 128) : Char.ofNat (byte c).toNat = c := by
  rw [toNat_byte hc]
  exact Char.ofNat_toNat c

theorem encode_ascii {cs : List Char} (h : ∀ c ∈ cs, c.toNat < 128) :
    encode cs = cs.map byte := by
  induction cs with
  | nil => rfl
  | cons c cs ih =>
    have hc : c.val.toNat ≤ 0x7f := Nat.le_of_lt_succ (h c (List.mem_cons_self ..))
    have hb : String.utf8EncodeChar c = [byte c] := by
      unfold String.utf8EncodeChar
      simp only [hc, if_true]
      rfl
    rw [encode_cons, hb, ih fun d hd => h d (List.mem_cons_of_mem _ hd)]
    rfl

/-! ### The first byte -/

theorem lead?_ascii {b : UInt8} (hb : b.toNat < 128) :
    lead? b = some ⟨0, 0x80, 0xBF, b.toNat⟩ := by
  unfold lead?
  rw [if_pos (by omega)]

theorem head_ascii {b : UInt8} (hb : b.toNat < 128) (bs : List UInt8) :
    head b bs = (some (Char.ofNat b.toNat), bs) := by
  unfold head
  rw [lead?_ascii hb]
  rfl

/-- What a first byte that is not ASCII promises: bytes after it, none of them ASCII, and
a character beyond ASCII. -/
structure Lead.Wide (l : Lead) : Prop where
  low_ge : 128 ≤ l.low.toNat
  char_of : ∃ n, l.tails = n + 1 ∧ ∀ m, (l.bits * 64 + (l.low.toNat - 128)) * 64 ^ n ≤ m →
    m < (l.bits * 64 + (l.high.toNat - 128) + 1) * 64 ^ n → 128 ≤ m ∧ m.isValidChar

theorem wide_of_lead? {b : UInt8} {l : Lead} (hb : 128 ≤ b.toNat) (h : lead? b = some l) :
    l.Wide := by
  unfold lead? at h
  dsimp only at h
  rw [if_neg (by omega)] at h
  repeat' split at h
  all_goals first
    | cases h
      refine ⟨by dsimp only; decide, _, rfl, fun m h₁ h₂ => ?_⟩
      simp only [Nat.isValidChar, UInt8.reduceToNat] at h₁ h₂ ⊢
      omega
    | cases h

theorem low_of_lead? {b : UInt8} {l : Lead} (h : lead? b = some l) : 128 ≤ l.low.toNat := by
  by_cases hb : b.toNat < 128
  · rw [lead?_ascii hb] at h
    cases h
    dsimp only
    decide
  · exact (wide_of_lead? (by omega) h).low_ge

/-! ### The bytes after it -/

theorem tails_append_ascii {b : UInt8} (hb : b.toNat < 128) (cs : List UInt8) (n : Nat)
    {low : UInt8} (hl : 128 ≤ low.toNat) (high : UInt8) (bits : Nat) (as : List UInt8) :
    tails n low high bits (as ++ b :: cs) =
      ((tails n low high bits as).1, (tails n low high bits as).2 ++ b :: cs) := by
  induction n generalizing low high bits as with
  | zero => rfl
  | succ n ih =>
    cases as with
    | nil =>
      have : ¬ low ≤ b := by
        rw [UInt8.le_iff_toNat_le]
        omega
      simp [tails, this]
    | cons a as =>
      simp only [List.cons_append, tails]
      split
      · exact ih (by decide) ..
      · rfl

theorem head_append_ascii {b : UInt8} (hb : b.toNat < 128) (cs : List UInt8) (a : UInt8)
    (as : List UInt8) : head a (as ++ b :: cs) = ((head a as).1, (head a as).2 ++ b :: cs) := by
  unfold head
  cases h : lead? a with
  | none => rfl
  | some l =>
    have := tails_append_ascii hb cs l.tails (low_of_lead? h) l.high l.bits as
    simp only [this]

/-- Each of the bytes after a first one adds six bits. -/
theorem bounds_of_tails {n m bits : Nat} {bs r : List UInt8}
    (h : tails n 0x80 0xBF bits bs = (some m, r)) :
    bits * 64 ^ n ≤ m ∧ m < (bits + 1) * 64 ^ n := by
  induction n generalizing bits bs with
  | zero =>
    simp only [tails, Prod.mk.injEq, Option.some.injEq] at h
    omega
  | succ n ih =>
    cases bs with
    | nil => simp [tails] at h
    | cons b bs =>
      simp only [tails] at h
      split at h
      case isFalse => simp at h
      rename_i hb
      have hb₁ : b.toNat ≤ 191 := UInt8.le_iff_toNat_le.1 hb.2
      obtain ⟨h₁, h₂⟩ := ih h
      constructor
      · calc bits * 64 ^ (n + 1) = bits * 64 * 64 ^ n := by rw [Nat.pow_succ]; ac_rfl
          _ ≤ (bits * 64 + (b.toNat - 0x80)) * 64 ^ n := Nat.mul_le_mul_right _ (by omega)
          _ ≤ m := h₁
      · calc m < (bits * 64 + (b.toNat - 0x80) + 1) * 64 ^ n := h₂
          _ ≤ ((bits + 1) * 64) * 64 ^ n := Nat.mul_le_mul_right _ (by omega)
          _ = (bits + 1) * 64 ^ (n + 1) := by rw [Nat.pow_succ]; ac_rfl

theorem toNat_of_head {b : UInt8} (hb : 128 ≤ b.toNat) {bs : List UInt8} {c : Char}
    (h : (head b bs).1 = some c) : 128 ≤ c.toNat := by
  unfold head at h
  cases hl : lead? b with
  | none => simp [hl] at h
  | some l =>
    obtain ⟨-, n, hn, hw⟩ := wide_of_lead? hb hl
    simp only [hl, hn] at h
    obtain ⟨m, hm, rfl⟩ := Option.map_eq_some_iff.1 h
    cases bs with
    | nil => simp [tails] at hm
    | cons a bs =>
      simp only [tails] at hm
      split at hm
      case isFalse => simp at hm
      rename_i ha
      have h₁ := UInt8.le_iff_toNat_le.1 ha.1
      have h₂ := UInt8.le_iff_toNat_le.1 ha.2
      obtain ⟨hm₁, hm₂⟩ := bounds_of_tails (Prod.ext hm rfl)
      obtain ⟨hm, hv⟩ := hw m
        (Nat.le_trans (Nat.mul_le_mul_right _ (by omega)) hm₁)
        (Nat.lt_of_lt_of_le hm₂ (Nat.mul_le_mul_right _ (by omega)))
      rw [toNat_ofNat_of_valid hv]
      exact hm

/-! ### Whole byte strings -/

@[simp] theorem lenient_nil : lenient [] = [] := by rw [lenient]

theorem lenient_cons (b : UInt8) (bs : List UInt8) :
    lenient (b :: bs) = (head b bs).1.getD '\uFFFD' :: lenient (head b bs).2 := by rw [lenient]

theorem lenient_cons_ascii {b : UInt8} (hb : b.toNat < 128) (bs : List UInt8) :
    lenient (b :: bs) = Char.ofNat b.toNat :: lenient bs := by
  rw [lenient_cons, head_ascii hb]
  rfl

/-- **An ASCII byte stands for itself**, whatever is around it. -/
theorem lenient_append_ascii {b : UInt8} (hb : b.toNat < 128) (as bs : List UInt8) :
    lenient (as ++ b :: bs) = lenient as ++ Char.ofNat b.toNat :: lenient bs := by
  fun_induction lenient as with
  | case1 => exact lenient_cons_ascii hb bs
  | case2 a as ih =>
    rw [List.cons_append, lenient_cons, head_append_ascii hb, ih]
    rfl

theorem lenient_eq_cons {bs : List UInt8} {c : Char} {t : List Char} (hc : c.toNat < 128)
    (h : lenient bs = c :: t) : ∃ bs', bs = byte c :: bs' ∧ t = lenient bs' := by
  cases bs with
  | nil => simp at h
  | cons b bs =>
    by_cases hb : b.toNat < 128
    · rw [lenient_cons_ascii hb] at h
      obtain ⟨rfl, rfl⟩ := List.cons.inj h
      refine ⟨bs, ?_, rfl⟩
      unfold byte
      rw [toNat_ofNat_of_valid (Or.inl (by omega)), UInt8.ofNat_toNat]
    · rw [lenient_cons] at h
      obtain ⟨h, -⟩ := List.cons.inj h
      exfalso
      cases hh : (head b bs).1 with
      | none =>
        rw [hh, Option.getD_none] at h
        subst h
        exact absurd hc (by decide)
      | some d =>
        have := toNat_of_head (by omega) hh
        rw [hh, Option.getD_some] at h
        subst h
        omega

theorem map_byte_lenient {bs : List UInt8} (h : ∀ c ∈ lenient bs, c.toNat < 128) :
    (lenient bs).map byte = bs := by
  induction bs with
  | nil => simp
  | cons b bs ih =>
    obtain ⟨c, t, ht⟩ : ∃ c t, lenient (b :: bs) = c :: t := ⟨_, _, lenient_cons b bs⟩
    rw [ht] at h ⊢
    obtain ⟨bs', hb, rfl⟩ := lenient_eq_cons (h c (List.mem_cons_self ..)) ht
    obtain ⟨rfl, rfl⟩ := List.cons.inj hb
    rw [List.map_cons, ih fun d hd => h d (List.mem_cons_of_mem _ hd)]

theorem lenient_map_byte_append {cs : List Char} (h : ∀ c ∈ cs, c.toNat < 128)
    (bs : List UInt8) : lenient (cs.map byte ++ bs) = cs ++ lenient bs := by
  induction cs with
  | nil => rfl
  | cons c cs ih =>
    have hc : c.toNat < 128 := h c (List.mem_cons_self ..)
    rw [List.map_cons, List.cons_append, lenient_cons_ascii (by rwa [toNat_byte hc]),
      ofNat_byte hc, ih fun d hd => h d (List.mem_cons_of_mem _ hd)]
    rfl

/-- **An ASCII text heads what is read if and only if its bytes head what is read from.** -/
theorem prefix_lenient_iff {cs : List Char} (h : ∀ c ∈ cs, c.toNat < 128) {bs : List UInt8} :
    cs <+: lenient bs ↔ cs.map byte <+: bs := by
  constructor
  · rintro ⟨t, ht⟩
    induction cs generalizing bs with
    | nil => exact List.nil_prefix
    | cons c cs ih =>
      obtain ⟨bs', rfl, ht'⟩ := lenient_eq_cons (h c (List.mem_cons_self ..)) ht.symm
      obtain ⟨r, hr⟩ := ih (fun d hd => h d (List.mem_cons_of_mem _ hd)) ht'
      exact ⟨r, by rw [← hr]; rfl⟩
  · rintro ⟨r, rfl⟩
    exact ⟨lenient r, (lenient_map_byte_append h r).symm⟩

end SyntaxServer.Utf8

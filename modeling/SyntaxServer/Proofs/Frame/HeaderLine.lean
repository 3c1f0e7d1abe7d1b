import Mathlib.Data.List.Basic
import Mathlib.Data.List.TakeWhile
import SyntaxServer.Frame.Reader
import SyntaxServer.Proofs.Number.Digits
import SyntaxServer.Proofs.Text.Lenient

/-!
What the bytes of a header line mean. A line is blank if and only if it is made of carriage
returns; a line that does not start with the name of the length is another header, whatever bytes
it has; the line that a writer gives the length reads back as that length, or as one that is too
large. A line with a capital `C` behind its first character is never a good length.
-/

namespace SyntaxServer

namespace Text

variable {p : Char → Bool}

theorem dropEnd_append_cons {c : Char} (hc : p c = false) (as bs : List Char) :
    dropEnd p (as ++ c :: bs) = as ++ c :: dropEnd p bs := by
  unfold dropEnd
  rw [List.reverse_append, List.reverse_cons, List.append_assoc, List.dropWhile_append]
  split
  · rename_i h
    simp [List.isEmpty_iff.1 h, hc]
  · simp

theorem dropEnd_concat {c : Char} (hc : p c = true) (cs : List Char) :
    dropEnd p (cs ++ [c]) = dropEnd p cs := by
  simp [dropEnd, hc]

theorem dropEnd_eq_nil_iff {cs : List Char} : dropEnd p cs = [] ↔ ∀ c ∈ cs, p c = true := by
  unfold dropEnd
  rw [List.reverse_eq_nil_iff, List.dropWhile_eq_nil_iff]
  simp

theorem dropEnd_prefix (cs : List Char) : dropEnd p cs <+: cs := by
  have := List.dropWhile_suffix (l := cs.reverse) p
  rw [← List.reverse_prefix, List.reverse_reverse] at this
  exact this

theorem dropEnd_of_forall {cs : List Char} (h : ∀ c ∈ cs, p c = false) : dropEnd p cs = cs := by
  rcases List.eq_nil_or_concat cs with rfl | ⟨cs, c, rfl⟩
  · rfl
  · rw [List.concat_eq_append] at h ⊢
    exact dropEnd_append_cons (h c (by simp)) cs []

theorem mem_trim {c : Char} (hc : isBlank c = false) {cs : List Char} (h : c ∈ cs) :
    c ∈ trim cs := by
  have keep : ∀ {ds : List Char}, c ∈ ds → c ∈ ds.dropWhile isBlank := by
    intro ds h
    rw [← List.takeWhile_append_dropWhile (p := isBlank) (l := ds)] at h
    rcases List.mem_append.1 h with h | h
    · rw [List.mem_takeWhile_imp h] at hc
      cases hc
    · exact h
  unfold trim dropEnd
  rw [List.mem_reverse]
  exact keep (List.mem_reverse.2 (keep h))

end Text

namespace HeaderLine

open Source (newline)

variable {limits : Limits} {l : List UInt8}

/-- The byte that may stand before the end of a line. -/
def carriageReturn : UInt8 := 13

/-- The bytes that a line of the length starts with. -/
def lengthName : List UInt8 := Utf8.encode lengthHeader

theorem ascii_lengthHeader : ∀ c ∈ lengthHeader, c.toNat < 128 := by
  have h : lengthHeader.all (·.toNat < 128) := by decide
  intro c hc
  exact of_decide_eq_true (List.all_eq_true.mp h c hc)

theorem lengthName_eq : lengthName = lengthHeader.map Utf8.byte :=
  Utf8.encode_ascii ascii_lengthHeader

/-- The text of a line without its end. -/
def textOf (l : List UInt8) : List Char := Text.dropEnd isLineEnd (Utf8.lenient l)

theorem ofBytes_concat_newline (l : List UInt8) :
    ofBytes limits (l ++ [newline]) = ofBytes limits l := by
  unfold ofBytes
  rw [Utf8.lenient_append_ascii (by decide), Utf8.lenient_nil, Text.dropEnd_concat (by decide)]

/-! ### Blank lines -/

theorem isLineEnd_iff {c : Char} : isLineEnd c = true ↔ c = '\r' ∨ c = '\n' := by
  simp [isLineEnd]

theorem textOf_eq_nil_iff (hl : newline ∉ l) : textOf l = [] ↔ ∀ b ∈ l, b = carriageReturn := by
  unfold textOf
  rw [Text.dropEnd_eq_nil_iff]
  constructor
  · intro h b hb
    have hascii : ∀ c ∈ Utf8.lenient l, c.toNat < 128 := by
      intro c hc
      rcases isLineEnd_iff.1 (h c hc) with rfl | rfl <;> decide
    rw [← Utf8.map_byte_lenient hascii] at hb
    obtain ⟨c, hc, rfl⟩ := List.mem_map.1 hb
    rcases isLineEnd_iff.1 (h c hc) with rfl | rfl
    · rfl
    · rw [Utf8.map_byte_lenient hascii] at hb
      exact absurd hb hl
  · intro h
    induction l with
    | nil => simp
    | cons b l ih =>
      obtain ⟨hb, ht⟩ := List.forall_mem_cons.1 h
      subst hb
      rw [Utf8.lenient_cons_ascii (by decide), List.forall_mem_cons]
      exact ⟨by decide, ih (fun hm => hl (List.mem_cons_of_mem _ hm)) ht⟩

theorem ofValue_ne_blank (v : List Char) : ofValue limits v ≠ .blank := by
  unfold ofValue
  split
  · split <;> simp
  · simp

theorem ofBytes_eq_blank_iff (hl : newline ∉ l) :
    ofBytes limits l = .blank ↔ ∀ b ∈ l, b = carriageReturn := by
  rw [← textOf_eq_nil_iff hl]
  show ofText limits (textOf l) = .blank ↔ _
  unfold ofText
  split
  · rename_i h
    simp [h]
  · rename_i h
    split
    · simp [h, ofValue_ne_blank]
    · simp [h]

/-! ### Lines of the length and others -/

theorem prefix_textOf_iff : lengthHeader <+: textOf l ↔ lengthName <+: l := by
  rw [lengthName_eq, ← Utf8.prefix_lenient_iff ascii_lengthHeader]
  unfold textOf
  constructor
  · intro h
    exact h.trans (Text.dropEnd_prefix _)
  · rintro ⟨t, ht⟩
    have hname : lengthHeader = lengthHeader.dropLast ++ [':'] := by decide
    rw [← ht, hname, List.append_assoc, List.singleton_append,
      Text.dropEnd_append_cons (by decide)]
    exact ⟨_, by rw [List.append_assoc, List.singleton_append]⟩

/-- **A line with another name is another header.** -/
theorem exists_other (hl : newline ∉ l) (hb : ¬ ∀ b ∈ l, b = carriageReturn)
    (hn : ¬ lengthName <+: l) : ∃ text, ofBytes limits l = .other text := by
  rw [← textOf_eq_nil_iff hl] at hb
  rw [← prefix_textOf_iff] at hn
  refine ⟨String.ofList (textOf l), ?_⟩
  show ofText limits (textOf l) = _
  unfold ofText
  rw [if_neg hb]
  cases h : lengthHeader.isPrefixOf? (textOf l) with
  | none => rfl
  | some v => exact absurd ⟨v, List.append_eq_of_isPrefixOf?_eq_some h⟩ hn

theorem ofText_name (v : List Char) :
    ofText limits (lengthHeader ++ v) = ofValue limits (Text.trim v) := by
  have hne : lengthHeader ++ v ≠ [] := List.append_ne_nil_of_left_ne_nil (by decide) v
  unfold ofText
  rw [if_neg hne, List.isPrefixOf?_eq_some_iff_append_eq.2 rfl]

/-! ### The length as it is written -/

theorem isBlank_of_isDigit {c : Char} (h : c.isDigit = true) : Text.isBlank c = false := by
  rw [Char.isDigit_iff_toNat] at h
  obtain ⟨h₁, h₂⟩ := h
  have h₁ : 48 ≤ c.toNat := h₁
  have h₂ : c.toNat ≤ 57 := h₂
  simp only [Text.isBlank, Bool.or_eq_false_iff, Bool.and_eq_false_iff, decide_eq_false_iff_not,
    beq_eq_false_iff_ne]
  omega

theorem isLineEnd_of_isDigit {c : Char} (h : c.isDigit = true) : isLineEnd c = false := by
  cases hc : isLineEnd c with
  | false => rfl
  | true => rcases isLineEnd_iff.1 hc with rfl | rfl <;> exact absurd h (by decide)

theorem ascii_of_isDigit {c : Char} (h : c.isDigit = true) : c.toNat < 128 := by
  rw [Char.isDigit_iff_toNat] at h
  have : c.toNat ≤ 57 := h.2
  omega

theorem trim_digits (n : Nat) : Text.trim (' ' :: Natural.digits n) = Natural.digits n := by
  have hb : ∀ c ∈ Natural.digits n, Text.isBlank c = false :=
    fun c hc => isBlank_of_isDigit (Natural.isDigit_of_mem_digits hc)
  unfold Text.trim
  rw [List.dropWhile_cons_of_pos (by decide)]
  obtain ⟨c, cs, hcs⟩ := List.exists_cons_of_ne_nil (Natural.digits_ne_nil n)
  rw [hcs] at hb ⊢
  rw [List.dropWhile_cons_of_neg (by simp [hb c (List.mem_cons_self ..)]),
    Text.dropEnd_of_forall hb]

/-- The line of the length without its end, as a writer gives it. -/
def written (n : Nat) : List UInt8 :=
  Utf8.encode (lengthHeader ++ ' ' :: Natural.digits n) ++ [carriageReturn]

theorem ascii_written (n : Nat) :
    ∀ c ∈ lengthHeader ++ ' ' :: Natural.digits n, c.toNat < 128 := by
  intro c hc
  rcases List.mem_append.1 hc with hc | hc
  · exact ascii_lengthHeader c hc
  · rcases List.mem_cons.1 hc with rfl | hc
    · decide
    · exact ascii_of_isDigit (Natural.isDigit_of_mem_digits hc)

theorem textOf_written (n : Nat) :
    textOf (written n) = lengthHeader ++ ' ' :: Natural.digits n := by
  unfold textOf written
  rw [Utf8.encode_ascii (ascii_written n), Utf8.lenient_map_byte_append (ascii_written n),
    Utf8.lenient_cons_ascii (by decide), Utf8.lenient_nil, Text.dropEnd_concat (by decide),
    Text.dropEnd_append_cons (by decide), Text.dropEnd_of_forall]
  exact fun c hc => isLineEnd_of_isDigit (Natural.isDigit_of_mem_digits hc)

theorem ofBytes_written_eq (n : Nat) :
    ofBytes limits (written n) = ofValue limits (Natural.digits n) := by
  show ofText limits (textOf (written n)) = _
  rw [textOf_written, ofText_name, trim_digits]

/-- **The length that a writer gives is read back**, as far as it fits a word. -/
theorem ofBytes_written {n : Nat} (hn : n < Natural.wordLimit) :
    ofBytes limits (written n) =
      if n ≤ limits.contentLength then .length n
      else .tooLarge n (String.ofList (Natural.digits n)) := by
  rw [ofBytes_written_eq]
  unfold ofValue
  rw [Natural.word?_digits hn]

/-- It is a good length if and only if it is not too large, and fits a word. -/
theorem ofBytes_written_eq_length_iff {n m : Nat} :
    ofBytes limits (written n) = .length m ↔
      n = m ∧ n ≤ limits.contentLength ∧ n < Natural.wordLimit := by
  by_cases hn : n < Natural.wordLimit
  · rw [ofBytes_written hn]
    split <;> simp [*]
  · have hword : Natural.word? (Natural.digits n) = none := by
      rw [Natural.word?_digits_eq, if_neg hn]
    rw [ofBytes_written_eq]
    unfold ofValue
    rw [hword]
    simp [hn]

theorem newline_not_mem_written (n : Nat) : newline ∉ written n := by
  unfold written
  rw [Utf8.encode_ascii (ascii_written n), List.mem_append]
  rintro (h | h)
  · obtain ⟨c, hc, h⟩ := List.mem_map.1 h
    have hn : c.toNat = 10 := by
      rw [← Utf8.toNat_byte (ascii_written n c hc), h]
      rfl
    have hc' : c = '\n' := Char.toNat_inj.1 hn
    subst hc'
    rcases List.mem_append.1 hc with hc | hc
    · exact absurd hc (by decide)
    · rcases List.mem_cons.1 hc with hc | hc
      · exact absurd hc (by decide)
      · exact absurd (Natural.isDigit_of_mem_digits hc) (by decide)
  · exact absurd h (by decide)

/-! ### Lines that are no length -/

theorem lengthName_prefix_of_length {n : Nat} (h : ofBytes limits l = .length n) :
    lengthName <+: l := by
  rw [← prefix_textOf_iff]
  have h : ofText limits (textOf l) = .length n := h
  unfold ofText at h
  split at h
  · cases h
  · cases hv : lengthHeader.isPrefixOf? (textOf l) with
    | none =>
      rw [hv] at h
      cases h
    | some v => exact ⟨v, List.append_eq_of_isPrefixOf?_eq_some hv⟩

theorem ofValue_capital {v : List Char} (h : 'C' ∈ v) :
    ofValue limits (Text.trim v) = .malformed (String.ofList (Text.trim v)) := by
  have hv : 'C' ∈ Text.trim v := Text.mem_trim (by decide) h
  unfold ofValue
  cases hw : Natural.word? (Text.trim v) with
  | none => rfl
  | some n => exact absurd (Natural.isDigit_of_word? hw _ hv) (by decide)

/-- **A line with a capital behind its first byte** is another header, or a bad length. -/
theorem ofBytes_capital {p t : List UInt8} (hp : p ≠ []) (hl : newline ∉ p ++ 67 :: t) :
    (∃ text, ofBytes limits (p ++ 67 :: t) = .other text) ∨
      ∃ value, ofBytes limits (p ++ 67 :: t) = .malformed value := by
  have hb : ¬ ∀ b ∈ p ++ 67 :: t, b = carriageReturn := by
    intro h
    exact absurd (h 67 (by simp)) (by decide)
  by_cases hn : lengthName <+: p ++ 67 :: t
  · right
    obtain ⟨v, hv⟩ := prefix_textOf_iff.2 hn
    have htext : textOf (p ++ 67 :: t) =
        Utf8.lenient p ++ 'C' :: Text.dropEnd isLineEnd (Utf8.lenient t) := by
      unfold textOf
      rw [Utf8.lenient_append_ascii (by decide)]
      exact Text.dropEnd_append_cons (by decide) _ _
    have hne : Utf8.lenient p ≠ [] := by
      obtain ⟨b, p, rfl⟩ := List.exists_cons_of_ne_nil hp
      rw [Utf8.lenient_cons]
      exact List.cons_ne_nil _ _
    obtain ⟨c, cs, hcs⟩ := List.exists_cons_of_ne_nil hne
    -- The name has one capital only, its first character.
    have hname : lengthHeader = 'C' :: lengthHeader.tail := by decide
    have hmem : 'C' ∈ lengthHeader.tail ++ v := by
      rw [htext, hcs, hname, List.cons_append, List.cons_append] at hv
      rw [(List.cons.inj hv).2]
      simp
    have hvalue : 'C' ∈ v := by
      rcases List.mem_append.1 hmem with h | h
      · exact absurd h (by decide)
      · exact h
    refine ⟨String.ofList (Text.trim v), ?_⟩
    show ofText limits (textOf _) = _
    rw [← hv, ofText_name, ofValue_capital hvalue]
  · exact Or.inl (exists_other hl hb hn)

end HeaderLine

end SyntaxServer

import SyntaxServer.Json.Printer
import SyntaxServer.Proofs.Json.Readers
import SyntaxServer.Proofs.Number.Digits

/-!
Reading what is written of a value without parts: words, strings and integers. A string is read back
whatever follows it (`plain_string`), an integer if what follows does not go on with it
(`plain_number`).
-/

namespace SyntaxServer.JsonText

open Json (escaped controlEscape stringChars)

variable {cs ds rest : List Char}

/-! ### Words -/

theorem plain_word (w : List Char) (hw : w ≠ []) (v : Json) (rest : List Char) :
    plain (word w hw v (w ++ rest)) = some (v, rest) := by
  have hpre : w.isPrefixOf (w ++ rest) = true :=
    List.isPrefixOf_iff_prefix.2 (List.prefix_append ..)
  unfold word
  rw [dif_pos hpre]
  exact congrArg some (Prod.ext rfl List.drop_left)

/-! ### Strings -/

theorem plain_bare {c : Char} (h : ¬ c.toNat < 0x20) (hc : c ≠ '\\') (rest : List Char) :
    plain (character (c :: rest)) = some (c, rest) := by
  rw [character.eq_3 _ _ (fun _ _ _ _ _ h _ => hc h) fun _ _ h _ => hc h, if_neg h]
  rfl

theorem plain_short {e c : Char} (h : shortEscape? e = some c) (rest : List Char) :
    plain (character ('\\' :: e :: rest)) = some (c, rest) := by
  have he : e ≠ 'u' := by
    rintro rfl
    cases h
  rw [character.eq_2 _ _ (fun _ _ _ _ _ h _ => he h), h]
  rfl

theorem hex4?_digitChars : ∀ n < 32, hex4? '0' '0' (Nat.digitChar (n / 16))
    (Nat.digitChar (n % 16)) = some n := by decide

theorem plain_controlEscape {c : Char} (h : c.toNat < 0x20) (rest : List Char) :
    plain (character (controlEscape c ++ rest)) = some (c, rest) := by
  have hhigh : isHighHalf c.toNat = false := by
    unfold isHighHalf
    rw [decide_eq_false (by omega : ¬ 0xD800 ≤ c.toNat)]
    rfl
  have hlow : isLowHalf c.toNat = false := by
    unfold isLowHalf
    rw [decide_eq_false (by omega : ¬ 0xDC00 ≤ c.toNat)]
    rfl
  show plain (character ('\\' :: 'u' :: '0' :: '0' :: _ :: _ :: rest)) = _
  rw [character.eq_1, hex4?_digitChars _ h]
  dsimp only
  rw [if_neg (Bool.eq_false_iff.1 hhigh), if_neg (Bool.eq_false_iff.1 hlow)]
  exact congrArg some (Prod.ext (Char.ofNat_toNat c) rfl)

/-- The three ways to write a character within quotes. -/
inductive Spells (c : Char) : List Char → Prop
  | short {e : Char} (h : shortEscape? e = some c) : Spells c ['\\', e]
  | control (h : c.toNat < 0x20) : Spells c (controlEscape c)
  | bare (h : ¬ c.toNat < 0x20) (hslash : c ≠ '\\') (hquote : c ≠ '"') : Spells c [c]

theorem spells_escaped (c : Char) : Spells c (escaped c) := by
  have short : ∀ {d e : Char} {cs : List Char}, shortEscape? e = some d →
      (c ≠ d → Spells c cs) → Spells c (if c = d then ['\\', e] else cs) := by
    intro d e cs hd hcs
    split
    case isTrue h => exact .short (h ▸ hd)
    case isFalse h => exact hcs h
  unfold escaped
  refine short rfl fun hquote => short rfl fun hslash => short rfl fun _ => short rfl fun _ =>
    short rfl fun _ => short rfl fun _ => short rfl fun _ => ?_
  split
  case isTrue h => exact .control h
  case isFalse h => exact .bare h hslash hquote

/-- **What is written of a character is read as that character.** -/
theorem plain_escaped (c : Char) (rest : List Char) :
    plain (character (escaped c ++ rest)) = some (c, rest) := by
  have hspell := spells_escaped c
  generalize escaped c = cs at hspell
  cases hspell with
  | short h => exact plain_short h rest
  | control h => exact plain_controlEscape h rest
  | bare h hslash _ => exact plain_bare h hslash rest

theorem escaped_ne_quote (c : Char) (rest ds : List Char) : escaped c ++ rest ≠ '"' :: ds := by
  have hspell := spells_escaped c
  generalize escaped c = cs at hspell
  intro heq
  cases hspell with
  | short _ => cases heq
  | control _ => cases heq
  | bare _ _ hquote => exact hquote (List.cons.inj heq).1

theorem plain_stringBody (s acc rest : List Char) :
    plain (stringBody acc (s.flatMap escaped ++ '"' :: rest)) = some (acc.reverse ++ s, rest) := by
  induction s generalizing acc with
  | nil =>
    rw [List.append_nil, List.flatMap_nil, List.nil_append, stringBody.eq_1]
    rfl
  | cons c s ih =>
    rw [List.flatMap_cons, List.append_assoc]
    obtain ⟨hlt, hc⟩ := plain_eq_some.1 (plain_escaped c (s.flatMap escaped ++ '"' :: rest))
    rw [stringBody.eq_2 _ _ (escaped_ne_quote c _), hc]
    dsimp only
    rw [plain_widen, ih (c :: acc), List.reverse_cons, List.append_assoc]
    rfl

/-- **A written string is read back.** -/
theorem plain_string (s : String) (rest : List Char) :
    plain (string (stringChars s ++ rest)) = some (s, rest) := by
  show plain (string ('"' :: s.toList.flatMap escaped ++ ['"'] ++ rest)) = _
  rw [List.cons_append, List.cons_append, List.append_assoc, List.singleton_append, string.eq_1,
    plain_map_widen String.ofList, plain_stringBody, Option.map_some, List.reverse_nil,
    List.nil_append, String.ofList_toList]

/-! ### Integers -/

/-- A text that does not go on with a number before it. -/
def Ends (rest : List Char) : Prop :=
  ∀ c ∈ rest.head?, Natural.digit? c = none ∧ c ≠ '.' ∧ c ≠ 'e' ∧ c ≠ 'E'

theorem digitRun_of_ends (h : Ends rest) : digitRun rest = ([], rest) := by
  cases rest with
  | nil => rfl
  | cons c rest =>
    unfold digitRun
    rw [(h c rfl).1]

theorem digitRun_append (hds : ∀ c ∈ ds, c.isDigit = true) (h : Ends rest) :
    digitRun (ds ++ rest) = (ds.map fun c => c.toNat - '0'.toNat, rest) := by
  induction ds with
  | nil => exact digitRun_of_ends h
  | cons c ds ih =>
    obtain ⟨hc, hds⟩ := List.forall_mem_cons.1 hds
    rw [List.cons_append, digitRun, Natural.digit?_eq_some_iff.2 ⟨hc, rfl⟩]
    dsimp only
    rw [ih hds]
    rfl

theorem ofDigits_map (ds : List Char) :
    ofDigits (ds.map fun c => c.toNat - '0'.toNat) = Nat.ofDigitChars 10 ds 0 := by
  unfold ofDigits Nat.ofDigitChars
  rw [List.foldl_map]
  simp only [Nat.mul_comm]

theorem head?_digits {n : Nat} (h : 0 < n) : (Natural.digits n).head? ≠ some '0' := by
  induction n using Nat.strongRecOn with
  | ind n ih =>
    unfold Natural.digits at ih ⊢
    by_cases hn : n < 10
    · rw [Nat.toDigits_of_lt_base hn]
      have hdigit : ∀ n < 10, 0 < n → Nat.digitChar n ≠ '0' := by decide
      exact fun heq => hdigit n hn h (Option.some.inj heq)
    · have hne := Nat.toDigits_ne_nil (n := n / 10) (b := 10)
      obtain ⟨c, cs, hcs⟩ := List.exists_cons_of_ne_nil hne
      have hhead := ih (n / 10) (by omega) (by omega)
      rw [hcs] at hhead
      rwa [Nat.toDigits_of_base_le (by decide) (by omega), hcs]

theorem digits_of_head {n : Nat} {ds : List Nat}
    (h : ((Natural.digits n).map fun c => c.toNat - '0'.toNat) = 0 :: ds) : ds = [] := by
  rcases Nat.eq_zero_or_pos n with rfl | hn
  · exact (List.cons.inj h).2.symm
  · obtain ⟨c, cs, hcs⟩ := List.exists_cons_of_ne_nil (Natural.digits_ne_nil n)
    rw [hcs, List.map_cons] at h
    have hdigit := Natural.isDigit_of_mem_digits (hcs ▸ List.mem_cons_self : c ∈ Natural.digits n)
    have hzero : c.toNat - '0'.toNat = 0 := (List.cons.inj h).1
    have hc : c = '0' := by
      rw [Char.isDigit_iff_toNat] at hdigit
      refine Char.toNat_inj.1 ?_
      have : '0'.toNat = 48 := rfl
      omega
    rw [hc] at hcs
    exact absurd (congrArg List.head? hcs) (head?_digits hn)

theorem plain_wholePart (n : Nat) (h : Ends rest) :
    plain (wholePart (Natural.digits n ++ rest)) =
      some ((Natural.digits n).map fun c => c.toNat - '0'.toNat, rest) := by
  have hrun := digitRun_append (fun c => Natural.isDigit_of_mem_digits (n := n)) h
  obtain ⟨c, cs, hcs⟩ := List.exists_cons_of_ne_nil (Natural.digits_ne_nil n)
  unfold wholePart
  split
  case h_1 heq =>
    rw [hrun, hcs] at heq
    cases heq
  case h_2 d ds rest' heq =>
    rw [hrun] at heq
    obtain ⟨hds, hrest⟩ := Prod.mk.inj heq
    have hzero : ¬ (d = 0 ∧ ds ≠ []) := by
      rintro ⟨rfl, hne⟩
      exact hne (digits_of_head hds)
    rw [if_neg hzero]
    exact congrArg some (Prod.ext hds.symm hrest.symm)

theorem fractionPart_of_ends (h : Ends rest) :
    fractionPart rest = some (none, ⟨rest, Nat.le_refl _⟩) := by
  refine fractionPart.eq_2 rest ?_
  rintro ds rfl
  exact (h '.' rfl).2.1 rfl

theorem exponentPart_of_ends (h : Ends rest) :
    exponentPart rest = some (none, ⟨rest, Nat.le_refl _⟩) := by
  cases rest with
  | nil => rfl
  | cons c rest =>
    obtain ⟨-, -, he, hE⟩ := h c rfl
    exact if_neg fun hc => hc.elim he hE

theorem plain_unsigned (negative : Bool) (n : Nat) (h : Ends rest) {x : Number}
    (hx : integerOf negative ((Natural.digits n).map fun c => c.toNat - '0'.toNat) = some x) :
    plain (unsigned negative (Natural.digits n ++ rest)) = some (x, rest) := by
  obtain ⟨hlt, hwhole⟩ := plain_eq_some.1 (plain_wholePart n h)
  unfold unsigned
  simp only [hwhole, Option.bind_eq_bind, Option.bind_some, fractionPart_of_ends h,
    exponentPart_of_ends h, numberOf, hx]
  rfl

/-- The integers that a number without a point or an exponent may be: those of 64 bits, with a sign
or without. -/
theorem integerOf_natural {n : Nat} (h : Width.nat64.holds n) :
    integerOf false ((Natural.digits n).map fun c => c.toNat - '0'.toNat) =
      some (.integer n) := by
  unfold integerOf
  rw [ofDigits_map]
  unfold Natural.digits
  rw [Nat.ofDigitChars_ten_toDigits]
  exact (if_neg Bool.false_ne_true).trans (if_pos h)

theorem integerOf_negative {n : Nat} (hn : 0 < n) (h : Width.int64.holds (-n)) :
    integerOf true ((Natural.digits n).map fun c => c.toNat - '0'.toNat) =
      some (.integer (-n)) := by
  unfold integerOf
  rw [ofDigits_map]
  unfold Natural.digits
  rw [Nat.ofDigitChars_ten_toDigits]
  exact (if_pos rfl).trans (if_pos ⟨hn, h⟩)

theorem toList_integer (n : Int) : (toString n).toList =
    match n with
    | .ofNat m => Natural.digits m
    | .negSucc m => '-' :: Natural.digits (m + 1) := by
  cases n with
  | ofNat m => exact String.toList_ofList
  | negSucc m =>
    show ("-" ++ String.ofList (Nat.toDigits 10 (m + 1))).toList = _
    rw [String.toList_append]
    exact congrArg ('-' :: ·) String.toList_ofList

theorem head_integer (n : Int) :
    ∃ c cs, (toString n).toList = c :: cs ∧ (c = '-' ∨ c.isDigit = true) := by
  rw [toList_integer]
  cases n with
  | ofNat m =>
    obtain ⟨c, cs, hcs⟩ := List.exists_cons_of_ne_nil (Natural.digits_ne_nil m)
    exact ⟨c, cs, hcs, Or.inr (Natural.isDigit_of_mem_digits (hcs ▸ List.mem_cons_self))⟩
  | negSucc m => exact ⟨_, _, rfl, Or.inl rfl⟩

/-- **A written integer is read back.** -/
theorem plain_number {n : Int} (hn : (Width.int64.holds n || Width.nat64.holds n) = true)
    (h : Ends rest) :
    plain (number ((toString n).toList ++ rest)) = some (.integer n, rest) := by
  rw [Bool.or_eq_true, Width.holds_iff, Width.holds_iff] at hn
  rw [toList_integer]
  cases n with
  | ofNat m =>
    have hm : Width.nat64.holds m = true := by
      rw [Int.ofNat_eq_natCast] at hn
      rw [Width.holds_iff]
      simp only [Width.int64, Width.nat64] at hn ⊢
      omega
    rw [number.eq_2]
    · exact plain_unsigned false m h (integerOf_natural hm)
    · intro cs hcs
      have hsign : ('-' : Char) ∈ (Natural.digits m ++ rest).head? := hcs ▸ rfl
      obtain ⟨c, ds, hds⟩ := List.exists_cons_of_ne_nil (Natural.digits_ne_nil m)
      have hdigit := Natural.isDigit_of_mem_digits (hds ▸ List.mem_cons_self : c ∈ _)
      rw [hds] at hsign
      rw [Option.some.inj hsign] at hdigit
      cases hdigit
  | negSucc m =>
    have hm : Width.int64.holds (-((m + 1 : Nat) : Int)) = true := by
      rw [Width.holds_iff]
      simp only [Width.int64, Width.nat64] at hn ⊢
      omega
    have hread := plain_unsigned true (m + 1) h (integerOf_negative (Nat.succ_pos m) hm)
    dsimp only
    rw [List.cons_append, number.eq_1, plain_widen, hread]
    rfl

end SyntaxServer.JsonText

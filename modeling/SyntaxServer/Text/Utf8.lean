/-!
UTF-8: the bytes of a text, the character at the head of a byte string, and the two ways to read
a whole byte string. The strict one refuses ill-formed bytes; the lenient one writes a replacement
character for every ill-formed part.
-/

namespace SyntaxServer.Utf8

/-! ### Writing -/

def encode (cs : List Char) : List UInt8 := cs.flatMap String.utf8EncodeChar

def ofString (s : String) : List UInt8 := encode s.toList

@[simp] theorem encode_nil : encode [] = [] := rfl

@[simp] theorem encode_cons (c : Char) (cs : List Char) :
    encode (c :: cs) = String.utf8EncodeChar c ++ encode cs := by simp [encode]

@[simp] theorem encode_append (cs ds : List Char) :
    encode (cs ++ ds) = encode cs ++ encode ds := by simp [encode]

/-! ### The character at the head -/

/-- What a first byte promises: how many bytes follow it, the bounds of the next one, and the
first bits of the character. -/
structure Lead where
  tails : Nat
  low : UInt8
  high : UInt8
  bits : Nat

/-- Reads a first byte; none if no character starts with it. -/
def lead? (b : UInt8) : Option Lead :=
  let n := b.toNat
  if n ≤ 0x7F then some ⟨0, 0x80, 0xBF, n⟩
  else if 0xC2 ≤ n ∧ n ≤ 0xDF then some ⟨1, 0x80, 0xBF, n - 0xC0⟩
  else if n = 0xE0 then some ⟨2, 0xA0, 0xBF, 0⟩
  else if n = 0xED then some ⟨2, 0x80, 0x9F, 0xD⟩
  else if 0xE1 ≤ n ∧ n ≤ 0xEF then some ⟨2, 0x80, 0xBF, n - 0xE0⟩
  else if n = 0xF0 then some ⟨3, 0x90, 0xBF, 0⟩
  else if 0xF1 ≤ n ∧ n ≤ 0xF3 then some ⟨3, 0x80, 0xBF, n - 0xF0⟩
  else if n = 0xF4 then some ⟨3, 0x80, 0x8F, 4⟩
  else none

/-- Reads the bytes that follow a first one, the next of them between `low` and `high`. Without
a character, the rest starts at the first byte that does not fit. -/
def tails : Nat → UInt8 → UInt8 → Nat → List UInt8 → Option Nat × List UInt8
  | 0, _, _, bits, bs => (some bits, bs)
  | _ + 1, _, _, _, [] => (none, [])
  | n + 1, low, high, bits, b :: bs =>
    if low ≤ b ∧ b ≤ high then tails n 0x80 0xBF (bits * 64 + (b.toNat - 0x80)) bs
    else (none, b :: bs)

/-- The character that starts with the byte `b`, and what follows it; none for an ill-formed
part, which is as long as a well-formed beginning goes. -/
def head (b : UInt8) (bs : List UInt8) : Option Char × List UInt8 :=
  match lead? b with
  | none => (none, bs)
  | some l =>
    let r := tails l.tails l.low l.high l.bits bs
    (r.1.map Char.ofNat, r.2)

theorem length_tails (n : Nat) (low high : UInt8) (bits : Nat) (bs : List UInt8) :
    (tails n low high bits bs).2.length ≤ bs.length := by
  induction n generalizing low high bits bs with
  | zero => simp [tails]
  | succ n ih =>
    cases bs with
    | nil => simp [tails]
    | cons b bs =>
      unfold tails
      split
      · exact Nat.le_succ_of_le (ih ..)
      · exact Nat.le_refl _

theorem length_head (b : UInt8) (bs : List UInt8) : (head b bs).2.length ≤ bs.length := by
  unfold head
  split
  · exact Nat.le_refl _
  · exact length_tails ..

/-! ### Reading all of it -/

/-- The text of well-formed bytes. -/
def decode? : List UInt8 → Option (List Char)
  | [] => some []
  | b :: bs =>
    match (head b bs).1 with
    | none => none
    | some c => (decode? (head b bs).2).map (c :: ·)
termination_by bs => bs.length
decreasing_by exact Nat.lt_succ_of_le (length_head b bs)

/-- The text of any bytes, with a replacement character for every ill-formed part. -/
def lenient : List UInt8 → List Char
  | [] => []
  | b :: bs => (head b bs).1.getD '\uFFFD' :: lenient (head b bs).2
termination_by bs => bs.length
decreasing_by exact Nat.lt_succ_of_le (length_head b bs)

end SyntaxServer.Utf8

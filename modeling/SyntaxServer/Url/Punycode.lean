/-!
Punycode: labels of a host name beyond ASCII, written in ASCII and read back. The characters beyond
ASCII follow the others as differences, in the order of their numbers, with digits of a base that
adapts.
-/

namespace SyntaxServer.Url.Punycode

/-- The digit of a value below 36: letters, then figures. -/
def digit (d : Nat) : Char := if d < 26 then Char.ofNat (0x61 + d) else Char.ofNat (0x30 + d - 26)

/-- The threshold of the digit at a place. -/
def threshold (k bias : Nat) : Nat := if k ≤ bias then 1 else min 26 (k - bias)

theorem threshold_pos (k bias : Nat) : 1 ≤ threshold k bias := by
  unfold threshold; split <;> omega

/-! ### Writing -/

/-- The digits of a difference, the lowest first. -/
def digits (bias k q : Nat) : List Char :=
  let t := threshold k bias
  if q < t then [digit q]
  else digit (t + (q - t) % (36 - t)) :: digits bias (k + 36) ((q - t) / (36 - t))
termination_by q
decreasing_by
  have := threshold_pos k bias
  exact Nat.lt_of_le_of_lt (Nat.div_le_self ..) (by omega)

/-- Divides a difference until it is small, and counts the places. -/
def reduce (delta k : Nat) : Nat :=
  if 455 < delta then reduce (delta / 35) (k + 36) else k + 36 * delta / (delta + 38)
termination_by delta
decreasing_by omega

/-- The bias after a difference. -/
def adapt (delta points : Nat) (first : Bool) : Nat :=
  let d := if first then delta / 700 else delta / 2
  reduce (d + d / points) 0

structure State where
  out : List Char
  delta : Nat
  bias : Nat
  done : Nat

/-- Passes one character of the label while the number `n` is being written. -/
def pass (basic n : Nat) (s : State) (c : Char) : State :=
  if c.toNat < n then { s with delta := s.delta + 1 }
  else if c.toNat = n then
    { out := s.out ++ digits s.bias 36 s.delta, delta := 0
      bias := adapt s.delta (s.done + 1) (s.done = basic), done := s.done + 1 }
  else s

/-- Writes the characters of the numbers `ns`, in ascending order, from the number `n` on. -/
def rounds (label : List Char) (basic : Nat) : Nat → State → List Nat → State
  | _, s, [] => s
  | n, s, m :: ms =>
    let s := { s with delta := s.delta + (m - n) * (s.done + 1) }
    let s := label.foldl (pass basic m) s
    rounds label basic (m + 1) { s with delta := s.delta + 1 } ms

/-- The label in ASCII, without the mark before it. -/
def encode (label : List Char) : List Char :=
  let basic := label.filter (·.toNat < 0x80)
  let numbers := ((label.filter (0x80 ≤ ·.toNat)).map Char.toNat).mergeSort.eraseReps
  let start : State := ⟨[], 0, 72, basic.length⟩
  basic ++ (if basic = [] then [] else ['-']) ++ (rounds label basic.length 0x80 start numbers).out

/-! ### Reading -/

/-- The value of a digit; letters of both cases have one. -/
def digitValue? (c : Char) : Option Nat :=
  let n := c.toNat
  if 0x61 ≤ n ∧ n ≤ 0x7A then some (n - 0x61)
  else if 0x41 ≤ n ∧ n ≤ 0x5A then some (n - 0x41)
  else if 0x30 ≤ n ∧ n ≤ 0x39 then some (n - 0x30 + 26)
  else none

/-- Every number on the way is below this one. -/
def limit : Nat := 4294967296

/-- Adds a difference to a sum: its digits from the place `k` and the weight `w` on. Gives the sum
and the text after the last digit. -/
def readDifference (bias : Nat) : Nat → Nat → Nat → List Char → Option (Nat × List Char)
  | _, _, _, [] => none
  | k, w, sum, c :: cs =>
    match digitValue? c with
    | none => none
    | some d =>
      let t := threshold k bias
      if limit ≤ d * w ∨ limit ≤ sum + d * w then none
      else if d < t then some (sum + d * w, cs)
      else if limit ≤ w * (36 - t) then none
      else readDifference bias (k + 36) (w * (36 - t)) (sum + d * w) cs

theorem readDifference_length {bias k w sum i : Nat} {cs rest : List Char}
    (h : readDifference bias k w sum cs = some (i, rest)) : rest.length < cs.length := by
  induction cs generalizing k w sum with
  | nil => simp [readDifference] at h
  | cons c cs ih =>
    simp only [readDifference] at h
    split at h
    · cases h
    · split at h
      · cases h
      · split at h
        · cases h; simp
        · split at h
          · cases h
          · exact Nat.lt_succ_of_lt (ih h)

/-- Inserts the characters of the differences `cs` into the label `out`. The next one goes to the
place `i` if its number is `n`, and further places stand for higher numbers. -/
def insertAll (out : List Char) (n i bias : Nat) (cs : List Char) : Option (List Char) :=
  if cs = [] then some out
  else
    match _h : readDifference bias 36 1 i cs with
    | none => none
    | some (j, rest) =>
      let points := out.length + 1
      let m := n + j / points
      if m.isValidChar then
        insertAll (out.insertIdx (j % points) (Char.ofNat m)) m (j % points + 1)
          (adapt (j - i) points (i = 0)) rest
      else none
termination_by cs.length
decreasing_by exact readDifference_length _h

/-- The label of a text in ASCII, without the mark before it. -/
def decode? (cs : List Char) : Option (List Char) :=
  let tail := (cs.reverse.takeWhile (· ≠ '-')).reverse
  let basic := cs.take (cs.length - tail.length - 1)
  insertAll basic 0x80 0 72 (if basic = [] then cs else tail)

end SyntaxServer.Url.Punycode

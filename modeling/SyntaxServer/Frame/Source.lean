/-!
Byte streams as they arrive: chunks, and the way the stream ends. A read takes bytes of one chunk
only; a line and a run of bytes are put together from many reads.
-/

namespace SyntaxServer

/-- How a stream ends after its last byte. -/
inductive StreamEnd where
  | closed
  | failed (cause : String)
  deriving DecidableEq, Repr

/-- A stream: the chunks in which it arrives, and its end. -/
structure Source where
  chunks : List (List UInt8)
  ending : StreamEnd
  deriving Repr

namespace Source

def bytes (s : Source) : List UInt8 := s.chunks.flatten

/-- The stream of some bytes that arrive at once. -/
def ofBytes (bs : List UInt8) (e : StreamEnd) : Source := ⟨[bs], e⟩

/-- Cuts bytes into chunks of `n + 1` bytes. -/
def cut (n : Nat) : List UInt8 → List (List UInt8)
  | [] => []
  | b :: bs => (b :: bs.take n) :: cut n (bs.drop n)
termination_by bs => bs.length
decreasing_by simp only [List.length_drop, List.length_cons]; omega

/-- The byte that ends a line. -/
def newline : UInt8 := 10

/-- The bytes of a chunk through the first line end, at most `n`, and the others. -/
def splitLine : Nat → List UInt8 → List UInt8 × List UInt8
  | 0, bs => ([], bs)
  | _ + 1, [] => ([], [])
  | n + 1, b :: bs =>
    if b = newline then ([b], bs)
    else
      let r := splitLine n bs
      (b :: r.1, r.2)

/-- A line through its end, at most `n` bytes of it, put together from chunks, and the chunks after
it. -/
def lineOf : Nat → List (List UInt8) → List UInt8 × List (List UInt8)
  | _, [] => ([], [])
  | n, c :: cs =>
    let p := splitLine n c
    if p.1.getLast? = some newline ∨ p.1.length = n then (p.1, p.2 :: cs)
    else
      let r := lineOf (n - p.1.length) cs
      (p.1 ++ r.1, r.2)

/-- At most `n` bytes, put together from chunks, and the chunks after them. -/
def takeOf : Nat → List (List UInt8) → List UInt8 × List (List UInt8)
  | _, [] => ([], [])
  | n, c :: cs =>
    if n ≤ c.length then (c.take n, c.drop n :: cs)
    else
      let r := takeOf (n - c.length) cs
      (c ++ r.1, r.2)

/-- Reads a line through its end, at most `n` bytes of it. -/
def line (n : Nat) (s : Source) : List UInt8 × Source :=
  let r := lineOf n s.chunks
  (r.1, { s with chunks := r.2 })

/-- Reads `n` bytes, or all there are. -/
def take (n : Nat) (s : Source) : List UInt8 × Source :=
  let r := takeOf n s.chunks
  (r.1, { s with chunks := r.2 })

/-! ### Reads only see the bytes -/

theorem flatten_cut (n : Nat) (bs : List UInt8) : (cut n bs).flatten = bs := by
  fun_induction cut n bs with
  | case1 => rfl
  | case2 b bs ih => rw [List.flatten_cons, ih, List.cons_append, List.take_append_drop]

theorem length_splitLine (n : Nat) (bs : List UInt8) : (splitLine n bs).1.length ≤ n := by
  induction n generalizing bs with
  | zero => simp [splitLine]
  | succ n ih =>
    cases bs with
    | nil => simp [splitLine]
    | cons b bs =>
      unfold splitLine
      split
      · simp
      · simpa using ih bs

theorem splitLine_append (n : Nat) (bs : List UInt8) :
    (splitLine n bs).1 ++ (splitLine n bs).2 = bs := by
  induction n generalizing bs with
  | zero => simp [splitLine]
  | succ n ih =>
    cases bs with
    | nil => simp [splitLine]
    | cons b bs =>
      unfold splitLine
      split
      · simp
      · simpa using ih bs

theorem lineOf_append (n : Nat) (cs : List (List UInt8)) :
    (lineOf n cs).1 ++ (lineOf n cs).2.flatten = cs.flatten := by
  induction cs generalizing n with
  | nil => simp [lineOf]
  | cons c cs ih =>
    have hc := splitLine_append n c
    unfold lineOf
    dsimp only
    split
    · simp [← List.append_assoc, hc]
    · simp only [List.append_assoc, ih, List.flatten_cons]
      rename_i h
      have : (splitLine n c).2 = [] := by
        clear ih
        induction n generalizing c with
        | zero => simp [splitLine] at h
        | succ n ih =>
          cases c with
          | nil => simp [splitLine]
          | cons b bs =>
            unfold splitLine at h ⊢
            split
            · rename_i hb; simp [hb] at h
            · rename_i hb
              simp only [hb, if_false] at h
              apply ih bs (splitLine_append n bs)
              rintro (h' | h')
              · exact h (.inl (by simp [List.getLast?_cons, h']))
              · exact h (.inr (by simp [h']))
      rw [this, List.append_nil] at hc
      rw [hc]

theorem line_append (n : Nat) (s : Source) : (s.line n).1 ++ (s.line n).2.bytes = s.bytes :=
  lineOf_append n s.chunks

end Source

end SyntaxServer

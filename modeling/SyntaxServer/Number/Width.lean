/-!
Integers of a fixed width: the least and the greatest of them. The bounds are written out, so that
they are plain numbers to arithmetic.
-/

namespace SyntaxServer

/-- The integers of a width: a name, the least one and the greatest one. -/
structure Width where
  name : String
  least : Int
  greatest : Int

namespace Width

def holds (w : Width) (n : Int) : Bool := w.least ≤ n && n ≤ w.greatest

def int64 : Width := ⟨"i64", -9223372036854775808, 9223372036854775807⟩

def int32 : Width := ⟨"i32", -2147483648, 2147483647⟩

def nat64 : Width := ⟨"u64", 0, 18446744073709551615⟩

def nat32 : Width := ⟨"u32", 0, 4294967295⟩

/-- The lowest 32 bits of a natural number. -/
def low32 (n : Nat) : Nat := n % 4294967296

theorem low32_of_lt {n : Nat} (h : n < 4294967296) : low32 n = n := Nat.mod_eq_of_lt h

theorem holds_iff {w : Width} {n : Int} : w.holds n ↔ w.least ≤ n ∧ n ≤ w.greatest := by
  simp [holds]

end Width

end SyntaxServer

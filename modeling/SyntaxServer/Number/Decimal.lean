import SyntaxServer.Number.Natural
import SyntaxServer.Number.Binary64

/-!
Reading a decimal number into the 64-bit binary format, with two roundings: the digits that fit
a 64-bit word are one number, rounded, and that is multiplied by or divided by a power of ten,
rounded itself. So the number read may lie one step beside the nearest one.
-/

namespace SyntaxServer.Decimal

/-- Digits read so far: as a word, and the power of ten that those beyond the word leave. -/
structure Scale where
  word : Nat
  power : Int

/-- Takes the digits before the point. From the first one that does not fit the word on, they
count as places. -/
def whole : Nat → List Nat → Scale
  | w, [] => ⟨w, 0⟩
  | w, d :: ds =>
    if w * 10 + d < Natural.wordLimit then whole (w * 10 + d) ds else ⟨w, ds.length + 1⟩

/-- Takes the digits after the point, up to the first one that does not fit the word. -/
def fraction : Scale → List Nat → Scale
  | s, [] => s
  | s, d :: ds =>
    if s.word * 10 + d < Natural.wordLimit then fraction ⟨s.word * 10 + d, s.power - 1⟩ ds else s

/-- A power of ten, rounded. Those to the 308th are in range. -/
def power (k : Nat) : Binary64 := (Binary64.ofNat (Nat.pow 10 k)).getD .zero

/-- A number divided by a power of ten, and as many times before by the greatest one. -/
def lower (x : Binary64) (k : Nat) : Nat → Option Binary64
  | 0 => x.div (power k)
  | n + 1 => if x.significand = 0 then some x else (x.div (power 308)).bind fun y => lower y k n

/-- A number times a power of ten, none beyond the range. -/
def scale (x : Binary64) : Int → Option Binary64
  | .ofNat e => if x.significand = 0 then some x else if e ≤ 308 then x.mul (power e) else none
  | .negSucc e => lower x (e % 308 + 1) (e / 308)

/-- The number of the digits before and after the point and of the exponent. -/
def read? (before after : List Nat) (exponent : Int) : Option Binary64 :=
  let s := fraction (whole 0 before) after
  (Binary64.ofNat s.word).bind fun x => scale x (s.power + exponent)

end SyntaxServer.Decimal

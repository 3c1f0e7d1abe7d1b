/-!
Finite numbers of the 64-bit binary format, without their sign: rounding a quotient of natural
numbers to the nearest of them, and their product and quotient, which are the exact ones rounded.
-/

namespace SyntaxServer

/-- The number `significand · 2 ^ exponent`. In normal form the significand is below `2 ^ 53`, the
exponent at least `-1074`, and one of them is on its bound. -/
structure Binary64 where
  significand : Nat
  exponent : Int
  deriving DecidableEq, Repr

namespace Binary64

def zero : Binary64 := ⟨0, -1074⟩

/-- The least significand above all: `2 ^ 53`. -/
def limit : Nat := 9007199254740992

def minExponent : Int := -1074

def maxExponent : Int := 971

/-- The quotient `num / den`, divided by `2 ^ e`. -/
def shifted (num den : Nat) (e : Int) : Nat × Nat :=
  if 0 ≤ e then (num, den * Nat.pow 2 e.toNat) else (num * Nat.pow 2 (-e).toNat, den)

/-- The natural number nearest to a quotient; a half goes to the even one. -/
def nearest (num den : Nat) : Nat :=
  let q := num / den
  let r := num % den
  if 2 * r < den then q
  else if den < 2 * r then q + 1
  else if q % 2 = 0 then q else q + 1

/-- The exponent at which a quotient above zero has a significand of 53 bits, or the least one. -/
def exponentOf (num den : Nat) : Int :=
  let e : Int := max ((num.log2 : Int) - den.log2 - 53) minExponent
  let s := shifted num den e
  if s.2 * limit ≤ s.1 then e + 1 else e

/-- The number nearest to `num / den`, none if that is beyond the greatest one. -/
def round (num den : Nat) : Option Binary64 :=
  if num = 0 then some zero
  else
    let e := exponentOf num den
    let s := shifted num den e
    let m := nearest s.1 s.2
    let x : Binary64 := if m = limit then ⟨limit / 2, e + 1⟩ else ⟨m, e⟩
    if maxExponent < x.exponent then none else some x

/-- The number nearest to a natural one. -/
def ofNat (n : Nat) : Option Binary64 := round n 1

def mul (x y : Binary64) : Option Binary64 :=
  let s := shifted (x.significand * y.significand) 1 (-(x.exponent + y.exponent))
  round s.1 s.2

def div (x y : Binary64) : Option Binary64 :=
  let s := shifted x.significand y.significand (y.exponent - x.exponent)
  round s.1 s.2

end Binary64

end SyntaxServer

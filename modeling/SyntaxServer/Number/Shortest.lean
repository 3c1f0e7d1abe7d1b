import SyntaxServer.Number.Natural
import SyntaxServer.Number.Binary64

/-!
The decimal text of a 64-bit binary number: the fewest digits that read back as the number, the
nearest of those to it, laid out with a point or with an exponent.

A number stands for the reals that round to it. On the decimal grids from the coarse to the fine,
the first that has a point among them gives the digits.
-/

namespace SyntaxServer.Binary64

/-! ### The reals of a number -/

/-- The reals that round to a number, in quarters of the unit of its significand. -/
structure Cell where
  low : Nat
  mid : Nat
  high : Nat
  closed : Bool

/-- Below a power of two the neighbours lie at half the distance. -/
def cell (x : Binary64) : Cell :=
  let m := 4 * x.significand
  let step := if x.significand = limit / 2 ∧ minExponent < x.exponent then 1 else 2
  ⟨m - step, m, m + 2, x.significand % 2 = 0⟩

/-- A point of a cell: its bounds belong to it if the significand is even. -/
def Cell.holds (c : Cell) (num den : Nat) : Bool :=
  if c.closed then c.low * den ≤ num && num ≤ c.high * den
  else c.low * den < num && num < c.high * den

/-! ### The digits -/

/-- The points of the grid `10 ^ k` next to the number, in the order in which they are taken:
the nearer one first, of two as near the even one. -/
def neighbours (x : Binary64) (k : Int) : List Nat :=
  let s := shifted x.significand 1 (-x.exponent)
  let t := if 0 ≤ k then (s.1, s.2 * Nat.pow 10 k.toNat) else (s.1 * Nat.pow 10 (-k).toNat, s.2)
  let q := t.1 / t.2
  let n := nearest t.1 t.2
  if n = q then [q, q + 1] else [q + 1, q]

/-- A point `d · 10 ^ k` of a grid reads back as the number. -/
def readsBack (x : Binary64) (d : Nat) (k : Int) : Bool :=
  let s := shifted d 1 (x.exponent - 2)
  let t := if 0 ≤ k then (s.1 * Nat.pow 10 k.toNat, s.2) else (s.1, s.2 * Nat.pow 10 (-k).toNat)
  x.cell.holds t.1 t.2

/-- The first point that reads back on `n + 1` grids, from `10 ^ k` on. -/
def searchGrids (x : Binary64) : Nat → Int → Nat × Int
  | 0, k => ((neighbours x k).headD 0, k)
  | n + 1, k =>
    match (neighbours x k).find? fun d => readsBack x d k with
    | some d => (d, k)
    | none => searchGrids x n (k - 1)

/-- Moves the zeros at the end of a number into the exponent. -/
def dropZeros (d : Nat) (k : Int) : Nat × Int :=
  if h : d ≠ 0 ∧ d % 10 = 0 then dropZeros (d / 10) (k + 1) else (d, k)
termination_by d
decreasing_by exact Nat.div_lt_self (Nat.pos_of_ne_zero h.1) (by decide)

/-- A power of ten at which the number is zero or one. -/
def coarsest (x : Binary64) : Int := (x.significand.log2 + 1 + x.exponent) * 30103 / 100000 + 1

/-- The shortest decimal of a number above zero: its digits and its power of ten. Seventeen digits
always read back. -/
def shortest (x : Binary64) : Nat × Int :=
  let r := searchGrids x 20 x.coarsest
  dropZeros r.1 r.2

/-! ### The layout -/

/-- A number has a point, and no exponent, if its first digit stands from the fifth place after the
point to the sixteenth before it. -/
def layout (d : Nat) (k : Int) : List Char :=
  let ds := Natural.digits d
  let e : Int := k + ds.length - 1
  if -5 ≤ e ∧ e < 16 then
    if 0 ≤ k then ds ++ List.replicate k.toNat '0' ++ ['.', '0']
    else if 0 ≤ e then ds.take (e.toNat + 1) ++ '.' :: ds.drop (e.toNat + 1)
    else '0' :: '.' :: List.replicate (-e - 1).toNat '0' ++ ds
  else
    let tail := if ds.length = 1 then [] else '.' :: ds.drop 1
    let sign := if e < 0 then '-' else '+'
    ds.take 1 ++ tail ++ 'e' :: sign :: Natural.digits e.natAbs

def text (x : Binary64) : List Char :=
  if x.significand = 0 then ['0', '.', '0'] else layout x.shortest.1 x.shortest.2

end SyntaxServer.Binary64

import PostfixCalc.Number.Binary64

namespace PostfixCalc

structure Decimal where
  coefficient : Nat
  exponent : Int
  deriving DecidableEq, Repr

/-- What rounds to one number, in grains of `10 ^ (-1074)`. The bounds are doubled, since they are
halfway to the neighbours of the number. -/
structure RoundingInterval where
  exact : Nat
  doubleLow : Nat
  doubleHigh : Nat
  /-- The bounds belong to the interval. -/
  closed : Bool
  deriving DecidableEq, Repr

namespace RoundingInterval

/-- Grains are ten to this power, negated. Since `2 ^ (-1074)` is `5 ^ 1074 · 10 ^ (-1074)`, every
magnitude is a whole number of them. -/
def finestPlace : Nat := 1074

def grains (rank : Nat) : Nat := Binary64.units rank * Nat.pow 5 finestPlace

/-- What rounds to the magnitude of a positive rank. A tie goes to the even rank. -/
def ofRank (rank : Nat) : RoundingInterval where
  exact := grains rank
  doubleLow := grains (rank - 1) + grains rank
  doubleHigh := grains rank + grains (rank + 1)
  closed := rank % 2 = 0

/-- Whether a magnitude of `n` grains rounds to the number. -/
def holds (i : RoundingInterval) (n : Nat) : Bool :=
  if i.closed then decide (i.doubleLow ≤ 2 * n ∧ 2 * n ≤ i.doubleHigh)
  else decide (i.doubleLow < 2 * n ∧ 2 * n < i.doubleHigh)

/-- The multiple of `10 ^ place` grains that rounds to the number and is nearest to it, the upper
one of two at the same distance. Only the two around the number need to be looked at. -/
def onGrid? (i : RoundingInterval) (place : Nat) : Option Nat :=
  let step := Nat.pow 10 place
  let below := i.exact / step
  match i.holds (below * step), i.holds ((below + 1) * step) with
  | true, true => some (if 2 * (i.exact % step) < step then below else below + 1)
  | true, false => some below
  | false, true => some (below + 1)
  | false, false => none

/-- The decimal on the coarsest grid, from `10 ^ place` downwards, that has one. The number itself
is on the grid of single grains. -/
def coarsest (i : RoundingInterval) : Nat → Decimal
  | 0 => ⟨i.exact, -finestPlace⟩
  | place + 1 =>
    match i.onGrid? (place + 1) with
    | some c => ⟨c, (place + 1 : Int) - finestPlace⟩
    | none => i.coarsest place

/-- A place above all that rounds to the number, since `2 ^ 93 < 10 ^ 28`. -/
def topPlace (i : RoundingInterval) : Nat := (i.doubleHigh.log2 + 1) * 28 / 93 + 1

end RoundingInterval

namespace Decimal

def shortest (rank : Nat) : Decimal :=
  let i := RoundingInterval.ofRank rank
  i.coarsest i.topPlace

end Decimal

end PostfixCalc

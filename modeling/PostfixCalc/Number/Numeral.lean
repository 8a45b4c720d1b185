import PostfixCalc.Text.Basic
import PostfixCalc.Number.Binary64

namespace PostfixCalc

/-- A numeral, taken apart. It denotes `whole.fraction · 10 ^ exponent` with its sign. -/
structure Numeral where
  negative : Bool
  whole : Text
  fraction : Text
  exponent : Int
  deriving DecidableEq, Repr

namespace Numeral

open Text (isDigit digitsValue)

/-- Takes off a sign, if there is one; true for a minus. -/
def takeSign : Text → Bool × Text
  | '+' :: s => (false, s)
  | '-' :: s => (true, s)
  | s => (false, s)

/-- Reads what may follow the digits: nothing, or an exponent with at least one digit. -/
def readExponent? : Text → Option Int
  | [] => some 0
  | c :: s =>
    if c = 'e' ∨ c = 'E' then
      let (negative, digits) := takeSign s
      if digits ≠ [] ∧ digits.all isDigit then
        let n : Int := digitsValue digits
        some (if negative then -n else n)
      else none
    else none

/-- Takes off a point and the digits behind it, if there is a point. -/
def takeFraction : Text → Text × Text
  | '.' :: s => (s.takeWhile isDigit, s.dropWhile isDigit)
  | s => ([], s)

/-- Reads `[+-]? (digits [. digits?] | . digits) ([eE] [+-]? digits)?` over ASCII digits. -/
def read? (s : Text) : Option Numeral :=
  let (negative, s) := takeSign s
  let whole := s.takeWhile isDigit
  let (fraction, s) := takeFraction (s.dropWhile isDigit)
  if whole = [] ∧ fraction = [] then none
  else (readExponent? s).map fun exponent => ⟨negative, whole, fraction, exponent⟩

def digits (x : Numeral) : Text := x.whole ++ x.fraction

/-- The power of ten that `digits` is to be multiplied with. -/
def scale (x : Numeral) : Int := x.exponent - x.fraction.length

/-- The number nearest to the value of a numeral. What is certainly too large or too small is
decided by the position of the first digit, so that no power of ten gets out of hand. -/
def toBinary64 (x : Numeral) : Binary64 :=
  let n := digitsValue x.digits
  let position := (x.digits.dropWhile (· = '0')).length + x.scale
  if n = 0 then .zero x.negative
  else if 310 < position then .infinite x.negative
  else if position < -330 then .zero x.negative
  else if 0 ≤ x.scale then
    .ofRatio x.negative (n * Nat.pow 10 x.scale.toNat * Binary64.unitsPerOne) 1
  else
    .ofRatio x.negative (n * Binary64.unitsPerOne) (Nat.pow 10 (-x.scale).toNat)

end Numeral

end PostfixCalc

import PostfixCalc.Text.Basic
import PostfixCalc.Number.Shortest

namespace PostfixCalc

namespace Decimal

def digits (d : Decimal) : Text := Nat.toDigits 10 d.coefficient

/-- The position of the point, counted from in front of the first digit. -/
def pointPosition (d : Decimal) : Int := d.digits.length + d.exponent

/-- Digits around a point, without an exponent. Zeros fill what is between point and digits. -/
def positional (d : Decimal) : Text :=
  let ds := d.digits
  let p := d.pointPosition
  if p ≤ 0 then '0' :: '.' :: (List.replicate (-p).toNat '0' ++ ds)
  else if ds.length ≤ p.toNat then ds ++ List.replicate (p.toNat - ds.length) '0'
  else ds.take p.toNat ++ '.' :: ds.drop p.toNat

def wholeText : Int → Text
  | .ofNat n => Nat.toDigits 10 n
  | .negSucc n => '-' :: Nat.toDigits 10 (n + 1)

/-- One digit, a point and the other digits if there are any, and the power of ten. -/
def scientific (d : Decimal) : Text :=
  let mantissa := match d.digits with
    | [] => []
    | [c] => [c]
    | c :: cs => c :: '.' :: cs
  mantissa ++ 'e' :: wholeText (d.pointPosition - 1)

end Decimal

namespace Binary64

def signed (negative : Bool) (s : Text) : Text := if negative then '-' :: s else s

/-- The text of a number in a message: all its places, the sign of zero kept. -/
def plainText : Binary64 → Text
  | finite s r => signed s (if r.val = 0 then ['0'] else (Decimal.shortest r).positional)
  | infinite s => signed s (Text.lit "inf")
  | nan => Text.lit "NaN"

/-- The rank of `10 ^ 21`, from where on values are shown with an exponent. -/
def largeRank : Nat := nearestRank (Nat.pow 10 21 * unitsPerOne) 1

/-- The rank of the number nearest to `10 ^ (-6)`, below which values are shown with an exponent. -/
def smallRank : Nat := nearestRank unitsPerOne (Nat.pow 10 6)

/-- The text of a value on display. Zero has no sign. -/
def displayText : Binary64 → Text
  | finite s r =>
    if r.val = 0 then ['0']
    else
      let d := Decimal.shortest r
      signed s (if largeRank ≤ r.val ∨ r.val < smallRank then d.scientific else d.positional)
  | infinite s => signed s (Text.lit "inf")
  | nan => Text.lit "NaN"

end Binary64

end PostfixCalc

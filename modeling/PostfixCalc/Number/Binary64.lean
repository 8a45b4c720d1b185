namespace PostfixCalc

abbrev Binary64.rankCount : Nat := 2047 * Nat.pow 2 52

/-- A number of 64 bits. All that is not a number counts as one value. The finite magnitudes are
counted: they are ranked from 0 upwards. -/
inductive Binary64
  | finite (negative : Bool) (rank : Fin Binary64.rankCount)
  | infinite (negative : Bool)
  | nan
  deriving DecidableEq, Repr

namespace Binary64

/-- The smallest positive number goes this often into one. -/
def unitsPerOne : Nat := Nat.pow 2 1074

/-- The magnitude of a rank, in units of the smallest positive number. It is defined past the last
finite rank, where it goes on as if exponents had no end. -/
def units (rank : Nat) : Nat :=
  let exponent := rank / Nat.pow 2 52
  let fraction := rank % Nat.pow 2 52
  if exponent = 0 then fraction else (Nat.pow 2 52 + fraction) * Nat.pow 2 (exponent - 1)

/-- The rank whose magnitude is nearest to `num / den` units, the even one of two. The quotient is
cut to 53 binary digits, and what was cut off decides about the next rank. -/
def nearestRank (num den : Nat) : Nat :=
  let shift := (num / den).log2 - 52
  let step := den * Nat.pow 2 shift
  let rank := shift * Nat.pow 2 52 + num / step
  let rest := num % step
  if step < 2 * rest ∨ (step = 2 * rest ∧ rank % 2 = 1) then rank + 1 else rank

/-- The number of a sign and a rank, infinite past the last finite rank. -/
def ofRank (negative : Bool) (rank : Nat) : Binary64 :=
  if h : rank < rankCount then finite negative ⟨rank, h⟩ else infinite negative

/-- The number nearest to `num / den` units with the given sign. -/
def ofRatio (negative : Bool) (num den : Nat) : Binary64 := ofRank negative (nearestRank num den)

def zero (negative : Bool) : Binary64 := finite negative 0

def isFinite : Binary64 → Bool
  | finite _ _ => true
  | _ => false

def isZero : Binary64 → Bool
  | finite _ rank => rank.val == 0
  | _ => false

/-- The exact value of a sign and a rank, in units. -/
def signedUnits (negative : Bool) (rank : Nat) : Int :=
  if negative then -(units rank : Int) else units rank

def neg : Binary64 → Binary64
  | finite s r => finite (!s) r
  | infinite s => infinite (!s)
  | nan => nan

/-- The sum, rounded once. A sum of zero is negative only if both terms are. -/
def add : Binary64 → Binary64 → Binary64
  | nan, _ | _, nan => nan
  | infinite s, infinite t => if s = t then infinite s else nan
  | infinite s, finite _ _ => infinite s
  | finite _ _, infinite t => infinite t
  | finite s a, finite t b =>
    let sum := signedUnits s a + signedUnits t b
    if sum = 0 then zero (s && t) else ofRatio (decide (sum < 0)) sum.natAbs 1

def sub (x y : Binary64) : Binary64 := add x (neg y)

def mul : Binary64 → Binary64 → Binary64
  | nan, _ | _, nan => nan
  | infinite s, infinite t => infinite (s ^^ t)
  | infinite s, finite t b => if b.val = 0 then nan else infinite (s ^^ t)
  | finite s a, infinite t => if a.val = 0 then nan else infinite (s ^^ t)
  | finite s a, finite t b => ofRatio (s ^^ t) (units a * units b) unitsPerOne

/-- The quotient, rounded once. Only a zero divided by a zero has none. -/
def div : Binary64 → Binary64 → Binary64
  | nan, _ | _, nan => nan
  | infinite _, infinite _ => nan
  | infinite s, finite t _ => infinite (s ^^ t)
  | finite s _, infinite t => zero (s ^^ t)
  | finite s a, finite t b =>
    if b.val = 0 then if a.val = 0 then nan else infinite (s ^^ t)
    else ofRatio (s ^^ t) (units a * unitsPerOne) (units b)

instance : Neg Binary64 := ⟨neg⟩
instance : Add Binary64 := ⟨add⟩
instance : Sub Binary64 := ⟨sub⟩
instance : Mul Binary64 := ⟨mul⟩
instance : Div Binary64 := ⟨div⟩

/-- The number with the given bits: a sign bit above 63 bits that count ranks. -/
def ofBits (bits : UInt64) : Binary64 :=
  let n := bits.toNat
  let negative := decide (Nat.pow 2 63 ≤ n)
  let rank := n % Nat.pow 2 63
  if rank ≤ rankCount then ofRank negative rank else nan

/-- The bits of a number; none for what is not a number, which has many. -/
def toBits? : Binary64 → Option UInt64
  | finite s r => some (.ofNat ((if s then Nat.pow 2 63 else 0) + r.val))
  | infinite s => some (.ofNat ((if s then Nat.pow 2 63 else 0) + rankCount))
  | nan => none

end Binary64

end PostfixCalc

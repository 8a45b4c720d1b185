import PostfixCalc.Number.Notation
import PostfixCalc.Calculator.Token
import PostfixCalc.Proofs.Number.Numeral
import PostfixCalc.Proofs.Number.Spelling

namespace PostfixCalc

namespace RoundingInterval

theorem grains_eq (rank : Nat) : grains rank = Binary64.units rank * 5 ^ finestPlace := by
  rw [grains, Nat.pow_eq]

/-- A magnitude rounds to a rank if and only if it lies in the interval of that rank. -/
theorem holds_ofRank_iff (rank n : Nat) :
    (ofRank rank).holds n = true ↔ Binary64.Nearest n (5 ^ finestPlace) rank := by
  have hlow : (ofRank rank).doubleLow =
      (Binary64.units (rank - 1) + Binary64.units rank) * 5 ^ finestPlace := by
    simp only [ofRank, grains_eq, Nat.add_mul]
  have hhigh : (ofRank rank).doubleHigh =
      (Binary64.units rank + Binary64.units (rank + 1)) * 5 ^ finestPlace := by
    simp only [ofRank, grains_eq, Nat.add_mul]
  have hclosed : (ofRank rank).closed = decide (rank % 2 = 0) := rfl
  rw [holds, hclosed, hlow, hhigh]
  by_cases heven : rank % 2 = 0
  · rw [decide_eq_true heven, if_pos rfl, decide_eq_true_iff]
    exact ⟨fun h => ⟨h.1, h.2, fun hodd => by omega⟩, fun h => ⟨h.low, h.high⟩⟩
  · rw [decide_eq_false heven, if_neg Bool.false_ne_true, decide_eq_true_iff]
    exact ⟨fun h => ⟨Nat.le_of_lt h.1, Nat.le_of_lt h.2, fun _ => h⟩, fun h => h.of_odd (by omega)⟩

theorem holds_exact {rank : Nat} (hrank : 0 < rank) :
    (ofRank rank).holds (ofRank rank).exact = true := by
  have hpos : 0 < 5 ^ finestPlace := Nat.pow_pos (by decide)
  have hprev : Binary64.units (rank - 1) < Binary64.units rank :=
    Binary64.units_strictMono (by omega)
  have hnext := Binary64.units_lt_units_succ rank
  have hexact : 2 * (ofRank rank).exact = 2 * Binary64.units rank * 5 ^ finestPlace := by
    rw [ofRank, grains_eq, Nat.mul_assoc]
  have hlow : (Binary64.units (rank - 1) + Binary64.units rank) * 5 ^ finestPlace <
      2 * (ofRank rank).exact := by
    rw [hexact]
    exact Nat.mul_lt_mul_of_pos_right (by omega) hpos
  have hhigh : 2 * (ofRank rank).exact <
      (Binary64.units rank + Binary64.units (rank + 1)) * 5 ^ finestPlace := by
    rw [hexact]
    exact Nat.mul_lt_mul_of_pos_right (by omega) hpos
  rw [holds_ofRank_iff]
  exact ⟨Nat.le_of_lt hlow, Nat.le_of_lt hhigh, fun _ => ⟨hlow, hhigh⟩⟩

theorem holds_of_onGrid? {i : RoundingInterval} {place c : Nat} (h : i.onGrid? place = some c) :
    i.holds (c * 10 ^ place) = true := by
  simp only [onGrid?, Nat.pow_eq] at h
  cases hbelow : i.holds (i.exact / 10 ^ place * 10 ^ place) <;>
    cases habove : i.holds ((i.exact / 10 ^ place + 1) * 10 ^ place) <;>
      simp only [hbelow, habove, Option.some.injEq, reduceCtorEq] at h
  · exact h ▸ habove
  · exact h ▸ hbelow
  · split at h
    · exact h ▸ hbelow
    · exact h ▸ habove

/-- Whatever grid the search ends on, what it finds there rounds to the number. -/
theorem coarsest_holds {i : RoundingInterval} (hexact : i.holds i.exact = true) (place : Nat) :
    ∃ k : Nat, (i.coarsest place).exponent = k - finestPlace ∧
      i.holds ((i.coarsest place).coefficient * 10 ^ k) = true := by
  induction place with
  | zero =>
    refine ⟨0, (Int.zero_sub _).symm, ?_⟩
    rw [coarsest, Nat.pow_zero, Nat.mul_one]
    exact hexact
  | succ place ih =>
    rw [coarsest]
    split
    · next c hc => exact ⟨place + 1, rfl, holds_of_onGrid? hc⟩
    · exact ih

end RoundingInterval

namespace Numeral

open Text (isDigit digitsValue isDigit_of_mem_toDigits)

/-- The exact value of a numeral is that of a decimal, up to the sign. -/
structure Denotes (x : Numeral) (d : Decimal) : Prop where
  digits : ∀ c ∈ x.digits, isDigit c = true
  value : ∃ k : Nat, x.scale + k = d.exponent ∧ digitsValue x.digits = d.coefficient * 10 ^ k

theorem unitsPerOne_mul : Binary64.unitsPerOne * 5 ^ RoundingInterval.finestPlace =
    10 ^ RoundingInterval.finestPlace := by
  decide +kernel

/-- A decimal that rounds to a number is read as that number, however it is written. -/
theorem Denotes.toBinary64_eq {x : Numeral} {d : Decimal} (h : x.Denotes d)
    {rank : Fin Binary64.rankCount} {place : Nat}
    (hplace : d.exponent = place - RoundingInterval.finestPlace)
    (hholds : (RoundingInterval.ofRank rank).holds (d.coefficient * 10 ^ place) = true) :
    x.toBinary64 = .finite x.negative rank := by
  obtain ⟨k, hscale, hvalue⟩ := h.value
  have hden : 0 < 10 ^ (-x.scale).toNat := Nat.pow_pos (by decide)
  have hgrain : 0 < 5 ^ RoundingInterval.finestPlace := Nat.pow_pos (by decide)
  have hcross : digitsValue x.digits * 10 ^ x.scale.toNat * Binary64.unitsPerOne *
      5 ^ RoundingInterval.finestPlace =
        d.coefficient * 10 ^ place * 10 ^ (-x.scale).toNat := by
    rw [Nat.mul_assoc _ Binary64.unitsPerOne, unitsPerOne_mul, hvalue, Nat.mul_assoc, Nat.mul_assoc,
      Nat.mul_assoc, ← Nat.pow_add, ← Nat.pow_add, ← Nat.pow_add]
    congr 2
    omega
  have hrank := (Binary64.nearestRank_eq_iff hgrain).mpr
    ((RoundingInterval.holds_ofRank_iff rank _).mp hholds)
  rw [Numeral.toBinary64_eq h.digits, Binary64.ofRatio,
    Binary64.nearestRank_congr hden hgrain hcross, hrank, Binary64.ofRank_of_lt _ rank.isLt]

theorem isDigits_toDigits (n : Nat) : IsDigits (Nat.toDigits 10 n) :=
  ⟨Nat.toDigits_ne_nil, fun _ hc => isDigit_of_mem_toDigits hc⟩

theorem spellsExponent_wholeText (n : Int) : SpellsExponent ('e' :: Decimal.wholeText n) n := by
  cases n with
  | ofNat n =>
    have h := SpellsExponent.some (.inl rfl) .none (isDigits_toDigits n)
    rwa [Text.digitsValue_toDigits] at h
  | negSucc n =>
    have h := SpellsExponent.some (.inl rfl) .minus (isDigits_toDigits (n + 1))
    rwa [Text.digitsValue_toDigits] at h

section Written

variable (negative : Bool) (d : Decimal)

theorem isDigit_of_mem_digits {c : Char} (hc : c ∈ d.digits) : isDigit c = true :=
  isDigit_of_mem_toDigits hc

theorem digitsValue_digits : digitsValue d.digits = d.coefficient :=
  Text.digitsValue_toDigits d.coefficient

theorem isDigit_of_mem_zeros {n : Nat} {c : Char} (hc : c ∈ List.replicate n '0') :
    isDigit c = true := by
  obtain rfl := List.eq_of_mem_replicate hc
  rfl

/-- Digits, and zeros that stand for the power of ten. -/
theorem denotes_whole {whole tail : Text} {exponent : Int} {k : Nat}
    (hdigits : ∀ c ∈ whole, isDigit c = true) (hne : whole ≠ [])
    (htail : SpellsExponent tail exponent)
    (hvalue : digitsValue whole = d.coefficient * 10 ^ k) (hscale : exponent + k = d.exponent) :
    ∃ x, read? (Binary64.signed negative (whole ++ tail)) = some x ∧ x.negative = negative ∧
      x.Denotes d := by
  have hall : digits ⟨negative, whole, [], exponent⟩ = whole := List.append_nil whole
  refine ⟨⟨negative, whole, [], exponent⟩, read?_signed negative (.whole ⟨hne, hdigits⟩) htail, rfl,
    ⟨hall.symm ▸ hdigits, k, ?_, hall.symm ▸ hvalue⟩⟩
  change exponent - (0 : Nat) + k = d.exponent
  omega

/-- Digits around a point. -/
theorem denotes_point {whole fraction tail : Text} {exponent : Int}
    (hdigits : ∀ c ∈ whole ++ fraction, isDigit c = true) (hne : whole ≠ [])
    (htail : SpellsExponent tail exponent)
    (hvalue : digitsValue (whole ++ fraction) = d.coefficient)
    (hscale : exponent - fraction.length = d.exponent) :
    ∃ x, read? (Binary64.signed negative (whole ++ '.' :: (fraction ++ tail))) = some x ∧
      x.negative = negative ∧ x.Denotes d := by
  have hwhole : ∀ c ∈ whole, isDigit c = true :=
    fun c hc => hdigits c (List.mem_append_left fraction hc)
  have hfraction : ∀ c ∈ fraction, isDigit c = true :=
    fun c hc => hdigits c (List.mem_append_right whole hc)
  have hread := read?_signed negative (.point ⟨hne, hwhole⟩ hfraction) htail
  rw [List.append_assoc, List.cons_append] at hread
  refine ⟨⟨negative, whole, fraction, exponent⟩, hread, rfl, ⟨hdigits, 0, ?_, ?_⟩⟩
  · change exponent - fraction.length + (0 : Nat) = d.exponent
    omega
  · rw [Nat.pow_zero, Nat.mul_one]
    exact hvalue

/-- All digits are behind the point. -/
theorem read?_positional_small (h : d.pointPosition ≤ 0) :
    ∃ x, read? (Binary64.signed negative d.positional) = some x ∧ x.negative = negative ∧
      x.Denotes d := by
  have hp : d.pointPosition = d.digits.length + d.exponent := rfl
  let zeros := List.replicate (-d.pointPosition).toNat '0'
  have hpositional : d.positional = ['0'] ++ '.' :: (zeros ++ d.digits ++ []) := by
    rw [List.append_nil]
    exact if_pos h
  have hdigits : ∀ c ∈ ['0'] ++ (zeros ++ d.digits), isDigit c = true := by
    rw [List.forall_mem_append, List.forall_mem_append]
    exact ⟨List.forall_mem_singleton.mpr rfl, fun _ hc => isDigit_of_mem_zeros hc,
      fun _ hc => isDigit_of_mem_digits d hc⟩
  have hvalue : digitsValue (['0'] ++ (zeros ++ d.digits)) = d.coefficient := by
    rw [List.singleton_append, Text.digitsValue_cons, Text.digitsValue_append,
      Text.digitsValue_zeros, digitsValue_digits, show Text.digitValue '0' = 0 from rfl]
    omega
  rw [hpositional]
  refine denotes_point negative d hdigits (List.cons_ne_nil _ _) .none hvalue ?_
  rw [List.length_append, List.length_replicate]
  omega

/-- All digits are in front of the point, and zeros behind them. -/
theorem read?_positional_large (hpos : ¬ d.pointPosition ≤ 0)
    (h : d.digits.length ≤ d.pointPosition.toNat) :
    ∃ x, read? (Binary64.signed negative d.positional) = some x ∧ x.negative = negative ∧
      x.Denotes d := by
  have hp : d.pointPosition = d.digits.length + d.exponent := rfl
  let zeros := List.replicate (d.pointPosition.toNat - d.digits.length) '0'
  have hpositional : d.positional = d.digits ++ zeros ++ [] := by
    rw [List.append_nil]
    exact (if_neg hpos).trans (if_pos h)
  have hdigits : ∀ c ∈ d.digits ++ zeros, isDigit c = true := by
    rw [List.forall_mem_append]
    exact ⟨fun _ hc => isDigit_of_mem_digits d hc, fun _ hc => isDigit_of_mem_zeros hc⟩
  have hvalue : digitsValue (d.digits ++ zeros) =
      d.coefficient * 10 ^ (d.pointPosition.toNat - d.digits.length) := by
    rw [Text.digitsValue_append, Text.digitsValue_zeros, digitsValue_digits,
      List.length_replicate, Nat.add_zero]
  have hne : d.digits ++ zeros ≠ [] := List.append_ne_nil_of_left_ne_nil Nat.toDigits_ne_nil _
  rw [hpositional]
  refine denotes_whole negative d hdigits hne .none hvalue ?_
  omega

/-- The point is among the digits. -/
theorem read?_positional_between (hpos : ¬ d.pointPosition ≤ 0)
    (h : ¬ d.digits.length ≤ d.pointPosition.toNat) :
    ∃ x, read? (Binary64.signed negative d.positional) = some x ∧ x.negative = negative ∧
      x.Denotes d := by
  have hp : d.pointPosition = d.digits.length + d.exponent := rfl
  let whole := d.digits.take d.pointPosition.toNat
  let fraction := d.digits.drop d.pointPosition.toNat
  have hall : whole ++ fraction = d.digits := List.take_append_drop _ _
  have hpositional : d.positional = whole ++ '.' :: (fraction ++ []) := by
    rw [List.append_nil]
    exact (if_neg hpos).trans (if_neg h)
  have hne : whole ≠ [] := by
    refine List.ne_nil_of_length_pos ?_
    rw [List.length_take]
    omega
  have hlength : fraction.length = d.digits.length - d.pointPosition.toNat := List.length_drop
  rw [hpositional]
  refine denotes_point negative d (hall ▸ fun _ hc => isDigit_of_mem_digits d hc) hne .none
    (hall ▸ digitsValue_digits d) ?_
  rw [hlength]
  omega

theorem read?_positional :
    ∃ x, read? (Binary64.signed negative d.positional) = some x ∧ x.negative = negative ∧
      x.Denotes d := by
  by_cases hsmall : d.pointPosition ≤ 0
  · exact read?_positional_small negative d hsmall
  by_cases hlarge : d.digits.length ≤ d.pointPosition.toNat
  · exact read?_positional_large negative d hsmall hlarge
  · exact read?_positional_between negative d hsmall hlarge

theorem read?_scientific :
    ∃ x, read? (Binary64.signed negative d.scientific) = some x ∧ x.negative = negative ∧
      x.Denotes d := by
  have hp : d.pointPosition = d.digits.length + d.exponent := rfl
  have hdigits : ∀ c ∈ d.digits, isDigit c = true := fun c hc => isDigit_of_mem_digits d hc
  have hvalue := digitsValue_digits d
  have hend := spellsExponent_wholeText (d.pointPosition - 1)
  cases hds : d.digits with
  | nil => exact absurd hds Nat.toDigits_ne_nil
  | cons c cs =>
    rw [hds] at hp hdigits hvalue
    cases cs with
    | nil =>
      have hscientific : d.scientific = [c] ++ 'e' :: Decimal.wholeText (d.pointPosition - 1) := by
        rw [Decimal.scientific, hds]
      have hvalue : digitsValue [c] = d.coefficient * 10 ^ 0 := by
        rw [Nat.pow_zero, Nat.mul_one, hvalue]
      rw [hscientific]
      refine denotes_whole negative d hdigits (List.cons_ne_nil _ _) hend hvalue ?_
      rw [hp, List.length_singleton]
      omega
    | cons c' cs =>
      have hscientific : d.scientific =
          [c] ++ '.' :: (c' :: cs ++ 'e' :: Decimal.wholeText (d.pointPosition - 1)) := by
        rw [Decimal.scientific, hds]
        rfl
      rw [hscientific]
      refine denotes_point negative d hdigits (List.cons_ne_nil c []) hend hvalue ?_
      rw [hp, List.length_cons]
      omega

end Written

end Numeral

namespace Binary64

/-- A decimal text of the shortest decimal of a number is read as that number. -/
theorem readNumber?_of_denotes {s : Text} {x : Numeral} {rank : Fin rankCount}
    (hrank : 0 < rank.val) (hread : Numeral.read? s = some x)
    (hx : x.Denotes (Decimal.shortest rank)) :
    Token.readNumber? s = some (finite x.negative rank) := by
  obtain ⟨place, hplace, hholds⟩ :=
    RoundingInterval.coarsest_holds (RoundingInterval.holds_exact hrank)
      (RoundingInterval.ofRank rank).topPlace
  have hvalue := hx.toBinary64_eq hplace hholds
  rw [Token.readNumber?, hread, Option.map_some, hvalue]
  rfl

theorem readNumber?_zero (negative : Bool) :
    Token.readNumber? (signed negative ['0']) = some (zero negative) := by
  cases negative <;> decide

/-- What is written in a message is read back, with its sign. -/
theorem readNumber?_plainText {v : Binary64} (h : v.isFinite = true) :
    Token.readNumber? v.plainText = some v := by
  cases v with
  | nan => exact absurd h Bool.false_ne_true
  | infinite s => exact absurd h Bool.false_ne_true
  | finite s r =>
    rw [plainText]
    split
    · next hzero =>
      have hr : r = 0 := Fin.ext hzero
      rw [readNumber?_zero, hr]
      rfl
    · next hne =>
      obtain ⟨x, hread, rfl, hx⟩ := Numeral.read?_positional s (Decimal.shortest r)
      exact readNumber?_of_denotes (Nat.pos_of_ne_zero hne) hread hx

/-- The number without the sign of a zero. -/
def unsignedZero (v : Binary64) : Binary64 := if v.isZero then zero false else v

/-- What is on display is read back, a zero without its sign. -/
theorem readNumber?_displayText {v : Binary64} (h : v.isFinite = true) :
    Token.readNumber? v.displayText = some v.unsignedZero := by
  cases v with
  | nan => exact absurd h Bool.false_ne_true
  | infinite s => exact absurd h Bool.false_ne_true
  | finite s r =>
    rw [displayText]
    by_cases hzero : r.val = 0
    · have hsign : (finite s r).unsignedZero = zero false := if_pos (beq_iff_eq.mpr hzero)
      rw [if_pos hzero, hsign]
      exact readNumber?_zero false
    · have hsign : (finite s r).unsignedZero = finite s r :=
        if_neg (fun hz => hzero (beq_iff_eq.mp hz))
      have hpos := Nat.pos_of_ne_zero hzero
      rw [if_neg hzero, hsign]
      dsimp only
      split
      · obtain ⟨x, hread, rfl, hx⟩ := Numeral.read?_scientific s (Decimal.shortest r)
        exact readNumber?_of_denotes hpos hread hx
      · obtain ⟨x, hread, rfl, hx⟩ := Numeral.read?_positional s (Decimal.shortest r)
        exact readNumber?_of_denotes hpos hread hx

end Binary64

end PostfixCalc

import PostfixCalc.Proofs.Number.Nearest
import PostfixCalc.Proofs.Number.Notation
import PostfixCalc.Proofs.Number.SignificantDigits

namespace PostfixCalc

namespace Numeral

open Text (isDigit isDigit_of_mem_toDigits)

/-- Digits without a zero in front that could be left out. -/
def IsWhole (s : Text) : Prop := IsDigits s ∧ (s.head? = some '0' → s = ['0'])

/-- Nothing, or a point and digits of which the last one is not a zero. -/
def IsFraction (s : Text) : Prop :=
  s = [] ∨ ∃ ds, s = '.' :: ds ∧ IsDigits ds ∧ ds.getLast? ≠ some '0'

inductive IsPlain : Text → Prop
  | intro {whole fraction : Text} (hwhole : IsWhole whole) (hfraction : IsFraction fraction) :
      IsPlain (whole ++ fraction)

/-- One digit that is not a zero, a fraction or none, and a power of ten without a plus sign. -/
inductive IsScientific : Text → Prop
  | intro {c : Char} {fraction exponent : Text} {negative : Bool} (hc : isDigit c = true)
      (hne : c ≠ '0') (hfraction : IsFraction fraction) (hexponent : IsWhole exponent) :
      IsScientific (c :: (fraction ++ 'e' :: Binary64.signed negative exponent))

section Digits

variable {ds : Text}

theorem IsDigits.append_zeros (h : IsDigits ds) (n : Nat) :
    IsDigits (ds ++ List.replicate n '0') := by
  refine ⟨List.append_ne_nil_of_left_ne_nil h.1 _, ?_⟩
  rw [List.forall_mem_append]
  exact ⟨h.2, fun _ hc => isDigit_of_mem_zeros hc⟩

theorem IsDigits.zeros_append (h : IsDigits ds) (n : Nat) :
    IsDigits (List.replicate n '0' ++ ds) := by
  refine ⟨List.append_ne_nil_of_right_ne_nil _ h.1, ?_⟩
  rw [List.forall_mem_append]
  exact ⟨fun _ hc => isDigit_of_mem_zeros hc, h.2⟩

theorem IsDigits.take (h : IsDigits ds) {n : Nat} (hn : 0 < n) : IsDigits (ds.take n) := by
  have hpos := List.length_pos_iff.mpr h.1
  refine ⟨List.ne_nil_of_length_pos ?_, fun c hc => h.2 c (List.mem_of_mem_take hc)⟩
  rw [List.length_take]
  omega

theorem IsDigits.drop (h : IsDigits ds) {n : Nat} (hn : n < ds.length) : IsDigits (ds.drop n) := by
  refine ⟨List.ne_nil_of_length_pos ?_, fun c hc => h.2 c (List.mem_of_mem_drop hc)⟩
  rw [List.length_drop]
  omega

theorem isWhole_of_head? (h : IsDigits ds) (hfirst : ds.head? ≠ some '0') : IsWhole ds :=
  ⟨h, fun hzero => absurd hzero hfirst⟩

theorem isFraction_of_getLast? (h : IsDigits ds) (hlast : ds.getLast? ≠ some '0') :
    IsFraction ('.' :: ds) :=
  .inr ⟨ds, rfl, h, hlast⟩

end Digits

theorem isWhole_toDigits (n : Nat) : IsWhole (Nat.toDigits 10 n) := by
  rcases Nat.eq_zero_or_pos n with rfl | hn
  · exact ⟨isDigits_toDigits 0, fun _ => rfl⟩
  · exact isWhole_of_head? (isDigits_toDigits n) (Text.head?_toDigits hn)

end Numeral

theorem Binary64.length_signed_le (negative : Bool) (s : Text) :
    (signed negative s).length ≤ s.length + 1 := by
  unfold signed
  split_ifs with hnegative
  · apply Nat.le_refl
  · apply Nat.le_succ

namespace Decimal

theorem wholeText_eq (n : Int) :
    wholeText n = Binary64.signed (decide (n < 0)) (Nat.toDigits 10 n.natAbs) := by
  cases n with
  | ofNat n =>
    simp [wholeText, Binary64.signed]
  | negSucc n =>
    have hn : Int.negSucc n < 0 := Int.negSucc_lt_zero n
    simp [wholeText, Binary64.signed, hn]

open Numeral (IsDigits IsWhole IsFraction IsPlain IsScientific)

section Form

variable {d : Decimal} (hpos : 0 < d.coefficient) (hlast : d.coefficient % 10 ≠ 0)

include hpos hlast

theorem positional_isPlain : IsPlain d.positional := by
  have hdigits : IsDigits d.digits := Numeral.isDigits_toDigits d.coefficient
  have hfirst : d.digits.head? ≠ some '0' := Text.head?_toDigits hpos
  have hend : d.digits.getLast? ≠ some '0' := Text.getLast?_toDigits hlast
  unfold positional
  dsimp only
  split_ifs with hsmall hlarge
  · have hfraction := Numeral.isFraction_of_getLast?
      (hdigits.zeros_append (-d.pointPosition).toNat)
      (by rwa [List.getLast?_append_of_ne_nil _ hdigits.1])
    exact IsPlain.intro (Numeral.isWhole_toDigits 0) hfraction
  · have hwhole := Numeral.isWhole_of_head?
      (hdigits.append_zeros (d.pointPosition.toNat - d.digits.length))
      (by rwa [List.head?_append_of_ne_nil _ hdigits.1])
    have hplain := IsPlain.intro hwhole (.inl rfl)
    rwa [List.append_nil] at hplain
  · have hplace : 0 < d.pointPosition.toNat := by omega
    have hwhole := Numeral.isWhole_of_head? (hdigits.take hplace)
      (by rwa [List.head?_take, if_neg hplace.ne'])
    have hfraction := Numeral.isFraction_of_getLast? (hdigits.drop (Nat.lt_of_not_le hlarge))
      (by rwa [List.getLast?_drop, if_neg hlarge])
    exact IsPlain.intro hwhole hfraction

theorem scientific_isScientific : IsScientific d.scientific := by
  have hdigits : IsDigits d.digits := Numeral.isDigits_toDigits d.coefficient
  have hfirst : d.digits.head? ≠ some '0' := Text.head?_toDigits hpos
  have hend : d.digits.getLast? ≠ some '0' := Text.getLast?_toDigits hlast
  have hexponent := Numeral.isWhole_toDigits (d.pointPosition - 1).natAbs
  unfold scientific
  rw [wholeText_eq]
  cases hds : d.digits with
  | nil => exact absurd hds hdigits.1
  | cons c cs =>
    rw [hds] at hdigits hfirst hend
    have hc := hdigits.2 c List.mem_cons_self
    have hne : c ≠ '0' := fun hzero => hfirst (congrArg some hzero)
    cases cs with
    | nil => exact IsScientific.intro hc hne (.inl rfl) hexponent
    | cons c' cs =>
      have hrest : IsDigits (c' :: cs) :=
        ⟨List.cons_ne_nil _ _, fun x hx => hdigits.2 x (List.mem_cons_of_mem c hx)⟩
      rw [List.getLast?_cons_cons] at hend
      have hfraction := Numeral.isFraction_of_getLast? hrest hend
      exact IsScientific.intro hc hne hfraction hexponent

end Form

theorem length_positional_le {d : Decimal} (hlow : -5 ≤ d.pointPosition)
    (hhigh : d.pointPosition ≤ 21) (hdigits : d.digits.length ≤ 17) :
    d.positional.length ≤ 24 := by
  unfold positional
  dsimp only
  split_ifs with hsmall hlarge
  · rw [List.length_cons, List.length_cons, List.length_append, List.length_replicate]
    omega
  · rw [List.length_append, List.length_replicate]
    omega
  · rw [List.length_append, List.length_cons, List.length_take, List.length_drop]
    omega

theorem length_wholeText_le {n : Int} (hlow : -999 ≤ n) (hhigh : n ≤ 999) :
    (wholeText n).length ≤ 4 := by
  have hdigits : (Nat.toDigits 10 n.natAbs).length ≤ 3 := by
    apply (Nat.length_toDigits_le_iff (by decide) (by decide)).mpr
    omega
  have hsigned := Binary64.length_signed_le (decide (n < 0)) (Nat.toDigits 10 n.natAbs)
  rw [wholeText_eq]
  omega

theorem length_scientific_le {d : Decimal} (hlow : -998 ≤ d.pointPosition)
    (hhigh : d.pointPosition ≤ 1000) (hdigits : d.digits.length ≤ 17) :
    d.scientific.length ≤ 24 := by
  have hexponent : (wholeText (d.pointPosition - 1)).length ≤ 4 := by
    apply length_wholeText_le <;> omega
  unfold scientific
  rw [List.length_append, List.length_cons]
  split
  · rw [List.length_nil]
    omega
  · rw [List.length_singleton]
    omega
  · next c cs _ hds =>
    rw [hds] at hdigits
    simp only [List.length_cons] at hdigits ⊢
    omega

namespace IsCoarsest

open RoundingInterval (finestPlace)

variable {d : Decimal} {rank place : Nat} (hrank : 0 < rank) (h : d.IsCoarsest rank place)

include hrank h

theorem length_digits_le_seventeen : d.digits.length ≤ 17 := by
  apply (Nat.length_toDigits_le_iff (by decide) (by decide)).mpr
  apply h.coefficient_lt hrank

theorem pointPosition_le (hlarge : rank < Binary64.largeRank) : d.pointPosition ≤ 21 := by
  have hgrain : 0 < 5 ^ finestPlace := Nat.pow_pos (by decide)
  have hpower : Binary64.nearestRank (10 ^ (21 + finestPlace)) (5 ^ finestPlace) =
      Binary64.largeRank := by
    apply Binary64.nearestRank_congr hgrain Nat.one_pos
    rw [Nat.mul_one, Nat.pow_eq, Nat.mul_assoc, Numeral.unitsPerOne_mul, Nat.pow_add]
  have hiff := h.lt_pointPosition_iff hrank (21 + finestPlace)
  rw [hpower] at hiff
  omega

theorem le_pointPosition (hsmall : Binary64.smallRank ≤ rank) : -5 ≤ d.pointPosition := by
  have hgrain : 0 < 5 ^ finestPlace := Nat.pow_pos (by decide)
  have hsix : 6 ≤ finestPlace := by decide
  have hpower : Binary64.nearestRank (10 ^ (finestPlace - 6)) (5 ^ finestPlace) =
      Binary64.smallRank := by
    apply Binary64.nearestRank_congr hgrain (Nat.pow_pos (by decide))
    rw [Numeral.unitsPerOne_mul, ← Nat.pow_add, Nat.sub_add_cancel hsix]
  have hiff := h.lt_pointPosition_iff hrank (finestPlace - 6)
  rw [hpower] at hiff
  omega

/-- The powers of ten on display have at most three digits. -/
theorem pointPosition_bounds (hfinite : rank < Binary64.rankCount) :
    -998 ≤ d.pointPosition ∧ d.pointPosition ≤ 1000 := by
  have hgrain : 0 < 5 ^ finestPlace := Nat.pow_pos (by decide)
  have hplaces : 330 ≤ finestPlace := by decide
  have hlow : 2 * 10 ^ (finestPlace - 330) ≤ 5 ^ finestPlace := by
    have hunits : 0 < Binary64.unitsPerOne := by exact_mod_cast Binary64.unitsPerOne_pos
    apply Nat.le_of_mul_le_mul_right _ hunits
    calc 2 * 10 ^ (finestPlace - 330) * Binary64.unitsPerOne
        = 10 ^ (finestPlace - 330) * (2 * Binary64.unitsPerOne) := by ring
      _ ≤ 10 ^ (finestPlace - 330) * 10 ^ 330 :=
          Nat.mul_le_mul_left _ Binary64.two_mul_unitsPerOne_le
      _ = Binary64.unitsPerOne * 5 ^ finestPlace := by
          rw [← Nat.pow_add, Nat.sub_add_cancel hplaces, Numeral.unitsPerOne_mul]
      _ = 5 ^ finestPlace * Binary64.unitsPerOne := Nat.mul_comm _ _
  have hhigh : Binary64.units Binary64.rankCount * 5 ^ finestPlace ≤ 10 ^ (310 + finestPlace) := by
    calc Binary64.units Binary64.rankCount * 5 ^ finestPlace
        ≤ 10 ^ 310 * Binary64.unitsPerOne * 5 ^ finestPlace :=
          Nat.mul_le_mul_right _ Binary64.units_rankCount_le
      _ = 10 ^ (310 + finestPlace) := by
          rw [Nat.mul_assoc, Numeral.unitsPerOne_mul, Nat.pow_add]
  have hzero := Binary64.nearestRank_eq_zero hgrain hlow
  have htop := Binary64.le_nearestRank hgrain hhigh
  have hbelow := h.lt_pointPosition_iff hrank (finestPlace - 330)
  have habove := h.lt_pointPosition_iff hrank (310 + finestPlace)
  rw [hzero] at hbelow
  omega

end IsCoarsest

end Decimal

namespace Binary64

/-- What is on display is a numeral of the shortest decimal. -/
theorem exists_read?_displayText (s : Bool) {r : Fin rankCount} (hr : r.val ≠ 0) :
    ∃ x, Numeral.read? (finite s r).displayText = some x ∧ x.Denotes (Decimal.shortest r) := by
  rw [displayText, if_neg hr]
  dsimp only
  split
  · obtain ⟨x, hread, -, hx⟩ := Numeral.read?_scientific s (Decimal.shortest r)
    exact ⟨x, hread, hx⟩
  · obtain ⟨x, hread, -, hx⟩ := Numeral.read?_positional s (Decimal.shortest r)
    exact ⟨x, hread, hx⟩

theorem abs_value_finite (s : Bool) (r : Fin rankCount) : |value (finite s r)| = magnitude r := by
  have hnonneg : 0 ≤ magnitude r := ofUnits_nonneg _ _
  rw [value_finite, withSign]
  split_ifs with hnegative
  · rw [abs_neg, abs_of_nonneg hnonneg]
  · rw [abs_of_nonneg hnonneg]

theorem smallRank_lt : smallRank < rankCount := by decide +kernel

theorem largeRank_lt : largeRank < rankCount := by decide +kernel

theorem readNumber?_small :
    Token.readNumber? (Text.lit "1e-6") = some (finite false ⟨smallRank, smallRank_lt⟩) := by
  decide +kernel

theorem readNumber?_large :
    Token.readNumber? (Text.lit "1e21") = some (finite false ⟨largeRank, largeRank_lt⟩) := by
  decide +kernel

theorem value_between_iff (s : Bool) (r : Fin rankCount) :
    (value (finite false ⟨smallRank, smallRank_lt⟩) ≤ |value (finite s r)| ∧
      |value (finite s r)| < value (finite false ⟨largeRank, largeRank_lt⟩)) ↔
    smallRank ≤ r.val ∧ r.val < largeRank := by
  have hunsigned : ∀ k : Fin rankCount, value (finite false k) = magnitude k := value_finite false
  rw [hunsigned, hunsigned, abs_value_finite, magnitude_strictMono.le_iff_le,
    magnitude_strictMono.lt_iff_lt]

/-- A number that is not a zero has the form that its magnitude asks for. -/
theorem displayText_finite (s : Bool) {r : Fin rankCount} (hr : r.val ≠ 0) :
    ∃ body, (finite s r).displayText = signed s body ∧ body.length ≤ 24 ∧
      (smallRank ≤ r.val ∧ r.val < largeRank → Numeral.IsPlain body) ∧
      (¬ (smallRank ≤ r.val ∧ r.val < largeRank) → Numeral.IsScientific body) := by
  have hrank := Nat.pos_of_ne_zero hr
  obtain ⟨place, hcoarsest⟩ := Decimal.exists_isCoarsest hrank
  have hpos := hcoarsest.coefficient_pos hrank
  have hlast := hcoarsest.coefficient_mod_ten
  have hdigits := hcoarsest.length_digits_le_seventeen hrank
  by_cases hrange : largeRank ≤ r.val ∨ r.val < smallRank
  · obtain ⟨hlow, hhigh⟩ := hcoarsest.pointPosition_bounds hrank r.isLt
    refine ⟨(Decimal.shortest r).scientific, ?_, ?_, ?_, ?_⟩
    · rw [displayText, if_neg hr]
      dsimp only
      rw [if_pos hrange]
    · apply Decimal.length_scientific_le hlow hhigh hdigits
    · intro hplain
      omega
    · intro _
      apply Decimal.scientific_isScientific hpos hlast
  · have hlow := hcoarsest.le_pointPosition hrank (by omega)
    have hhigh := hcoarsest.pointPosition_le hrank (by omega)
    refine ⟨(Decimal.shortest r).positional, ?_, ?_, ?_, ?_⟩
    · rw [displayText, if_neg hr]
      dsimp only
      rw [if_neg hrange]
    · apply Decimal.length_positional_le hlow hhigh hdigits
    · intro _
      apply Decimal.positional_isPlain hpos hlast
    · intro hplain
      omega

/-- No numeral that is read as a number has fewer significant digits than the one on display. -/
theorem exists_read?_fewest {v : Binary64} (h : v.isFinite = true) :
    ∃ x, Numeral.read? v.displayText = some x ∧ x.significant.length ≤ 17 ∧
      ∀ t y, Numeral.read? t = some y → y.toBinary64 = v →
        x.significant.length ≤ y.significant.length := by
  obtain ⟨s, r, rfl⟩ := exists_finite h
  by_cases hr : r.val = 0
  · have hzero : (finite s r).displayText = ['0'] := if_pos hr
    refine ⟨⟨false, ['0'], [], 0⟩, ?_, ?_, ?_⟩
    · rw [hzero]
      rfl
    · apply Nat.zero_le
    · intro t y _ _
      apply Nat.zero_le
  · have hrank := Nat.pos_of_ne_zero hr
    obtain ⟨place, hcoarsest⟩ := Decimal.exists_isCoarsest hrank
    obtain ⟨x, hread, hx⟩ := exists_read?_displayText s hr
    have hshown := hx.length_significant_le (hcoarsest.coefficient_pos hrank)
    have hdigits := hcoarsest.length_digits_le_seventeen hrank
    refine ⟨x, hread, Nat.le_trans hshown hdigits, ?_⟩
    intro t y hy hvalue
    have hspelled := ((Numeral.read?_eq_some_iff t y).mp hy).digits.2
    have hfewest := Numeral.length_digits_le_significant hspelled hvalue hrank
    omega

/-- A number on display. A zero has no sign. A number from `1e-6` up to `1e21`, without the latter,
is written in places around a point, any other with a power of ten; neither has zeros that could be
left out. There are at most 25 visible characters and 17 significant digits, and no numeral that is
read as the number has fewer of these. -/
theorem displayText_shortest {v : Binary64} (h : v.isFinite = true) :
    ∃ low high, Token.readNumber? (Text.lit "1e-6") = some low ∧
      Token.readNumber? (Text.lit "1e21") = some high ∧
      (v.isZero = true → v.displayText = ['0']) ∧
      (v.isZero = false → ∃ body, v.displayText = signed v.isNegative body ∧
        (low.value ≤ |v.value| ∧ |v.value| < high.value → Numeral.IsPlain body) ∧
        (¬ (low.value ≤ |v.value| ∧ |v.value| < high.value) → Numeral.IsScientific body)) ∧
      v.displayText.length ≤ 25 ∧
      (∀ c ∈ v.displayText, Text.isGraphic c = true) ∧
      ∃ x, Numeral.read? v.displayText = some x ∧ x.significant.length ≤ 17 ∧
        ∀ t y, Numeral.read? t = some y → y.toBinary64 = v →
          x.significant.length ≤ y.significant.length := by
  obtain ⟨s, r, rfl⟩ := exists_finite h
  refine ⟨_, _, readNumber?_small, readNumber?_large, ?zero, ?form, ?length, displayText_graphic _,
    exists_read?_fewest h⟩
  case zero =>
    intro hzero
    exact if_pos (beq_iff_eq.mp hzero)
  case form =>
    intro hzero
    obtain ⟨body, htext, -, hplain, hscientific⟩ :=
      displayText_finite s (beq_eq_false_iff_ne.mp hzero)
    rw [← value_between_iff s r] at hplain hscientific
    exact ⟨body, htext, hplain, hscientific⟩
  case length =>
    by_cases hr : r.val = 0
    · have hzero : (finite s r).displayText = ['0'] := if_pos hr
      rw [hzero]
      decide
    · obtain ⟨body, htext, hlength, -, -⟩ := displayText_finite s hr
      have hsigned := length_signed_le s body
      rw [htext]
      omega

/-- Five zeros behind the point, seventeen digits behind these, and a sign. -/
def longestText : Text := Text.lit "-0.0000012345678901234567"

/-- The bounds are reached, and there is no way to write the number with fewer digits. -/
theorem displayText_shortest_longest :
    longestText.length = 25 ∧ ∃ v, Token.readNumber? longestText = some v ∧
      v.displayText = longestText ∧
      ∀ t y, Numeral.read? t = some y → y.toBinary64 = v → 17 ≤ y.significant.length := by
  have hread : (Token.readNumber? longestText).map (fun v => (v.displayText, v.isFinite)) =
      some (longestText, true) := by
    decide +kernel
  have hdigits : (Numeral.read? longestText).map (fun x => x.significant.length) = some 17 := by
    decide +kernel
  obtain ⟨v, hv, hfacts⟩ := Option.map_eq_some_iff.mp hread
  obtain ⟨htext, hfinite⟩ := Prod.mk.inj hfacts
  obtain ⟨_, _, -, -, -, -, -, -, x, hx, -, hfewest⟩ := displayText_shortest hfinite
  rw [htext] at hx
  rw [hx] at hdigits
  have hlength : x.significant.length = 17 := Option.some.inj hdigits
  refine ⟨by decide, v, hv, htext, ?_⟩
  intro t y hy hvalue
  have hle := hfewest t y hy hvalue
  omega

end Binary64

end PostfixCalc

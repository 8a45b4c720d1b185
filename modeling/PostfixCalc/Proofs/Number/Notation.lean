import PostfixCalc.Number.Notation

namespace PostfixCalc

namespace Text

/-- Whether a code point is one of the visible characters of ASCII. -/
def isGraphic (c : Char) : Bool := decide (0x21 ≤ c.toNat ∧ c.toNat ≤ 0x7E)

theorem isGraphic_of_isDigit {c : Char} (h : c.isDigit = true) : isGraphic c = true := by
  simp only [Char.isDigit, ge_iff_le, Bool.and_eq_true, decide_eq_true_eq,
    UInt32.le_iff_toNat_le] at h
  change 48 ≤ c.toNat ∧ c.toNat ≤ 57 at h
  simp only [isGraphic, decide_eq_true_eq]
  omega

theorem isGraphic_of_mem_toDigits {n : Nat} {c : Char} (h : c ∈ Nat.toDigits 10 n) :
    isGraphic c = true :=
  isGraphic_of_isDigit (Nat.isDigit_of_mem_toDigits (by decide) (by decide) h)

end Text

open Text (isGraphic isGraphic_of_mem_toDigits)

namespace Decimal

theorem digits_graphic (d : Decimal) : ∀ c ∈ d.digits, isGraphic c = true :=
  fun _ hc => isGraphic_of_mem_toDigits hc

theorem zeros_graphic (n : Nat) : ∀ c ∈ List.replicate n '0', isGraphic c = true := by
  intro c hc
  obtain rfl := List.eq_of_mem_replicate hc
  rfl

theorem positional_graphic (d : Decimal) : ∀ c ∈ d.positional, isGraphic c = true := by
  have hd := d.digits_graphic
  intro c hc
  simp only [positional] at hc
  split at hc
  · simp only [List.mem_cons, List.mem_append] at hc
    rcases hc with rfl | rfl | hc | hc
    · rfl
    · rfl
    · exact zeros_graphic _ c hc
    · exact hd c hc
  · split at hc
    · rcases List.mem_append.mp hc with hc | hc
      · exact hd c hc
      · exact zeros_graphic _ c hc
    · simp only [List.mem_append, List.mem_cons] at hc
      rcases hc with hc | rfl | hc
      · exact hd c (List.mem_of_mem_take hc)
      · rfl
      · exact hd c (List.mem_of_mem_drop hc)

theorem wholeText_graphic (n : Int) : ∀ c ∈ wholeText n, isGraphic c = true := by
  intro c hc
  cases n with
  | ofNat n => exact isGraphic_of_mem_toDigits hc
  | negSucc n =>
    simp only [wholeText, List.mem_cons] at hc
    rcases hc with rfl | hc
    · rfl
    · exact isGraphic_of_mem_toDigits hc

theorem scientific_graphic (d : Decimal) : ∀ c ∈ d.scientific, isGraphic c = true := by
  have hd := d.digits_graphic
  have he := wholeText_graphic (d.pointPosition - 1)
  intro c hc
  simp only [scientific, List.mem_append, List.mem_cons] at hc
  rcases hc with hc | rfl | hc
  · split at hc
    · simp at hc
    · next a ha =>
      obtain rfl : c = a := by simpa using hc
      exact hd c (by simp [ha])
    · next a as _ ha =>
      simp only [List.mem_cons] at hc
      rcases hc with rfl | rfl | hc
      · exact hd c (by simp [ha])
      · rfl
      · exact hd c (by simp [ha, hc])
  · rfl
  · exact he c hc

end Decimal

namespace Binary64

theorem signed_graphic (negative : Bool) {s : Text} (h : ∀ c ∈ s, isGraphic c = true) :
    ∀ c ∈ signed negative s, isGraphic c = true := by
  cases negative with
  | false => exact h
  | true =>
    intro c hc
    rcases List.mem_cons.mp hc with rfl | hc
    · rfl
    · exact h c hc

/-- What is on display is visible. -/
theorem displayText_graphic (v : Binary64) : ∀ c ∈ v.displayText, isGraphic c = true := by
  cases v with
  | nan => exact List.all_eq_true.mp (by decide)
  | infinite s => exact signed_graphic s (List.all_eq_true.mp (by decide))
  | finite s r =>
    simp only [displayText]
    split
    · exact List.all_eq_true.mp (by decide)
    · apply signed_graphic
      split
      · exact Decimal.scientific_graphic _
      · exact Decimal.positional_graphic _

/-- What is written in a message is visible. -/
theorem plainText_graphic (v : Binary64) : ∀ c ∈ v.plainText, isGraphic c = true := by
  cases v with
  | nan => exact List.all_eq_true.mp (by decide)
  | infinite s => exact signed_graphic s (List.all_eq_true.mp (by decide))
  | finite s r =>
    apply signed_graphic
    split
    · exact List.all_eq_true.mp (by decide)
    · exact Decimal.positional_graphic _

end Binary64

end PostfixCalc

import Mathlib.Tactic.Ring
import PostfixCalc.Text.Basic

namespace PostfixCalc.Text

theorem isDigit_iff {c : Char} : isDigit c = true ↔ 48 ≤ c.toNat ∧ c.toNat ≤ 57 := by
  rw [isDigit, Bool.and_eq_true, decide_eq_true_iff, decide_eq_true_iff, Char.le_def, Char.le_def,
    UInt32.le_iff_toNat_le, UInt32.le_iff_toNat_le]
  rfl

theorem isDigit_of_mem_toDigits {n : Nat} {c : Char} (h : c ∈ Nat.toDigits 10 n) :
    isDigit c = true :=
  Nat.isDigit_of_mem_toDigits (by decide) (by decide) h

theorem digitsValue_eq (s : Text) : digitsValue s = Nat.ofDigitChars 10 s 0 :=
  Nat.ofDigitChars_eq_foldl.symm

@[simp] theorem digitsValue_toDigits (n : Nat) : digitsValue (Nat.toDigits 10 n) = n := by
  rw [digitsValue_eq, Nat.ofDigitChars_ten_toDigits]

theorem lt_pow_length_toDigits (n : Nat) : n < 10 ^ (Nat.toDigits 10 n).length := by
  have hten : 1 < 10 := by decide
  apply (Nat.length_toDigits_le_iff hten Nat.length_toDigits_pos).mp
  apply Nat.le_refl

theorem pow_length_toDigits_le {n : Nat} (hn : 0 < n) :
    10 ^ ((Nat.toDigits 10 n).length - 1) ≤ n := by
  have hten : 1 < 10 := by decide
  by_cases hone : (Nat.toDigits 10 n).length - 1 = 0
  · rw [hone, Nat.pow_zero]
    exact hn
  · by_contra hlt
    have hle := (Nat.length_toDigits_le_iff hten (Nat.pos_of_ne_zero hone)).mpr
      (Nat.lt_of_not_le hlt)
    omega

theorem length_toDigits_le {m n : Nat} (h : m ≤ n) :
    (Nat.toDigits 10 m).length ≤ (Nat.toDigits 10 n).length := by
  have hten : 1 < 10 := by decide
  have hn := lt_pow_length_toDigits n
  apply (Nat.length_toDigits_le_iff hten Nat.length_toDigits_pos).mpr
  omega

theorem digitsValue_append (a b : Text) :
    digitsValue (a ++ b) = digitsValue a * 10 ^ b.length + digitsValue b := by
  rw [digitsValue_eq, Nat.ofDigitChars_append, Nat.ofDigitChars_eq_ofDigitChars_zero,
    ← digitsValue_eq, ← digitsValue_eq, Nat.mul_comm]

theorem digitsValue_zeros (n : Nat) : digitsValue (List.replicate n '0') = 0 := by
  rw [digitsValue_eq, Nat.ofDigitChars_replicate_zero, Nat.mul_zero]

theorem digitsValue_cons (c : Char) (s : Text) :
    digitsValue (c :: s) = digitValue c * 10 ^ s.length + digitsValue s := by
  have h := digitsValue_append [c] s
  rwa [List.singleton_append, show digitsValue [c] = digitValue c from Nat.zero_add _] at h

theorem digitValue_le {c : Char} (h : isDigit c = true) : digitValue c ≤ 9 := by
  have hle := (isDigit_iff.mp h).2
  change c.toNat - 48 ≤ 9
  omega

theorem digitValue_pos {c : Char} (h : isDigit c = true) (hc : c ≠ '0') : 0 < digitValue c := by
  have hge := (isDigit_iff.mp h).1
  have hne : c.toNat ≠ 48 := fun heq => hc (Char.toNat_inj.mp heq)
  change 0 < c.toNat - 48
  omega

theorem digitsValue_append_mod_ten (s : Text) {c : Char} (h : isDigit c = true) :
    digitsValue (s ++ [c]) % 10 = digitValue c := by
  have hle := digitValue_le h
  have hone : digitsValue [c] = digitValue c := Nat.zero_add _
  rw [digitsValue_append, hone, List.length_singleton]
  omega

theorem digitsValue_lt {s : Text} (h : ∀ c ∈ s, isDigit c = true) :
    digitsValue s < 10 ^ s.length := by
  induction s with
  | nil => exact Nat.one_pos
  | cons c s ih =>
    have hrest := ih fun d hd => h d (List.mem_cons_of_mem c hd)
    have hfirst := Nat.mul_le_mul_right (10 ^ s.length) (digitValue_le (h c List.mem_cons_self))
    rw [digitsValue_cons, List.length_cons, Nat.pow_succ]
    omega

theorem head?_toDigits {n : Nat} (hn : 0 < n) : (Nat.toDigits 10 n).head? ≠ some '0' := by
  intro hhead
  obtain ⟨s, hs⟩ := List.head?_eq_some_iff.mp hhead
  have hvalue := digitsValue_toDigits n
  have hrest : ∀ c ∈ s, isDigit c = true := by
    intro c hc
    have hmem : c ∈ Nat.toDigits 10 n := hs ▸ List.mem_cons_of_mem _ hc
    apply isDigit_of_mem_toDigits hmem
  have hlow := pow_length_toDigits_le hn
  have hlt := digitsValue_lt hrest
  rw [hs, digitsValue_cons, show digitValue '0' = 0 from rfl, Nat.zero_mul, Nat.zero_add] at hvalue
  rw [hs, List.length_cons, Nat.add_sub_cancel] at hlow
  omega

theorem getLast?_toDigits {n : Nat} (hn : n % 10 ≠ 0) : (Nat.toDigits 10 n).getLast? ≠ some '0' := by
  intro hlast
  obtain ⟨s, hs⟩ := List.getLast?_eq_some_iff.mp hlast
  have hzero : digitsValue (s ++ ['0']) % 10 = 0 := digitsValue_append_mod_ten s rfl
  rw [← hs, digitsValue_toDigits] at hzero
  exact hn hzero

/-- Zeros in front change nothing. -/
theorem digitsValue_dropWhile (s : Text) : digitsValue (s.dropWhile (· = '0')) = digitsValue s := by
  induction s with
  | nil => rfl
  | cons c s ih =>
    by_cases hc : c = '0'
    · rw [List.dropWhile_cons_of_pos (by simpa using hc), ih, digitsValue_cons, hc]
      change _ = 0 * 10 ^ s.length + _
      rw [Nat.zero_mul, Nat.zero_add]
    · rw [List.dropWhile_cons_of_neg (by simpa using hc)]

/-- How many digits there are behind the zeros in front tells how large the number is. -/
theorem digitsValue_bounds {s : Text} (h : ∀ c ∈ s, isDigit c = true) (hs : digitsValue s ≠ 0) :
    let places := (s.dropWhile (· = '0')).length
    0 < places ∧ 10 ^ (places - 1) ≤ digitsValue s ∧ digitsValue s < 10 ^ places := by
  intro places
  have hvalue := digitsValue_dropWhile s
  have hdigits : ∀ c ∈ s.dropWhile (· = '0'), isDigit c = true :=
    fun c hc => h c (List.dropWhile_subset _ hc)
  have hlt := digitsValue_lt hdigits
  rw [hvalue] at hlt
  cases hrest : s.dropWhile (· = '0') with
  | nil =>
    rw [hrest] at hvalue
    exact absurd hvalue.symm hs
  | cons c t =>
    have hc : c ≠ '0' := by
      have hhead := List.head?_dropWhile_not (fun c => decide (c = '0')) s
      rw [hrest] at hhead
      simpa using hhead
    have hfirst := digitValue_pos (hdigits c (hrest ▸ List.mem_cons_self)) hc
    have hplaces : places = t.length + 1 := congrArg List.length hrest
    have hge : 10 ^ t.length ≤ digitValue c * 10 ^ t.length := Nat.le_mul_of_pos_left _ hfirst
    rw [hrest, digitsValue_cons] at hvalue
    refine ⟨by omega, ?_, hlt⟩
    rw [hplaces, Nat.add_sub_cancel]
    omega

end PostfixCalc.Text

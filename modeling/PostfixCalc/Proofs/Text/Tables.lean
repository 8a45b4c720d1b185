import Mathlib.Data.List.Chain
import PostfixCalc.Text.Basic

namespace PostfixCalc.Text.Property.Ranges

theorem holds_cons (i : Nat × Nat) (table : Ranges) (c : Char) :
    holds (i :: table) c = (decide (i.1 ≤ c.toNat) && decide (c.toNat ≤ i.2) || holds table c) :=
  rfl

theorem le_toNat_of_holds {table : Ranges} {n : Nat} (hlow : ∀ i ∈ table, n ≤ i.1) {c : Char}
    (hc : table.holds c = true) : n ≤ c.toNat := by
  simp only [holds, List.any_eq_true, Bool.and_eq_true, decide_eq_true_eq] at hc
  obtain ⟨i, hi, hle, -⟩ := hc
  exact Nat.le_trans (hlow i hi) hle

/-- The intervals begin one behind the other. -/
def Ascending (table : Ranges) : Prop := table.IsChain fun i j => i.1 ≤ j.1

instance (table : Ranges) : Decidable table.Ascending :=
  inferInstanceAs (Decidable (table.IsChain _))

theorem Ascending.le {i : Nat × Nat} {table : Ranges} (h : Ascending (i :: table)) :
    ∀ j ∈ table, i.1 ≤ j.1 := by
  have : IsTrans (Nat × Nat) fun i j => i.1 ≤ j.1 := ⟨fun _ _ _ => Nat.le_trans⟩
  exact (List.pairwise_cons.mp (List.isChain_iff_pairwise.mp h)).1

/-- What an ascending table holds lies behind the beginning of its first interval. -/
theorem Ascending.le_of_holds {i : Nat × Nat} {table : Ranges} (h : Ascending (i :: table)) {c : Char}
    (hc : holds (i :: table) c = true) : i.1 ≤ c.toNat :=
  le_toNat_of_holds (List.forall_mem_cons.mpr ⟨Nat.le_refl _, h.le⟩) hc

/-- The table without the intervals that end before a code point. -/
def since (table : Ranges) (n : Nat) : Ranges := table.dropWhile fun j => decide (j.2 < n)

theorem since_holds (table : Ranges) {n : Nat} {c : Char} (h : n ≤ c.toNat) :
    (table.since n).holds c = table.holds c := by
  induction table with
  | nil => rfl
  | cons j table ih =>
    by_cases hj : j.2 < n
    · have hout : ¬ c.toNat ≤ j.2 := by omega
      have hsince : since (j :: table) n = since table n := by simp [since, hj]
      rw [hsince, ih, holds_cons, decide_eq_false hout, Bool.and_false, Bool.false_or]
    · have hsince : since (j :: table) n = j :: table := by simp [since, hj]
      rw [hsince]

theorem Ascending.since {table : Ranges} (h : table.Ascending) (n : Nat) :
    (table.since n).Ascending :=
  h.suffix (List.dropWhile_suffix _)

/-- Asks of every interval of the first table what is next to it in the second one. -/
def sweep (ask : Nat × Nat → Option (Nat × Nat) → Bool) : Ranges → Ranges → Bool
  | [], _ => true
  | i :: table, other =>
    ask i (other.since i.1).head? && sweep ask table (other.since i.1)

theorem sweep_holds {ask : Nat × Nat → Option (Nat × Nat) → Bool} {table other : Ranges}
    (htable : table.Ascending) (hother : other.Ascending) (h : sweep ask table other = true)
    {c : Char} (hc : table.holds c = true) :
    ∃ i rest, ask i (List.head? rest) = true ∧ i.1 ≤ c.toNat ∧ c.toNat ≤ i.2 ∧
      Ascending rest ∧ holds rest c = other.holds c := by
  induction table generalizing other with
  | nil => cases hc
  | cons i table ih =>
    obtain ⟨hask, hmore⟩ := Bool.and_eq_true_iff.mp h
    have hsame := since_holds other (htable.le_of_holds hc)
    by_cases hi : i.1 ≤ c.toNat ∧ c.toNat ≤ i.2
    · exact ⟨i, _, hask, hi.1, hi.2, hother.since i.1, hsame⟩
    · have hrest : holds table c = true := by
        simpa only [holds_cons, Bool.or_eq_true, Bool.and_eq_true, decide_eq_true_eq, hi,
          false_or] using hc
      obtain ⟨j, rest, hask, hlow, hhigh, hasc, heq⟩ :=
        ih htable.tail (hother.since i.1) hmore hrest
      exact ⟨j, rest, hask, hlow, hhigh, hasc, heq.trans hsame⟩

/-- Both tables are in order, and each interval of the first lies in one of the second. -/
def within (table other : Ranges) : Bool :=
  sweep (fun i next => next.any fun j => decide (j.1 ≤ i.1) && decide (i.2 ≤ j.2)) table other

theorem holds_of_within {table other : Ranges} (htable : table.Ascending) (hother : other.Ascending)
    (h : table.within other = true) {c : Char} (hc : table.holds c = true) :
    other.holds c = true := by
  obtain ⟨i, rest, hask, hlow, hhigh, -, hsame⟩ := sweep_holds htable hother h hc
  rw [← hsame]
  cases rest with
  | nil => cases hask
  | cons j rest =>
    have hj : j.1 ≤ i.1 ∧ i.2 ≤ j.2 := by simpa using hask
    have hle : j.1 ≤ c.toNat := by omega
    have hge : c.toNat ≤ j.2 := by omega
    rw [holds_cons, decide_eq_true hle, decide_eq_true hge]
    rfl

/-- No interval of the first table meets one of the second. -/
def avoids (table other : Ranges) : Bool :=
  sweep (fun i next => next.all fun j => decide (i.2 < j.1)) table other

theorem not_holds_of_avoids {table other : Ranges} (htable : table.Ascending)
    (hother : other.Ascending) (h : table.avoids other = true) {c : Char}
    (hc : table.holds c = true) : other.holds c = false := by
  obtain ⟨i, rest, hask, hlow, hhigh, hasc, hsame⟩ := sweep_holds htable hother h hc
  rw [← hsame]
  cases rest with
  | nil => rfl
  | cons j rest =>
    have hj : i.2 < j.1 := by simpa using hask
    rw [Bool.eq_false_iff]
    intro hholds
    have hle := hasc.le_of_holds hholds
    omega

end PostfixCalc.Text.Property.Ranges

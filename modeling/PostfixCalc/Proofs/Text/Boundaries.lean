import Mathlib.Tactic.ByContra
import Mathlib.Tactic.SplitIfs
import PostfixCalc.Proofs.Text.Joins
import PostfixCalc.Proofs.Text.Tables
import PostfixCalc.Text.Width

namespace PostfixCalc.Text

set_option maxRecDepth 8192

namespace ClusterClass

/-- No mark joins a code point of the class. -/
def standsAlone : ClusterClass → Bool
  | cr | lf | control => true
  | _ => false

theorem of_eq_ofWide {c : Char} (h : 0x80 ≤ c.toNat) : of c = ofWide c := by
  have hreturn : c ≠ '\r' := by
    rintro rfl
    exact absurd h (by decide)
  have hfeed : c ≠ '\n' := by
    rintro rfl
    exact absurd h (by decide)
  simp [of, hreturn, hfeed, Nat.not_lt.mpr h]

theorem standsAlone_ofWide {c : Char} (h : Property.control.holds c = false) :
    (ofWide c).standsAlone = false := by
  simp only [ofWide, h, apply_ite standsAlone, Bool.false_eq_true, if_false]
  simp only [standsAlone, ite_self]

/-- A code point that stands alone is a control. -/
theorem holds_control_of_standsAlone {c : Char} (h : (of c).standsAlone = true)
    (hlow : 0x20 ≤ c.toNat) : Property.control.holds c = true := by
  unfold of at h
  split_ifs at h with hreturn hfeed hascii hcontrol
  · rw [hreturn] at hlow
    exact absurd hlow (by decide)
  · rw [hfeed] at hlow
    exact absurd hlow (by decide)
  · have hdelete : c = '\x7f' := by
      apply Char.toNat_inj.mp
      change c.toNat = 0x7F
      omega
    rw [hdelete]
    decide
  · cases h
  · by_contra hnone
    rw [standsAlone_ofWide (Bool.eq_false_iff.mpr hnone)] at h
    cases h

theorem control_ascending : Property.control.Ascending := by decide

theorem not_standsAlone_of_avoids {table : Property.Ranges} (hasc : table.Ascending)
    (hlow : ∀ i ∈ table, 0x20 ≤ i.1) (hcontrol : table.avoids Property.control = true) {c : Char}
    (hc : table.holds c = true) : (of c).standsAlone = false := by
  have hfrom := Property.Ranges.le_toNat_of_holds hlow hc
  have hnone := Property.Ranges.not_holds_of_avoids hasc control_ascending hcontrol hc
  cases h : (of c).standsAlone with
  | false => rfl
  | true =>
    rw [holds_control_of_standsAlone h hfrom] at hnone
    cases hnone

theorem of_eq_extend {table : Property.Ranges} (hasc : table.Ascending)
    (hlow : ∀ i ∈ table, 0x200E ≤ i.1) (hextend : table.within Property.extend = true)
    (hlinkers : table.avoids Property.conjunctLinkers = true) {c : Char}
    (hc : table.holds c = true) : of c = extend := by
  have hfrom := Property.Ranges.le_toNat_of_holds hlow hc
  have hextendAsc : Property.extend.Ascending := by decide
  have hlinkersAsc : Property.conjunctLinkers.Ascending := by decide
  have hmark := Property.Ranges.holds_of_within hasc hextendAsc hextend hc
  have hnone := Property.Ranges.not_holds_of_avoids hasc hlinkersAsc hlinkers hc
  have hjoiner : c.toNat ≠ 0x200D := by omega
  have hnonJoiner : c.toNat ≠ 0x200C := by omega
  rw [of_eq_ofWide (by omega)]
  simp [ofWide, hjoiner, hnonJoiner, hnone, hmark]

theorem of_eq_regional {c : Char} (h : isRegional c = true) : of c = regional := by
  let table : Property.Ranges := [(0x1F1E6, 0x1F1FF)]
  have hasc : table.Ascending := by decide
  have hc : table.holds c = true := by simpa [table, Property.Ranges.holds, isRegional] using h
  have hrange : 0x1F1E6 ≤ c.toNat ∧ c.toNat ≤ 0x1F1FF := by simpa [isRegional] using h
  have hlinkersAsc : Property.conjunctLinkers.Ascending := by decide
  have hextendAsc : Property.extend.Ascending := by decide
  have hspacingAsc : Property.spacing.Ascending := by decide
  have hlinkers := Property.Ranges.not_holds_of_avoids hasc hlinkersAsc (by decide) hc
  have hextend := Property.Ranges.not_holds_of_avoids hasc hextendAsc (by decide) hc
  have hspacing := Property.Ranges.not_holds_of_avoids hasc hspacingAsc (by decide) hc
  have hcontrol := Property.Ranges.not_holds_of_avoids hasc control_ascending (by decide) hc
  have hjoiner : c.toNat ≠ 0x200D := by omega
  have hnonJoiner : c.toNat ≠ 0x200C := by omega
  rw [of_eq_ofWide (by omega)]
  simp [ofWide, hjoiner, hnonJoiner, hlinkers, hextend, hspacing, hcontrol, hrange]

/-- Only regional indicators have the class of that name. -/
theorem isRegional_of_eq {c : Char} (h : of c = regional) : isRegional c = true := by
  by_contra hnone
  have hrange : ¬ (0x1F1E6 ≤ c.toNat ∧ c.toNat ≤ 0x1F1FF) := by simpa [isRegional] using hnone
  have hwide : decide (ofWide c = regional) = false := by
    simp only [ofWide, if_neg hrange, apply_ite (fun k => decide (k = regional))]
    simp
  unfold of at h
  split_ifs at h with hreturn hfeed hascii hcontrol
  exact absurd h (of_decide_eq_false hwide)

end ClusterClass

namespace Tail

theorem plain_next (k : ClusterClass) : plain.next k = start k := by
  cases k <;> rfl

theorem links_joins {t : Tail} (h : t.links = true) :
    t.joins .extend = true ∧ t.joins .joiner = true := by
  cases t <;> simp_all [links, joins]

theorem start_joins {k : ClusterClass} (h : k.standsAlone = false) :
    (start k).joins .extend = true ∧ (start k).joins .joiner = true := by
  cases k <;> simp_all [ClusterClass.standsAlone, start, joins]

theorem eq_regional_of_start {k : ClusterClass} (h : start k = regional) : k = .regional := by
  cases k <;> simp_all [start]

theorem eq_regional_of_next {t : Tail} {k : ClusterClass} (h : t.next k = regional) :
    k = .regional := by
  rcases t.next_cases k with hnext | ⟨hlinks, -⟩ | ⟨hnext, -⟩
  · exact eq_regional_of_start (hnext ▸ h)
  · rw [h] at hlinks
    cases hlinks
  · rw [h] at hnext
    cases hnext

theorem after_concat (t : Tail) (s : Text) (c : Char) :
    t.after (s ++ [c]) =
      if (t.after s).joins (ClusterClass.of c) then (t.after s).next (ClusterClass.of c)
      else start (ClusterClass.of c) := by
  induction s generalizing t with
  | nil => rfl
  | cons d s ih =>
    rw [List.cons_append, after, after]
    split
    · exact ih _
    · exact ih _

end Tail

theorem endTail_concat (s : Text) (c : Char) :
    endTail (s ++ [c]) =
      if (endTail s).joins (ClusterClass.of c) then (endTail s).next (ClusterClass.of c)
      else .start (ClusterClass.of c) := by
  cases s with
  | nil =>
    change Tail.start _ = if _ then Tail.plain.next _ else _
    rw [Tail.plain_next, ite_self]
  | cons d s => exact Tail.after_concat _ s c

/-- A code point that does not stand alone is joined by the marks behind it. -/
theorem endTail_joins_mark (s : Text) {c : Char} (h : (ClusterClass.of c).standsAlone = false) :
    (endTail (s ++ [c])).joins .extend = true ∧ (endTail (s ++ [c])).joins .joiner = true := by
  have hstart := Tail.start_joins h
  rw [endTail_concat]
  split
  · rcases (endTail s).next_cases (ClusterClass.of c) with hnext | ⟨hlinks, -⟩ | ⟨hnext, -⟩
    · rw [hnext]
      exact hstart
    · exact Tail.links_joins hlinks
    · rw [hnext]
      exact ⟨rfl, rfl⟩
  · exact hstart

theorem endTail_return (s : Text) : (endTail (s ++ ['\r'])).joins .lf = true := by
  have hclass : ClusterClass.of '\r' = .cr := rfl
  have hjoins : (endTail s).joins .cr = false := by
    cases endTail s <;> rfl
  rw [endTail_concat, hclass, hjoins]
  rfl

theorem endTail_joins_vowel (s : Text) {c : Char} (h : ClusterClass.of c = .vowel) :
    (endTail (s ++ [c])).joins .vowel = true := by
  have hnext : (endTail s).next .vowel = .vowel := by
    cases endTail s <;> rfl
  rw [endTail_concat, h, hnext]
  split <;> rfl

/-- A regional indicator that another one does not join has been paired with the one before it. -/
theorem endTail_of_regional {s : Text} {c : Char} (hc : ClusterClass.of c = .regional)
    (h : (endTail (s ++ [c])).joins .regional = false) : endTail s = .regional := by
  rw [endTail_concat, hc] at h
  by_contra hne
  have hnext : (endTail s).next .regional = .regional := by
    cases ht : endTail s <;> simp_all [Tail.next, Tail.start]
  rw [hnext] at h
  split at h <;> cases h

/-- An unpaired regional indicator is the last code point. -/
theorem exists_regional_of_endTail {s : Text} (h : endTail s = .regional) :
    ∃ s' c, s = s' ++ [c] ∧ ClusterClass.of c = .regional := by
  rcases List.eq_nil_or_concat' s with rfl | ⟨s', c, rfl⟩
  · cases h
  · refine ⟨s', c, rfl, ?_⟩
    rw [endTail_concat] at h
    split at h
    · exact Tail.eq_regional_of_next h
    · exact Tail.eq_regional_of_start h

/-- Between clusters the code point behind does not join what is in front. -/
theorem not_joins_of_apart {a b : Text} {c : Char} (ha : a ≠ []) (h : Apart a (c :: b)) :
    (endTail a).joins (ClusterClass.of c) = false := by
  by_contra hjoins
  have hclusters := clusters_ne_nil ha
  have hrest : (splitFrom (endTail a) (c :: b)).1 =
      c :: (splitFrom ((endTail a).next (ClusterClass.of c)) b).1 := by
    rw [splitFrom, if_pos (by simpa using hjoins)]
  rw [Apart, clusters_append ha, hrest] at h
  have hfront := List.append_inj_left h (extendLast_length _ _)
  have hflat := congrArg List.flatten hfront
  rw [flatten_extendLast hclusters, flatten_clusters] at hflat
  simp at hflat

end PostfixCalc.Text

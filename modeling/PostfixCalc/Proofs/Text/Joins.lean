import PostfixCalc.Proofs.Text.Cuts

namespace PostfixCalc.Text

/-- The number of clusters that begin in a text behind a tail. -/
def breaks (tail : Tail) (s : Text) : Nat := (splitFrom tail s).2.length

theorem breaks_cons (tail : Tail) (c : Char) (s : Text) :
    breaks tail (c :: s) =
      if tail.joins (ClusterClass.of c) then breaks (tail.next (ClusterClass.of c)) s
      else breaks (.start (ClusterClass.of c)) s + 1 := by
  unfold breaks
  rw [splitFrom]
  split <;> rfl

theorem length_clusters_cons (c : Char) (s : Text) :
    (clusters (c :: s)).length = breaks (.start (ClusterClass.of c)) s + 1 := rfl

theorem length_clusters_append {a : Text} (ha : a ≠ []) (b : Text) :
    (clusters (a ++ b)).length = (clusters a).length + breaks (endTail a) b := by
  rw [clusters_append ha, List.length_append, extendLast_length, breaks]

namespace Tail

/-- Whether a tail may still take in a code point by which a plain one is ended. -/
def links : Tail → Bool
  | pictograph | joined | consonant | linked => true
  | _ => false

/-- What a tail becomes is what the code point begins by itself, but for a link that is kept up and
for a pair of regional indicators. -/
theorem next_cases (t : Tail) (k : ClusterClass) :
    t.next k = start k ∨ ((t.next k).links = true ∧ start k = plain) ∨
      (t.next k = plain ∧ start k = regional) := by
  cases t <;> cases k <;> simp [next, start, links]

theorem joins_of_links {t : Tail} (ht : t.links = true) {k : ClusterClass}
    (hk : plain.joins k = true) :
    t.joins k = true ∧ plain.next k = plain ∧ ((t.next k).links = true ∨ t.next k = plain) := by
  cases t <;> cases k <;> simp_all [joins, next, start, links]

theorem next_of_links {t : Tail} (ht : t.links = true) {k : ClusterClass}
    (hk : plain.joins k = false) (hj : t.joins k = true) : t.next k = start k := by
  cases t <;> cases k <;> simp_all [joins, next, links]

theorem regional_eq_plain {k : ClusterClass} (hk : k ≠ .regional) :
    regional.joins k = plain.joins k ∧ regional.next k = start k ∧ plain.next k = start k := by
  cases k <;> simp_all [joins, next]

end Tail

theorem breaks_links_le {t : Tail} (ht : t.links = true) (s : Text) :
    breaks t s ≤ breaks .plain s := by
  induction s generalizing t with
  | nil => exact Nat.le_refl _
  | cons c s ih =>
    rw [breaks_cons, breaks_cons]
    cases hplain : Tail.plain.joins (ClusterClass.of c) with
    | true =>
      obtain ⟨hj, hnext, hkept⟩ := Tail.joins_of_links ht hplain
      rw [if_pos hj, if_pos rfl, hnext]
      rcases hkept with hl | hp
      · exact ih hl
      · exact Nat.le_of_eq (by rw [hp])
    | false =>
      rw [if_neg Bool.false_ne_true]
      split
      · next hj =>
        rw [Tail.next_of_links ht hplain hj]
        exact Nat.le_succ _
      · exact Nat.le_refl _

/-- A run of regional indicators is paired anew if its first one is taken away; its pairs get or
lose one cluster at most. -/
theorem breaks_regional (s : Text) :
    breaks .regional s ≤ breaks .plain s ∧ breaks .plain s ≤ breaks .regional s + 1 := by
  induction s with
  | nil => exact ⟨Nat.le_refl _, Nat.le_succ _⟩
  | cons c s ih =>
    obtain ⟨hle, hge⟩ := ih
    rw [breaks_cons, breaks_cons]
    by_cases hk : ClusterClass.of c = .regional
    · rw [hk]
      exact ⟨hge, Nat.succ_le_succ hle⟩
    · obtain ⟨hjoins, hregional, hplain⟩ := Tail.regional_eq_plain hk
      rw [hjoins, hregional, hplain]
      exact ⟨Nat.le_refl _, Nat.le_succ _⟩

theorem breaks_next_le (t : Tail) (k : ClusterClass) (s : Text) :
    breaks (t.next k) s ≤ breaks (.start k) s + 1 := by
  rcases t.next_cases k with heq | ⟨hlinks, hplain⟩ | ⟨hnext, hstart⟩
  · rw [heq]
    exact Nat.le_succ _
  · rw [hplain]
    exact Nat.le_succ_of_le (breaks_links_le hlinks s)
  · rw [hnext, hstart]
    exact (breaks_regional s).2

/-- Behind a tail a text never has more clusters than by itself. -/
theorem breaks_le_length_clusters (tail : Tail) (s : Text) :
    breaks tail s ≤ (clusters s).length := by
  cases s with
  | nil => exact Nat.le_refl _
  | cons c s =>
    rw [breaks_cons, length_clusters_cons]
    split
    · exact breaks_next_le tail _ s
    · exact Nat.le_refl _

theorem apart_of_not_joins {a : Text} (ha : a ≠ []) {c : Char} (s : Text)
    (h : (endTail a).joins (ClusterClass.of c) = false) : Apart a (c :: s) := by
  rw [Apart, clusters_append ha, splitFrom, if_neg (by simp [h]), extendLast_nil]
  rfl

theorem length_clusters_concat_of_apart {a : Text} {c : Char} (h : Apart a [c]) :
    (clusters (a ++ [c])).length = (clusters a).length + 1 := by
  rw [h, List.length_append]
  rfl

theorem length_clusters_concat_of_not_apart {a : Text} {c : Char} (h : ¬ Apart a [c]) :
    (clusters (a ++ [c])).length = (clusters a).length := by
  have ha : a ≠ [] := by
    intro hnil
    rw [hnil] at h
    exact h rfl
  have hjoins : (endTail a).joins (ClusterClass.of c) = true := by
    cases hj : (endTail a).joins (ClusterClass.of c) with
    | true => rfl
    | false => exact absurd (apart_of_not_joins ha [] hj) h
  rw [length_clusters_append ha, breaks_cons, if_pos hjoins]
  rfl

theorem length_clusters_insert_le {a : Text} {c : Char} (h : ¬ Apart a [c]) (b : Text) :
    (clusters (a ++ [c] ++ b)).length ≤ (clusters a).length + (clusters b).length := by
  have hne : a ++ [c] ≠ [] := by simp
  rw [length_clusters_append hne, length_clusters_concat_of_not_apart h]
  exact Nat.add_le_add_left (breaks_le_length_clusters _ _) _

end PostfixCalc.Text
